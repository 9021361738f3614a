import Replatform.Toml.Quoted
import Replatform.Decimal

/-!
# Writing TOML

A document is written with its plain values first and its tables after them, each under
a header with an empty line before it. An array of at most one item stays on its line,
any other takes a line for each item. Floats are written with the fewest digits that read
back, never with an exponent and always with a fraction. Only integers that have 64 bits
with their sign can be written.

## Main definitions

* `Toml.Plain`: The values that are written.
* `Toml.Plain.write?`: A value as it is written.
* `Toml.write?`: A document as it is written.
-/

namespace Replatform

namespace Toml

/-- A value that is written on its own. -/
inductive Plain where
  | string (text : String)
  | natural (value : Nat)
  | float (value : Float)
  | bool (value : Bool)
  | strings (items : List String)

/-- A finite double as it is written. -/
def floatText (x : Float) : String :=
  let parts := floatParts x
  let digits := if parts.mantissa = 0 then "0"
    else (Decimal.shortest (if parts.negative then -x else x)).positional
  let whole := if digits.toList.contains '.' then digits else digits ++ ".0"
  if parts.negative then "-" ++ whole else whole

namespace Plain

/-- An array as it is written. -/
def array : List String → String
  | [] => "[]"
  | [item] => "[" ++ item ++ "]"
  | items => "[" ++ String.join (items.map fun item => "\n    " ++ item ++ ",") ++ "\n]"

/-- A value as it is written, if it can be. -/
def write? : Plain → Option String
  | .string text => some (quoted text)
  | .natural n => if n < UInt64.size / 2 then some (toString n) else none
  | .float x => some (floatText x)
  | .bool b => some (if b then "true" else "false")
  | .strings items => some (array (items.map quoted))

end Plain

/-- The lines of entries. -/
def writeEntries? (entries : List (String × Plain)) : Option String := do
  let lines ← entries.mapM fun (key, value) => do
    return key ++ " = " ++ (← value.write?) ++ "\n"
  return String.join lines

/-- A table under its header. -/
def writeTable? (name : String) (entries : List (String × Plain)) : Option String := do
  return "\n[" ++ name ++ "]\n" ++ (← writeEntries? entries)

/-- A document with plain values and tables, whose keys are plain words. -/
def write? (entries : List (String × Plain)) (tables : List (String × List (String × Plain))) :
    Option String := do
  return (← writeEntries? entries) ++ String.join (← tables.mapM fun (name, es) => writeTable? name es)

end Toml

end Replatform
