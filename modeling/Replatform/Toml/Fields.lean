import Replatform.Toml.Value

/-!
# Records in TOML

Reading a TOML value as a value of a given type. A record is a table with a field under
each of its keys, or an array of its fields in order; fields that are missing take their
default values, and what belongs to no field is passed over. A date has none of the
fields of any record, and so is as good as an empty table.

## Main definitions

* `Toml.Value.string?`, `nat?`, `float?`, `bool?`, `strings?`: The values of plain types.
* `Toml.Fields`: The fields of a record.
-/

namespace Replatform

namespace Toml

namespace Value

/-- A string. -/
def string? : Value → Option String
  | .string text => some text
  | _ => none

/-- An integer that is at least zero and less than `bound`. -/
def nat? (bound : Nat) : Value → Option Nat
  | .integer i => if 0 ≤ i ∧ i < bound then some i.toNat else none
  | _ => none

/-- A number. -/
def float? : Value → Option Float
  | .float x => some x
  | .integer i => some (.ofInt i)
  | _ => none

/-- `true` or `false`. -/
def bool? : Value → Option Bool
  | .bool b => some b
  | _ => none

/-- An array of strings. -/
def strings? : Value → Option (List String)
  | .array items => items.mapM string?
  | _ => none

end Value

/-- The fields of a record that are there. -/
abbrev Fields := List (String × Value)

namespace Fields

/-- The fields of a record with the given names. -/
def of? (names : List String) : Value → Option Fields
  | .table entries => some entries
  | .array items => some (names.zip items)
  | .moment => some []
  | _ => none

/-- The value of a field, or its default. -/
def get? {α : Type} (f : Fields) (name : String) (read : Value → Option α) (default : α) : Option α :=
  match List.lookup name f with
  | some v => read v
  | none => some default

end Fields

end Toml

end Replatform
