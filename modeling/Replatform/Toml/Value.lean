/-!
# TOML Values

What a TOML document holds. The entries of a table have different keys; their order
means nothing. Of dates and times it is only known that they are there.

## Main definitions

* `Toml.Value`: The values.
* `Toml.maxDepth`: How deep arrays and inline tables may nest.
-/

namespace Replatform

namespace Toml

/-- A value in a document. -/
inductive Value where
  | string (text : String)
  | integer (value : Int)
  | float (value : Float)
  | bool (value : Bool)
  /-- A date, a time or both. -/
  | moment
  | array (items : List Value)
  | table (entries : List (String × Value))
deriving Inhabited

/-- How deep arrays and inline tables may nest, and how many parts a key may have. -/
def maxDepth : Nat := 79

/-- A blank within a line. -/
def isBlank (c : Char) : Bool :=
  c == ' ' || c == '\t'

/-- The characters from the first that is not a blank. -/
def skipBlanks (cs : List Char) : List Char :=
  cs.dropWhile isBlank

/-- The character may stand in a string or a comment: it is no control character other than
    the tab. -/
def isVisible (c : Char) : Bool :=
  c == '\t' || (0x20 ≤ c.toNat && c.toNat != 0x7F)

/-- What follows the end of a line at the start of `cs`, if there is one. -/
def readNewline? : List Char → Option (List Char)
  | '\n' :: rest => some rest
  | '\r' :: '\n' :: rest => some rest
  | _ => none

end Toml

end Replatform
