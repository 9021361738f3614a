/-!
# Searching in Text

Whether a text begins with, ends in or contains another one, and its division into
lines.

## Main definitions

* `Text.startsWith`, `Text.endsWith`, `Text.contains`: The three relations.
* `Text.lines`: The lines of a text.
-/

namespace Replatform

namespace Text

/-- `part` occurs in the characters. -/
def occurs (part : List Char) : List Char → Bool
  | [] => part.isEmpty
  | c :: cs => part.isPrefixOf (c :: cs) || occurs part cs

/-- The text begins with `part`. -/
def startsWith (s part : String) : Bool :=
  part.toList.isPrefixOf s.toList

/-- The text ends in `part`. -/
def endsWith (s part : String) : Bool :=
  part.toList.isSuffixOf s.toList

/-- `part` occurs in the text. -/
def contains (s part : String) : Bool :=
  occurs part.toList s.toList

/-- The lines of a text, without their endings. A line feed ends a line, so there is no line
    behind the last one. -/
def lines (s : String) : List String :=
  let parts := (s.toList.splitOn '\n').map String.ofList
  if parts.getLast? = some "" then parts.dropLast else parts

end Text

end Replatform
