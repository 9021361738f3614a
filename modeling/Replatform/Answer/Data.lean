import Replatform.Json.Value
import Replatform.Markdown.Blocks

/-!
# Data in Answers

Finding the JSON value in an answer: the answer itself, one of its code blocks, or
the widest stretch between braces or brackets, in this order. The fields of an object
that are found this way are read leniently, since a single odd field should not cost
the others.

## Main definitions

* `Answer.extract?`: The JSON value in an answer.
* `Answer.textField?`, `Answer.textList`: Lenient reading of fields.
-/

namespace Replatform

namespace Answer

/-- The stretch from the first `opening` to the last `closing` behind it, empty if there is
    none. -/
def widest (opening closing : Char) (cs : List Char) : List Char :=
  ((cs.dropWhile (· != opening)).reverse.dropWhile (· != closing)).reverse

/-- The value of the widest stretch between two characters. -/
def between? (opening closing : Char) (text : String) : Option Json :=
  match widest opening closing text.toList with
  | [] => none
  | span => Json.parse? (String.ofList span)

/-- The JSON value in an answer. -/
def extract? (text : String) : Option Json :=
  let trimmed := Text.trim text
  Json.parse? trimmed
    <|> (Markdown.codeBlocks text).findSome? (fun b => Json.parse? (Text.trim b.code))
    <|> between? '{' '}' trimmed
    <|> between? '[' ']' trimmed

/-- The members of an object. -/
abbrev Members := List (String × Json)

/-- The value of the first of some keys that is there. -/
def firstField? (o : Members) (keys : List String) : Option Json :=
  keys.findSome? fun k => List.lookup k o

/-- The trimmed text of the first of some keys that holds a text. -/
def textField? (o : Members) (keys : List String) : Option String :=
  (keys.findSome? fun k => (List.lookup k o).bind Json.str?).map Text.trim

/-- The text of an entry of a list, or of the field that names it. -/
def entryText? : Json → Option String
  | .str s => some (Text.trim s)
  | .obj o => textField? o ["name", "title", "description", "message"]
  | _ => none

/-- The texts of a list, blank ones left out. Anything but a list counts as an empty one. -/
def textList (o : Members) (key : String) : List String :=
  match List.lookup key o with
  | some (.arr items) => (items.filterMap entryText?).filter (· ≠ "")
  | _ => []

end Answer

end Replatform
