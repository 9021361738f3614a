import Replatform.Answer.Data
import Replatform.Path
import Replatform.Text.Search

/-!
# Reading a Review

The verdict in an answer to a verification request: issues, and complete new
contents for files. An issue that names a file which its message does not mention
gets the name in front.

## Main definitions

* `Fix`: The new content of a file.
* `Review`: What a review says.
* `Answer.review`: The review in an answer.
-/

namespace Replatform

/-- The complete new content of a file. -/
structure Fix where
  path : String
  content : String
deriving DecidableEq, Repr

/-- What one pass of the verification got back. -/
structure Review where
  passed : Bool := false
  issues : List String := []
  fixes : List Fix := []
  /-- There was no JSON object in the answer. -/
  malformed : Bool := false
deriving DecidableEq, Repr, Inhabited

namespace Answer

/-- The text of an issue. -/
def issueText? : Json → Option String
  | .str s => some (Text.trim s)
  | .obj o => do
    let message ← textField? o ["message", "description", "issue"]
    match textField? o ["file", "path"] with
    | some file => if Text.contains message file then message else file ++ ": " ++ message
    | none => message
  | _ => none

/-- The issues in an answer. -/
def issues (o : Members) : List String :=
  match List.lookup "issues" o with
  | some (.arr items) => (items.filterMap issueText?).filter (· ≠ "")
  | _ => []

/-- A fix that is an entry of a list. -/
def listedFix? : Json → Option Fix
  | .obj o => do
    let path ← textField? o ["path", "file"]
    let content ← (List.lookup "content" o).bind Json.str?
    return ⟨Path.normalize path, content⟩
  | _ => none

/-- A fix that is a member of an object, its key the path. -/
def keyedFix? (member : String × Json) : Option Fix :=
  member.2.str?.map fun content => ⟨Path.normalize member.1, content⟩

/-- The fixes in an answer. -/
def fixes (o : Members) : List Fix :=
  let all := match firstField? o ["fixes", "fixedFiles", "files"] with
    | some (.arr items) => items.filterMap listedFix?
    | some (.obj members) => members.filterMap keyedFix?
    | _ => []
  all.filter (·.path ≠ "")

/-- The review in an answer. -/
def review (text : String) : Review :=
  match extract? text with
  | some (.obj o) =>
    { passed := ((List.lookup "passed" o).bind Json.bool?).getD false
      issues := issues o
      fixes := fixes o
      malformed := false }
  | _ => { malformed := true }

end Answer

end Replatform
