import Replatform.Answer.Data
import Replatform.Path
import Replatform.Text.Search

/-!
# Reading a Plan

The list of planned files in an answer. A plan is a list of paths, a tree of named
nodes, or either of these in a wrapper; without JSON, the lines that look like paths
are taken. What is found is cleaned: no empty paths, no directories, no addresses of
other sites, every path in normal form and only once.

## Main definitions

* `Answer.collect`: The paths in a JSON value.
* `Answer.sanitize`: Clean paths.
* `Answer.plan`: The planned files in an answer.
-/

namespace Replatform

namespace Answer

/-- A path below a directory, which is the root if empty. -/
def under (base path : String) : String :=
  if base = "" then path else base ++ "/" ++ path

/-- The keys under which a wrapper holds the plan. -/
def wrapperKeys : List String := ["files", "structure", "paths"]

mutual

/-- The paths in a value that stands in the directory `base`. -/
def collect (base : String) : Json → List String
  | .str s => [under base s]
  | .arr items => collectAll base items
  | .obj members =>
    match wrapperKeys.find? fun k => (List.lookup k members).isSome with
    | some key => collectField base key members
    | none =>
      let path := textField? members ["path"]
      match path.or (textField? members ["name"]) with
      | none => []
      | some last =>
        let here := under base last
        match List.lookup "children" members with
        | some (.arr _) =>
          -- Below a node with a path, paths are complete.
          collectField (if path.isSome then "" else here) "children" members
        | _ =>
          if (List.lookup "type" members).bind Json.str? = some "directory" then [] else [here]
  | _ => []

/-- The paths in the items of a list. -/
def collectAll (base : String) : List Json → List String
  | [] => []
  | item :: items => collect base item ++ collectAll base items

/-- The paths in the value of a key. -/
def collectField (base key : String) : List (String × Json) → List String
  | [] => []
  | (k, value) :: members => if k = key then collect base value else collectField base key members

end

/-- A path in normal form, unless it is empty, a directory or the address of another site. -/
def cleanPath? (raw : String) : Option String :=
  let path := (Text.trim raw).map fun c => if c == '\\' then '/' else c
  if path = "" ∨ Text.endsWith path "/" ∨ Text.contains path "://" then none
  else
    let normal := Path.normalize path
    if normal = "" then none else some normal

/-- Clean paths, each once, in the order of their first occurrence. -/
def sanitize (raw : List String) : List String :=
  (raw.filterMap cleanPath?).eraseDups

/-- The path in a line of prose: a bullet and backticks around it are dropped, and it has a dot
    but no space in it. -/
def linePath? (line : String) : Option String :=
  let isTick (c : Char) : Bool := c == Markdown.backtick
  let body := (Text.strip line.toList).dropWhile fun c => c == '-' || c == '*' || c == ' '
  let body := ((body.dropWhile isTick).reverse.dropWhile isTick).reverse
  if body ≠ [] ∧ ' ' ∉ body ∧ '.' ∈ body then some (String.ofList body) else none

/-- The planned files in an answer. -/
def plan (text : String) : List String :=
  match extract? text with
  | some value => sanitize (collect "" value)
  | none => sanitize ((Text.lines text).filterMap linePath?)

end Answer

end Replatform
