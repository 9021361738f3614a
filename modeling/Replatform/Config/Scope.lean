import Replatform.Plan.Pattern
import Replatform.Text.Blank
import Replatform.Text.Search

/-!
# Scope

Which legacy files a migration considers. A file is in scope if it is included, or
nothing is, and if it is not excluded. A pattern that ends in a slash, or in a slash
and two stars, stands for a directory and all below it; any other pattern with a star
is a glob, and one without is a path or the end of a path.

## Main definitions

* `Scope`: The filters.
* `Scope.covers`: What a pattern stands for.
* `Scope.allows`: The files in scope.
-/

namespace Replatform

/-- Which legacy files are considered. -/
structure Scope where
  includes : List String := []
  excludes : List String := []
deriving DecidableEq, Repr, Inhabited

namespace Scope

/-- Nothing is filtered out. -/
def isUnrestricted (s : Scope) : Bool :=
  s.includes.isEmpty && s.excludes.isEmpty

/-- The text without an ending, if it has that ending. -/
def withoutEnding? (ending cs : List Char) : Option (List Char) :=
  if ending.isSuffixOf cs then some (cs.take (cs.length - ending.length)) else none

/-- The directory that a pattern names by its ending. -/
def directory? (pattern : List Char) : Option (List Char) :=
  (withoutEnding? ['/', '*', '*'] pattern).or (withoutEnding? ['/'] pattern)

/-- The text without the current directory in front of it. -/
def dropHere : List Char → List Char
  | '.' :: '/' :: cs => dropHere cs
  | cs => cs

/-- A pattern stands for a path. -/
def covers (pattern path : String) : Bool :=
  let trimmed := Text.strip pattern.toList
  match directory? trimmed with
  | some dir =>
    let dir := String.ofList (dropHere dir)
    dir == "" || path == dir || Text.startsWith path (dir ++ "/")
  | none =>
    if '*' ∈ trimmed then (Pattern.parse (String.ofList trimmed)).accepts path
    else Path.endsWith path (Path.normalize (String.ofList trimmed))

/-- A file is in scope. -/
def allows (s : Scope) (path : String) : Bool :=
  (s.includes.isEmpty || s.includes.any (covers · path)) && !s.excludes.any (covers · path)

end Scope

end Replatform
