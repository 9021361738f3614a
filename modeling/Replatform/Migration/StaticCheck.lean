import Replatform.Graph
import Replatform.Table
import Replatform.Text.Blank

/-!
# Static Check

What can be found wrong with a generated project without asking anybody: files without
content, and relative imports that lead to no file of the project.

## Main definitions

* `ProjectFiles`: A project.
* `staticCheck`: Its issues.
-/

namespace Replatform

/-- The files of a project with their contents. -/
abbrev ProjectFiles := Table String

/-- The relative imports of a file that lead to no file of the project. -/
def brokenImports (files : ProjectFiles) (path content : String) : List String :=
  (Imports.relative content).filter fun specifier =>
    (Graph.firstKnown? files.contains (Path.resolve path specifier)).isNone

/-- The issues of one file of a project. -/
def fileIssues (files : ProjectFiles) (path content : String) : List String :=
  if Text.isBlankText content then [path ++ ": file is empty"]
  else (brokenImports files path content).map fun specifier =>
    path ++ ": unresolved import '" ++ specifier ++ "'"

/-- The issues of a project. -/
def staticCheck (files : ProjectFiles) : List String :=
  files.entries.flatMap fun f => fileIssues files f.1 f.2

end Replatform
