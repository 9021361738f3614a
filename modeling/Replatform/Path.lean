import Replatform.Names
import Replatform.Text.Lowercase

/-!
# Paths

Root-relative paths with `/` between their segments. A path is a plain string,
since paths arrive in any shape from listings, plans and import statements; what
makes one usable is its normal form, in which no segment is empty, `.` or `..`.

Normalization is a fold over the segments with a stack: a segment is pushed, `.`
and the empty segment are skipped, and `..` pops. A pop at the root does nothing,
so no path can climb out of the project.

## Main definitions

* `Path.segments`, `Path.ofSegments`: A path as the list of its segments.
* `Path.step`, `Path.normalize`: The fold and the normal form.
* `Path.join`, `Path.resolve`: A path relative to a directory or to a file.
* `Path.parent`, `Path.fileName`, `Path.extension`, `Path.fileStem`: Parts of a path.
* `Path.endsWith`: Being a suffix in whole segments.
* `Path.tokens`: The lower-case words of a path.
-/

namespace Replatform

namespace Path

/-- The part before and the part after the last `c`. -/
def splitLast (c : Char) : List Char → Option (List Char × List Char)
  | [] => none
  | x :: xs =>
    match splitLast c xs with
    | some (before, after) => some (x :: before, after)
    | none => if x = c then some ([], xs) else none

/-- The segments of a path, empty ones included. -/
def segments (path : String) : List String :=
  (path.toList.splitOn '/').map String.ofList

/-- The path with the given segments. -/
def ofSegments (segs : List String) : String :=
  String.ofList (List.intercalate ['/'] (segs.map String.toList))

/-- What one segment does to the stack of segments, whose top is its head. -/
def step (stack : List String) (segment : String) : List String :=
  if segment = "" ∨ segment = "." then stack
  else if segment = ".." then stack.tail
  else segment :: stack

/-- The segments of the normal form. -/
def normalSegments (path : String) : List String :=
  ((segments path).foldl step []).reverse

/-- The normal form: no empty, `.` or `..` segment. -/
def normalize (path : String) : String :=
  ofSegments (normalSegments path)

/-- The path is its own normal form. -/
def IsNormal (path : String) : Prop :=
  normalize path = path

instance (path : String) : Decidable (IsNormal path) :=
  inferInstanceAs (Decidable (normalize path = path))

/-- The directory part, none for an entry of the root. -/
def parent (path : String) : Option String :=
  (splitLast '/' path.toList).map fun parts => String.ofList parts.1

/-- The directory part, empty for an entry of the root. -/
def dir (path : String) : String :=
  (parent path).getD ""

/-- The last segment. -/
def fileName (path : String) : String :=
  match splitLast '/' path.toList with
  | some (_, name) => String.ofList name
  | none => path

/-- What follows the last dot of the last segment. A name that begins with its only
    dot, such as `.env`, has no extension. -/
def extension (path : String) : Option String :=
  match splitLast '.' (fileName path).toList with
  | some (before, after) => if before = [] then none else some (String.ofList after)
  | none => none

/-- The path without the extension of its last segment. -/
def stripExtension (path : String) : String :=
  match extension path, splitLast '.' path.toList with
  | some _, some (before, _) => String.ofList before
  | _, _ => path

/-- The last segment without its extension. -/
def fileStem (path : String) : String :=
  stripExtension (fileName path)

/-- The normal form of `rel` taken from the directory `base`. -/
def join (base rel : String) : String :=
  if base = "" then normalize rel else normalize (base ++ "/" ++ rel)

/-- The import specifier is relative: it begins with `./` or `../`. -/
def isRelative (specifier : String) : Bool :=
  ['.', '/'].isPrefixOf specifier.toList || ['.', '.', '/'].isPrefixOf specifier.toList

/-- The path that a specifier in `file` denotes. -/
def resolve (file specifier : String) : String :=
  join (dir file) specifier

/-- `suffix` is not empty and is made of the last whole segments of `path`. -/
def endsWith (path suffix : String) : Bool :=
  suffix != "" && (path == suffix || ('/' :: suffix.toList).isSuffixOf path.toList)

/-- `ancestor` is a proper leading part of `path` in whole segments. -/
def isBelow (ancestor path : String) : Bool :=
  (ancestor.toList ++ ['/']).isPrefixOf path.toList

/-- The character separates the words of a path. -/
def isTokenBreak (c : Char) : Bool :=
  c == '/' || c == '_' || c == '.' || c == '-'

/-- The words of a path in lower case. -/
def tokens (path : String) : Names :=
  Names.ofList (((path.toList.splitOnP isTokenBreak).filter (· ≠ [])).map fun word =>
    Text.lower (String.ofList word))

/-- The segments of the directory part that are not empty. -/
def dirSegments (path : String) : List String :=
  (segments (dir path)).filter (· ≠ "")

end Path

end Replatform
