import Replatform.Imports

/-!
# Import Graphs

Which files of a project import which. The nodes are the files with content; the
edges lead to paths without `.` and `..`, as the import statements denote them. Such a
statement often leaves out the extension or names a directory, so a path is matched
to a file by trying candidates in a fixed order.

The files reachable from a file are listed breadth first. The list is one fixed
sequence, and asking for a number of related files takes the front of it.

## Main definitions

* `Graph.candidates`, `Graph.firstKnown?`: The files that a path may stand for.
* `Graph`: Files with the paths they import.
* `Graph.build`: The graph of some files.
* `Graph.resolve?`: The file that a path stands for.
* `Graph.reachable`, `Graph.related`: The files around a file.
-/

namespace Replatform

/-- Files with the paths they import. A file occurs once. -/
structure Graph where
  edges : List (String × List String)
deriving DecidableEq, Repr

namespace Graph

instance : Inhabited Graph := ⟨⟨[]⟩⟩

/-- The extensions that an import may leave out. -/
def extensions : List String :=
  ["ts", "tsx", "js", "jsx", "mjs", "cjs", "vue", "svelte", "json", "css", "scss"]

/-- The files that a path may stand for, in the order in which they are tried: itself, with
    an extension, and an index file in the directory of that name. -/
def candidates (target : String) : List String :=
  target :: extensions.map (fun e => target ++ "." ++ e) ++
    extensions.map (fun e => target ++ "/index." ++ e)

/-- The first candidate that is known. The empty path stands for nothing. -/
def firstKnown? (known : String → Bool) (target : String) : Option String :=
  if target = "" then none else (candidates target).find? known

/-- A way to find the import specifiers of a file, given its path and content. -/
abbrev Scanner := String → String → List String

/-- The paths that a file imports, for a list of specifiers: those of relative specifiers,
    each once, without the file itself and without the root. -/
def targets (path : String) (specifiers : List String) : List String :=
  (((specifiers.filter Path.isRelative).map (Path.resolve path)).filter
    fun t => t ≠ "" ∧ t ≠ path).eraseDups

/-- Set the imports of a file, which keeps its place if it has one. -/
def set (path : String) (imports : List String) :
    List (String × List String) → List (String × List String)
  | [] => [(path, imports)]
  | e :: es => if e.1 = path then (path, imports) :: es else e :: set path imports es

/-- Add one file. Files without content or without a path are left out. -/
def add (scanner : Scanner) (g : Graph) (file : String × String) : Graph :=
  let path := Path.normalize file.1
  if path = "" ∨ Text.isBlankText file.2 then g
  else ⟨set path (targets path (scanner path file.2)) g.edges⟩

/-- The graph of some files, where a way to find specifiers is given. -/
def buildWith (scanner : Scanner) (files : List (String × String)) : Graph :=
  files.foldl (add scanner) ⟨[]⟩

/-- The graph of some files. -/
def build (files : List (String × String)) : Graph :=
  buildWith (fun _ text => Imports.scan text) files

/-- The files in the order in which they were added. -/
def keys (g : Graph) : List String :=
  g.edges.map Prod.fst

/-- The number of files. -/
def size (g : Graph) : Nat :=
  g.edges.length

/-- The number of edges. -/
def edgeCount (g : Graph) : Nat :=
  g.edges.foldl (fun n e => n + e.2.length) 0

/-- The path is that of a file. -/
def contains (g : Graph) (path : String) : Bool :=
  g.edges.any (·.1 == path)

/-- The paths that a file imports, as written. -/
def imports (g : Graph) (path : String) : List String :=
  (List.lookup path g.edges).getD []

/-- The file that a path stands for. -/
def resolve? (g : Graph) (target : String) : Option String :=
  firstKnown? g.contains target

/-- The file that a path stands for, or the path itself. -/
def canonical (g : Graph) (target : String) : String :=
  (g.resolve? target).getD target

/-- The files that a file imports, with paths that stand for no file kept as they are. -/
def resolvedImports (g : Graph) (path : String) : List String :=
  ((g.imports path).map g.canonical).eraseDups

/-- Note the paths that are not among `seen`, at its end, and queue those that are files. -/
def discover (g : Graph) : List String → List String × List String → List String × List String
  | [], state => state
  | target :: rest, (seen, queue) =>
    -- Two spellings of a path that stand for one file count as that file.
    let path := g.canonical target
    if path ∈ seen then discover g rest (seen, queue)
    else
      discover g rest
        (seen ++ [path], if (g.resolve? target).isSome then queue ++ [path] else queue)

/-- Take files from the queue and note what they import. Every file is queued once, so the
    number of files is fuel enough. -/
def explore (g : Graph) : Nat → List String × List String → List String
  | 0, (seen, _) => seen
  | _ + 1, (seen, []) => seen
  | fuel + 1, (seen, file :: queue) => explore g fuel (g.discover (g.imports file) (seen, queue))

/-- Everything reachable from a file by imports, nearest first, without the file. -/
def reachable (g : Graph) (start : String) : List String :=
  match g.resolve? start with
  -- The file itself is the first thing seen.
  | some file => (g.explore g.size ([file], [file])).tail
  | none => []

/-- The first `limit` paths reachable from a file. -/
def related (g : Graph) (start : String) (limit : Nat) : List String :=
  (g.reachable start).take limit

end Graph

end Replatform
