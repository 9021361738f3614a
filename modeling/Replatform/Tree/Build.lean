import Replatform.Sort
import Replatform.Tree.Node

/-!
# Trees from Path Lists

A plan arrives as a flat list of file paths, in any order and spelling. The tree
of such a list has the directories that the paths imply. Where one path turns out
to be a directory of another, the directory wins. Each level lists directories
first and is sorted by name, so the tree depends only on the set of the paths'
normal forms.

## Main definitions

* `Tree.insert`: Add the file at a list of segments.
* `Tree.sort`: Order every level.
* `Tree.build`: The tree of a list of paths.
-/

namespace Replatform

namespace FileNode

/-- The node as a directory, with `f` applied to its children. A file loses its content. -/
def asDirectory (f : List FileNode → List FileNode) (node : FileNode) : FileNode :=
  { node with
    kind := .directory
    content := if node.isFile then none else node.content
    children := some (f node.childList) }

/-- Directories come before files, and each group is in the order of the names. -/
def before (a b : FileNode) : Bool :=
  if a.isDirectory = b.isDirectory then a.name ≤ b.name else a.isDirectory

mutual

/-- Order every level below a node. -/
def sort : FileNode → FileNode
  | ⟨path, name, kind, status, content, some children⟩ =>
    ⟨path, name, kind, status, content, some (sortBy before (sortEach children))⟩
  | ⟨path, name, kind, status, content, none⟩ => ⟨path, name, kind, status, content, none⟩

/-- Order every level below each of some nodes. -/
def sortEach : List FileNode → List FileNode
  | [] => []
  | node :: nodes => sort node :: sortEach nodes

end

end FileNode

namespace Tree

/-- Apply `f` to the first node called `name`, or to a new node at the end. -/
def update (name : String) (fresh : FileNode) (f : FileNode → FileNode) : Tree → Tree
  | [] => [f fresh]
  | node :: nodes => if node.name = name then f node :: nodes else node :: update name fresh f nodes

/-- The path of an entry of the directory `base`, the root if that is empty. -/
def childPath (base name : String) : String :=
  if base = "" then name else base ++ "/" ++ name

/-- Add the file with the given segments below the directory `base`, whose entries are
    `level`. -/
def insert (base : String) : List String → Tree → Tree
  | [], level => level
  -- A directory that is there already stays one.
  | [name], level => update name (.file (childPath base name)) id level
  | name :: rest, level =>
    let path := childPath base name
    update name (.directory path) (FileNode.asDirectory (insert path rest)) level

/-- Order every level of a tree. -/
def sort (tree : Tree) : Tree :=
  sortBy FileNode.before (FileNode.sortEach tree)

/-- The tree of a list of paths. -/
def build (paths : List String) : Tree :=
  sort ((paths.map Path.normalSegments).foldl (fun tree segs => insert "" segs tree) [])

end Tree

end Replatform
