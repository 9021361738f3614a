import Replatform.Tree.Node

/-!
# Finding Nodes

A node is found by its path: at each level the search takes the first node that is
it or that is an ancestor of it, and does not come back. Where every node is in the
directory that its path names, that finds every node, and changing the node that is
found changes no other.

## Main definitions

* `Tree.find?`: The node with a path.
* `Tree.modify`: Apply a function to the node that `find?` finds.
-/

namespace Replatform

namespace FileNode

mutual

/-- The node with a path below a node. -/
def findBelow? (path : String) : FileNode → Option FileNode
  | ⟨_, _, _, _, _, some children⟩ => findAmong? path children
  | ⟨_, _, _, _, _, none⟩ => none

/-- The node with a path at or below some nodes. -/
def findAmong? (path : String) : List FileNode → Option FileNode
  | [] => none
  | node :: nodes =>
    if node.path = path then some node
    else if Path.isBelow node.path path then findBelow? path node
    else findAmong? path nodes

end

mutual

/-- Apply `f` to the node with a path below a node. -/
def modifyBelow (path : String) (f : FileNode → FileNode) : FileNode → FileNode
  | ⟨p, name, kind, status, content, some children⟩ =>
    ⟨p, name, kind, status, content, some (modifyAmong path f children)⟩
  | ⟨p, name, kind, status, content, none⟩ => ⟨p, name, kind, status, content, none⟩

/-- Apply `f` to the node with a path at or below some nodes. -/
def modifyAmong (path : String) (f : FileNode → FileNode) : List FileNode → List FileNode
  | [] => []
  | node :: nodes =>
    if node.path = path then f node :: nodes
    else if Path.isBelow node.path path then modifyBelow path f node :: nodes
    else node :: modifyAmong path f nodes

end

end FileNode

namespace Tree

/-- The node with a path. -/
def find? (path : String) (tree : Tree) : Option FileNode :=
  FileNode.findAmong? path tree

/-- Apply `f` to the node with a path, if there is one. -/
def modify (path : String) (f : FileNode → FileNode) (tree : Tree) : Tree :=
  FileNode.modifyAmong path f tree

/-- Set the status of the node with a path. -/
def setStatus (path : String) (status : FileStatus) : Tree → Tree :=
  modify path fun node => { node with status }

/-- Set the content of the node with a path. -/
def setContent (path content : String) : Tree → Tree :=
  modify path fun node => { node with content := some content }

/-- The names under which the text that introduces a project is looked for at its root. -/
def readmeNames : List String :=
  ["README.md", "readme.md", "README", "README.txt"]

/-- The file at the root that introduces the project. -/
def readme? (tree : Tree) : Option String :=
  readmeNames.find? fun name => tree.any fun node => node.isFile && node.path == name

end Tree

end Replatform
