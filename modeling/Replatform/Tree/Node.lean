import Replatform.Path

/-!
# File Nodes

The nodes of a file tree. The same type serves for the legacy repository, where
only the paths matter, and for the target scaffold, whose files gain a status and
a content while they are generated.

A directory that has lost its children and one that has none are told apart, and
so are a file without content and an empty file, because a tree is exchanged with
callers who can see the difference.

## Main definitions

* `NodeKind`, `FileStatus`: What a node is, and how far its generation has come.
* `FileNode`: A node with its children.
* `FileNode.file`, `FileNode.directory`: Fresh nodes.
* `FileNode.files`, `FileNode.filesAmong`: The files below a node, depth first.
-/

namespace Replatform

/-- What a node is. -/
inductive NodeKind where
  | file
  | directory
deriving DecidableEq, Repr

/-- How far the generation of a file has come. -/
inductive FileStatus where
  | pending
  | inProgress
  | done
  | error
deriving DecidableEq, Repr, Inhabited

/-- Nothing more happens to a file with this status. -/
def FileStatus.isTerminal : FileStatus → Bool
  | .done | .error => true
  | .pending | .inProgress => false

/-- A file or directory. -/
structure FileNode where
  path : String
  name : String
  kind : NodeKind
  status : FileStatus
  content : Option String
  children : Option (List FileNode)

/-- The nodes at the root of a project. -/
abbrev Tree := List FileNode

namespace FileNode

/-- A pending file. -/
def file (path : String) : FileNode :=
  { path, name := Path.fileName path, kind := .file, status := .pending, content := none,
    children := none }

instance : Inhabited FileNode := ⟨file ""⟩

/-- An empty directory. -/
def directory (path : String) : FileNode :=
  { path, name := Path.fileName path, kind := .directory, status := .pending, content := none,
    children := some [] }

/-- The node is a file. -/
def isFile (node : FileNode) : Bool :=
  node.kind == .file

/-- The node is a directory. -/
def isDirectory (node : FileNode) : Bool :=
  node.kind == .directory

/-- The children, none for a file. -/
def childList (node : FileNode) : List FileNode :=
  node.children.getD []

/-- The content, empty if there is none. -/
def text (node : FileNode) : String :=
  node.content.getD ""

mutual

/-- The files at or below a node, depth first. -/
def files : FileNode → List FileNode
  | ⟨path, name, .file, status, content, children⟩ =>
    [⟨path, name, .file, status, content, children⟩]
  | ⟨_, _, .directory, _, _, some children⟩ => filesAmong children
  | ⟨_, _, .directory, _, _, none⟩ => []

/-- The files at or below some nodes, depth first. -/
def filesAmong : List FileNode → List FileNode
  | [] => []
  | node :: nodes => files node ++ filesAmong nodes

end

mutual

/-- Apply `f` to every file at or below a node. -/
def mapFiles (f : FileNode → FileNode) : FileNode → FileNode
  | ⟨path, name, .file, status, content, children⟩ =>
    f ⟨path, name, .file, status, content, children⟩
  | ⟨path, name, .directory, status, content, some children⟩ =>
    ⟨path, name, .directory, status, content, some (mapFilesAmong f children)⟩
  | ⟨path, name, .directory, status, content, none⟩ =>
    ⟨path, name, .directory, status, content, none⟩

/-- Apply `f` to every file at or below some nodes. -/
def mapFilesAmong (f : FileNode → FileNode) : List FileNode → List FileNode
  | [] => []
  | node :: nodes => mapFiles f node :: mapFilesAmong f nodes

end

mutual

/-- The node and all nodes below it, parents first, with their depths. -/
def outline (depth : Nat) : FileNode → List (Nat × FileNode)
  | ⟨path, name, kind, status, content, some children⟩ =>
    (depth, ⟨path, name, kind, status, content, some children⟩) ::
      outlineAmong (depth + 1) children
  | ⟨path, name, kind, status, content, none⟩ =>
    [(depth, ⟨path, name, kind, status, content, none⟩)]

/-- Some nodes and all nodes below them, parents first, with their depths. -/
def outlineAmong (depth : Nat) : List FileNode → List (Nat × FileNode)
  | [] => []
  | node :: nodes => outline depth node ++ outlineAmong depth nodes

end

end FileNode

namespace Tree

/-- The files of a tree, depth first. -/
def files (tree : Tree) : List FileNode :=
  FileNode.filesAmong tree

/-- Apply `f` to every file of a tree. -/
def mapFiles (f : FileNode → FileNode) (tree : Tree) : Tree :=
  FileNode.mapFilesAmong f tree

/-- All nodes of a tree, parents first, with their depths. -/
def outline (tree : Tree) : List (Nat × FileNode) :=
  FileNode.outlineAmong 0 tree

/-- The paths of the files, depth first. -/
def filePaths (tree : Tree) : List String :=
  (files tree).map FileNode.path

end Tree

end Replatform
