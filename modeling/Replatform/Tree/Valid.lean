import Replatform.Tree.Node

/-!
# Valid Trees

What makes a tree usable: every path is in normal form and not empty, no path
occurs twice, files have no children, and the directory part of every path is a
directory of the tree.

The check visits the nodes of a level from the last to the first and each
directory's children right after it, and reports the first fault it meets. Only a
tree without any other fault is checked for missing parents.

## Main definitions

* `TreeError`: Why a tree is not valid.
* `Tree.visits`: The nodes in the order of the check.
* `Tree.validate`: The check.
-/

namespace Replatform

/-- Why a tree is not valid, or a node was not found in it. -/
inductive TreeError where
  | emptyPath
  | invalidPath (path : String)
  | duplicatePath (path : String)
  | missingParent (path parent : String)
  | fileWithChildren (path : String)
  | notFound (path : String)
deriving DecidableEq, Repr

/-- The wording of an error. -/
def TreeError.message : TreeError → String
  | .emptyPath => "empty path"
  | .invalidPath path => "invalid path: " ++ path
  | .duplicatePath path => "duplicate path: " ++ path
  | .missingParent path parent =>
    "missing parent directory for " ++ path ++ " (expected " ++ parent ++ ")"
  | .fileWithChildren path => "file node has children: " ++ path
  | .notFound path => "node not found: " ++ path

namespace FileNode

mutual

/-- A node and the nodes below it in the order of the check. -/
def visits : FileNode → List FileNode
  | ⟨path, name, .directory, status, content, some children⟩ =>
    ⟨path, name, .directory, status, content, some children⟩ :: visitsAmong children
  | ⟨path, name, .directory, status, content, none⟩ =>
    [⟨path, name, .directory, status, content, none⟩]
  | ⟨path, name, .file, status, content, children⟩ =>
    [⟨path, name, .file, status, content, children⟩]

/-- Some nodes and the nodes below them in the order of the check, last node first. -/
def visitsAmong : List FileNode → List FileNode
  | [] => []
  | node :: nodes => visitsAmong nodes ++ visits node

end

/-- The first fault that a node has on its own, when nodes with the paths `seen` came
    before it. -/
def fault? (seen : List String) (node : FileNode) : Option TreeError :=
  if node.path = "" then some .emptyPath
  else if Path.normalize node.path ≠ node.path then some (.invalidPath node.path)
  else if node.path ∈ seen then some (.duplicatePath node.path)
  else if node.isFile && !node.childList.isEmpty then some (.fileWithChildren node.path)
  else none

/-- The directory part of the path is not among `directories`. -/
def orphan? (directories : List String) (node : FileNode) : Option TreeError :=
  match Path.parent node.path with
  | some parent => if parent ∈ directories then none else some (.missingParent node.path parent)
  | none => none

end FileNode

namespace Tree

/-- All nodes of a tree in the order of the check. -/
def visits (tree : Tree) : List FileNode :=
  FileNode.visitsAmong tree

/-- The first fault among some nodes, when nodes with the paths `seen` came before them. -/
def firstFault? : List String → List FileNode → Option TreeError
  | _, [] => none
  | seen, node :: nodes =>
    match node.fault? seen with
    | some e => some e
    | none => firstFault? (node.path :: seen) nodes

/-- The paths of the directories of a tree. -/
def directoryPaths (tree : Tree) : List String :=
  ((visits tree).filter FileNode.isDirectory).map FileNode.path

/-- Check a tree. -/
def validate (tree : Tree) : Except TreeError Unit :=
  match firstFault? [] (visits tree) with
  -- Parents are looked for only among paths that are fit to be looked at.
  | some e => .error e
  | none =>
    match (visits tree).findSome? (FileNode.orphan? (directoryPaths tree)) with
    | some e => .error e
    | none => .ok ()

/-- The tree passes the check. -/
def IsValid (tree : Tree) : Prop :=
  validate tree = .ok ()

end Tree

end Replatform
