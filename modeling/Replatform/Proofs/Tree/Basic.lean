import Replatform.Tree.Build
import Replatform.Tree.Lookup

/-!
# Going Through a Tree

The functions on trees are written by cases of whether a node has lost its children, which
makes no difference to any of them. Each gets one equation here that speaks of a node as a
whole, and `Tree.induction` is the way through a tree that goes with these equations: first the
children of a node, then the nodes behind it.

## Main definitions

* `FileNode.mapChildren`: Change the children of a node, if it has any.

## Theorems

* `Tree.induction`: A property of no nodes, kept by a node whose children and successors have it.
* `files_eq`, `mapFiles_eq`, `sort_eq`: What is done to a node.
* `find?_cons`, `modify_cons`: Looking into a node before those behind it.
* `mapFiles_cons`: Changing the files at or below a node, and then those behind it.
-/

namespace Replatform

namespace FileNode

/-- The node with its children changed, if it has any. -/
def mapChildren (f : List FileNode → List FileNode) (node : FileNode) : FileNode :=
  { node with children := node.children.map f }

theorem childList_mapChildren {f : List FileNode → List FileNode} (hf : f [] = [])
    (node : FileNode) : (node.mapChildren f).childList = f node.childList := by
  rcases node with ⟨path, name, kind, status, content, _ | children⟩
  · exact hf.symm
  · rfl

theorem mapChildren_mapChildren (f g : List FileNode → List FileNode) (node : FileNode) :
    (node.mapChildren g).mapChildren f = node.mapChildren (f ∘ g) := by
  rw [mapChildren, mapChildren, mapChildren, Option.map_map]

/-- Only what happens to the children that there are makes a difference. -/
theorem mapChildren_congr {f g : List FileNode → List FileNode} {node : FileNode}
    (h : f node.childList = g node.childList) : node.mapChildren f = node.mapChildren g := by
  rcases node with ⟨path, name, kind, status, content, _ | children⟩
  · rfl
  · rw [childList, Option.getD_some] at h
    rw [mapChildren, mapChildren, Option.map_some, Option.map_some, h]

theorem mapChildren_eq_self {f : List FileNode → List FileNode} {node : FileNode}
    (h : f node.childList = node.childList) : node.mapChildren f = node := by
  rcases node with ⟨path, name, kind, status, content, _ | children⟩
  · rfl
  · rw [childList, Option.getD_some] at h
    rw [mapChildren, Option.map_some, h]

theorem files_eq (node : FileNode) :
    files node = if node.kind = .file then [node] else filesAmong node.childList := by
  rcases node with ⟨path, name, _ | _, status, content, _ | children⟩
  · rw [files, if_pos rfl]
  · rw [files, if_pos rfl]
  · rw [files, if_neg (by simp only [reduceCtorEq, not_false_eq_true]), childList, Option.getD_none,
      filesAmong]
  · rw [files, if_neg (by simp only [reduceCtorEq, not_false_eq_true]), childList, Option.getD_some]

theorem mapChildren_of_eq_none {f : List FileNode → List FileNode} {node : FileNode}
    (h : node.children = none) : node.mapChildren f = node := by
  rcases node with ⟨path, name, kind, status, content, children⟩
  rw [mapChildren, h, Option.map_none, ← h]

theorem files_mapChildren {f : List FileNode → List FileNode} (hf : f [] = []) (node : FileNode) :
    files (node.mapChildren f) =
      if node.kind = .file then [node.mapChildren f] else filesAmong (f node.childList) := by
  rw [files_eq, childList_mapChildren hf]
  rfl

theorem mapFiles_eq (f : FileNode → FileNode) (node : FileNode) :
    mapFiles f node = if node.kind = .file then f node else node.mapChildren (mapFilesAmong f) := by
  rcases node with ⟨path, name, _ | _, status, content, _ | children⟩
  · rw [mapFiles, if_pos rfl]
  · rw [mapFiles, if_pos rfl]
  · rw [mapFiles, if_neg (by simp only [reduceCtorEq, not_false_eq_true])]
    rfl
  · rw [mapFiles, if_neg (by simp only [reduceCtorEq, not_false_eq_true])]
    rfl

theorem sortEach_eq_map (nodes : List FileNode) : sortEach nodes = nodes.map sort := by
  induction nodes with
  | nil => rw [sortEach, List.map_nil]
  | cons node nodes ih => rw [sortEach, ih, List.map_cons]

theorem sort_eq (node : FileNode) :
    sort node = node.mapChildren fun children => sortBy before (children.map sort) := by
  rcases node with ⟨path, name, kind, status, content, _ | children⟩
  · rw [sort]
    rfl
  · rw [sort, sortEach_eq_map]
    rfl

end FileNode

namespace Tree

/-- What holds of no nodes, and of a node with others behind it if it holds of its children and of
    the others, holds of every tree. -/
theorem induction {motive : Tree → Prop} (nil : motive [])
    (cons : ∀ node nodes, motive node.childList → motive nodes → motive (node :: nodes)) :
    ∀ tree, motive tree
  | [] => nil
  | ⟨path, name, kind, status, content, none⟩ :: nodes =>
    cons ⟨path, name, kind, status, content, none⟩ nodes nil (induction nil cons nodes)
  | ⟨path, name, kind, status, content, some children⟩ :: nodes =>
    cons ⟨path, name, kind, status, content, some children⟩ nodes (induction nil cons children)
      (induction nil cons nodes)

theorem find?_nil (path : String) : find? path [] = none := by
  rw [find?, FileNode.findAmong?]

theorem find?_cons (path : String) (node : FileNode) (nodes : Tree) :
    find? path (node :: nodes) =
      if node.path = path then some node
      else if Path.isBelow node.path path = true then find? path node.childList
      else find? path nodes := by
  rw [find?, find?, find?, FileNode.findAmong?]
  rcases node with ⟨p, name, kind, status, content, _ | children⟩
  · rw [FileNode.findBelow?, FileNode.childList, Option.getD_none, FileNode.findAmong?]
  · rw [FileNode.findBelow?, FileNode.childList, Option.getD_some]

theorem modify_nil (path : String) (f : FileNode → FileNode) : modify path f [] = [] := by
  rw [modify, FileNode.modifyAmong]

theorem modify_cons (path : String) (f : FileNode → FileNode) (node : FileNode) (nodes : Tree) :
    modify path f (node :: nodes) =
      if node.path = path then f node :: nodes
      else if Path.isBelow node.path path = true then node.mapChildren (modify path f) :: nodes
      else node :: modify path f nodes := by
  rw [modify, modify, FileNode.modifyAmong]
  rcases node with ⟨p, name, kind, status, content, _ | children⟩
  · rw [FileNode.modifyBelow]
    rfl
  · rw [FileNode.modifyBelow]
    rfl

theorem mapFiles_nil (f : FileNode → FileNode) : mapFiles f [] = [] := by
  rw [mapFiles, FileNode.mapFilesAmong]

theorem mapFiles_cons (f : FileNode → FileNode) (node : FileNode) (nodes : Tree) :
    mapFiles f (node :: nodes) =
      (if node.kind = .file then f node else node.mapChildren (mapFiles f)) :: mapFiles f nodes := by
  rw [mapFiles, FileNode.mapFilesAmong, FileNode.mapFiles_eq]
  rfl

end Tree

end Replatform
