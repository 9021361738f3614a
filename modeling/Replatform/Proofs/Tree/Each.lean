import Replatform.Proofs.Tree.Rooted

/-!
# Every Node of a Tree

Properties of what is in the nodes of a tree, wherever they are. `Each` speaks of the nodes as
they are listed in the outline of a tree, and `each_cons` takes it apart along the tree, so that
what is done to a tree can be followed node by node.

A property of all nodes is kept by a change of one of them if the change keeps it in every node.
A tree that was just built has nothing in its nodes.

## Main definitions

* `Tree.Each`: A property of the status and the content of every node.
* `IsFresh`, `IsSettled`: Nothing has been done for a file, or nothing is being done.

## Theorems

* `each_cons`, `each_iff`: A property of every node, along the tree.
* `each_modify`, `each_mapFiles`: Changes that keep a property keep it in every node.
* `each_build`: A tree that was just built has nothing in its nodes.
* `Each.of_mem_files`: What holds of every node holds of the files.
-/

namespace Replatform

/-- Nothing has been done for a file. -/
def IsFresh (status : FileStatus) (content : Option String) : Prop :=
  status = .pending ∧ content = none

/-- Nothing is being done for a file, and it has a content if it is done. -/
def IsSettled (status : FileStatus) (content : Option String) : Prop :=
  status ≠ .inProgress ∧ (status = .done → content.isSome = true)

theorem isSettled_pending (content : Option String) : IsSettled .pending content := by
  unfold IsSettled
  simp only [ne_eq, reduceCtorEq, not_false_eq_true, false_implies, and_self]

theorem IsFresh.isSettled {status : FileStatus} {content : Option String}
    (h : IsFresh status content) : IsSettled status content := by
  rw [h.1]
  exact isSettled_pending content

namespace Tree

open FileNode (filesAmong outlineAmong)

/-- What holds of the status and the content of every node. -/
def Each (Q : FileStatus → Option String → Prop) (tree : Tree) : Prop :=
  ∀ entry ∈ tree.outline, Q entry.2.status entry.2.content

variable {Q Q' : FileStatus → Option String → Prop}

theorem Each.mono {tree : Tree} (h : Each Q tree)
    (hQ : ∀ status content, Q status content → Q' status content) : Each Q' tree :=
  fun entry hentry => hQ _ _ (h entry hentry)

theorem outlineAmong_cons (depth : Nat) (node : FileNode) (nodes : Tree) :
    outlineAmong depth (node :: nodes) =
      (depth, node) :: (outlineAmong (depth + 1) node.childList ++ outlineAmong depth nodes) := by
  rcases node with ⟨path, name, kind, status, content, _ | children⟩
  · rw [outlineAmong, FileNode.outline, FileNode.childList, Option.getD_none, outlineAmong]
    rfl
  · rw [outlineAmong, FileNode.outline, FileNode.childList, Option.getD_some]
    rfl

/-- How deep the nodes are makes no difference to what is in them. -/
theorem forall_mem_outlineAmong_iff (depth : Nat) (tree : Tree) :
    (∀ entry ∈ outlineAmong depth tree, Q entry.2.status entry.2.content) ↔ Each Q tree := by
  induction tree using Tree.induction generalizing depth with
  | nil => simp only [Each, Tree.outline, outlineAmong]
  | cons node nodes ihchildren ihnodes =>
      rw [Each, Tree.outline, outlineAmong_cons, outlineAmong_cons]
      simp only [List.forall_mem_cons, List.forall_mem_append, ihchildren, ihnodes]

theorem each_nil : Each Q [] := by
  simp only [Each, Tree.outline, outlineAmong, List.not_mem_nil, false_implies, implies_true]

theorem each_cons (node : FileNode) (nodes : Tree) :
    Each Q (node :: nodes) ↔
      Q node.status node.content ∧ Each Q node.childList ∧ Each Q nodes := by
  rw [Each, Tree.outline, outlineAmong_cons, List.forall_mem_cons, List.forall_mem_append,
    forall_mem_outlineAmong_iff, forall_mem_outlineAmong_iff]

theorem each_iff (tree : Tree) :
    Each Q tree ↔ ∀ node ∈ tree, Q node.status node.content ∧ Each Q node.childList := by
  induction tree with
  | nil => exact ⟨fun _ _ h => absurd h List.not_mem_nil, fun _ => each_nil⟩
  | cons node nodes ih => rw [each_cons, List.forall_mem_cons, ih, and_assoc]

/-- What holds of every node holds of the files. -/
theorem Each.of_mem_files {tree : Tree} (h : Each Q tree) {file : FileNode}
    (hfile : file ∈ tree.files) : Q file.status file.content := by
  change file ∈ filesAmong tree at hfile
  induction tree using Tree.induction with
  | nil => exact absurd hfile (by simp only [filesAmong, List.not_mem_nil, not_false_eq_true])
  | cons node nodes ihchildren ihnodes =>
      rcases (each_cons node nodes).mp h with ⟨hnode, hchildren, hnodes⟩
      rw [filesAmong, List.mem_append, FileNode.files_eq] at hfile
      rcases hfile with hfile | hfile
      · by_cases hkind : node.kind = .file
        · rw [if_pos hkind, List.mem_singleton] at hfile
          exact hfile ▸ hnode
        · rw [if_neg hkind] at hfile
          exact ihchildren hchildren hfile
      · exact ihnodes hnodes hfile

section Refill

variable {f : FileNode → FileNode}

/-- A change of one node that keeps a property keeps it in every node. -/
theorem each_modify (hf : Refills f)
    (hQ : ∀ node, Q node.status node.content → Q (f node).status (f node).content)
    (path : String) {tree : Tree} (h : Each Q tree) : Each Q (modify path f tree) := by
  induction tree using Tree.induction with
  | nil => exact modify_nil path f ▸ each_nil
  | cons node nodes ihchildren ihnodes =>
      rcases (each_cons node nodes).mp h with ⟨hnode, hchildren, hnodes⟩
      rw [modify_cons]
      -- The node is changed, or the one that is changed is below it, or beside it.
      by_cases hpath : node.path = path
      · rw [if_pos hpath, each_cons, hf.childList]
        exact ⟨hQ node hnode, hchildren, hnodes⟩
      · rw [if_neg hpath]
        by_cases hbelow : Path.isBelow node.path path = true
        · rw [if_pos hbelow, each_cons, FileNode.childList_mapChildren (modify_nil path f)]
          exact ⟨hnode, ihchildren hchildren, hnodes⟩
        · rw [if_neg hbelow, each_cons]
          exact ⟨hnode, hchildren, ihnodes hnodes⟩

/-- A change of all files that keeps a property keeps it in every node. -/
theorem each_mapFiles (hf : Refills f)
    (hQ : ∀ node, Q node.status node.content → Q (f node).status (f node).content)
    {tree : Tree} (h : Each Q tree) : Each Q (mapFiles f tree) := by
  induction tree using Tree.induction with
  | nil => exact mapFiles_nil f ▸ each_nil
  | cons node nodes ihchildren ihnodes =>
      rcases (each_cons node nodes).mp h with ⟨hnode, hchildren, hnodes⟩
      rw [mapFiles_cons]
      by_cases hkind : node.kind = .file
      · rw [if_pos hkind, each_cons, hf.childList]
        exact ⟨hQ node hnode, hchildren, ihnodes hnodes⟩
      · rw [if_neg hkind, each_cons, FileNode.childList_mapChildren (mapFiles_nil f)]
        exact ⟨hnode, ihchildren hchildren, ihnodes hnodes⟩

end Refill

section Build

theorem each_update {name : String} {fresh : FileNode} {f : FileNode → FileNode}
    (hf : ∀ node, Q node.status node.content → Each Q node.childList →
      Q (f node).status (f node).content ∧ Each Q (f node).childList)
    (hfresh : Q fresh.status fresh.content) (hbelow : Each Q fresh.childList) {level : Tree}
    (h : Each Q level) : Each Q (update name fresh f level) := by
  rw [each_iff] at h ⊢
  intro node hnode
  rcases mem_update hnode with hmem | rfl | ⟨old, hold, -, rfl⟩
  · exact h node hmem
  · exact hf fresh hfresh hbelow
  · exact hf old (h old hold).1 (h old hold).2

/-- A new node has nothing in it, and a file that becomes a directory loses what was in it. -/
theorem each_insert (base : String) (segs : List String) {level : Tree} (h : Each IsFresh level) :
    Each IsFresh (insert base segs level) := by
  induction segs generalizing base level with
  | nil => exact h
  | cons name rest ih =>
      cases rest with
      | nil => exact each_update (fun _ hnode hbelow => ⟨hnode, hbelow⟩) ⟨rfl, rfl⟩ each_nil h
      | cons name' rest =>
          refine each_update (fun node hnode hbelow => ?_) ⟨rfl, rfl⟩ each_nil h
          -- What is in the way becomes a directory, and there is no content to lose.
          refine ⟨⟨hnode.1, ?_⟩, ih _ hbelow⟩
          rw [FileNode.asDirectory, hnode.2]
          exact ite_self none

/-- The order of the nodes does not matter. -/
theorem Each.perm {tree tree' : Tree} (h : Each Q tree) (hperm : tree'.Perm tree) :
    Each Q tree' := by
  rw [each_iff] at h ⊢
  exact fun node hnode => h node (hperm.mem_iff.mp hnode)

theorem each_sort {tree : Tree} (h : Each Q tree) : Each Q (sort tree) := by
  -- Each node is sorted below before its level is.
  have hmap : Each Q (tree.map FileNode.sort) := by
    induction tree using Tree.induction with
    | nil => exact h
    | cons node nodes ihchildren ihnodes =>
        rcases (each_cons node nodes).mp h with ⟨hnode, hchildren, hnodes⟩
        rw [List.map_cons, each_cons, FileNode.sort_eq,
          FileNode.childList_mapChildren (by rw [List.map_nil, sortBy])]
        exact ⟨hnode, (ihchildren hchildren).perm (sortBy_perm _), ihnodes hnodes⟩
  rw [sort, FileNode.sortEach_eq_map]
  exact hmap.perm (sortBy_perm _)

/-- A tree that was just built has nothing in its nodes. -/
theorem each_build (paths : List String) : Each IsFresh (build paths) :=
  build_of each_nil (fun segs _ _ h => each_insert "" segs h) (fun _ h => each_sort h) paths

end Build

end Tree

end Replatform
