import Replatform.Proofs.Tree.Rooted
import Replatform.Tree.Valid

/-!
# Rooted Trees Are Valid

Which paths the nodes of a rooted tree have, and why a tree whose nodes are in their places passes
the check, whatever its files are filled with.

The path of a node leads to those of the nodes below it and, since names are not repeated in a
directory, to no others. All that a path can say about the place of a node follows from this. The
nodes are taken in the order in which a tree is checked. A file has nothing below it in a rooted
tree, so the check passes over no node.

The check looks at the paths of the nodes, one node after another. The path of a node in its
place is in normal form because that of its directory is. No two nodes have the same path,
because the paths of two entries of a directory lead to different nodes. And the directory part
of a path is the path of the directory that the node is in, so that no parent is missing.

The way down is one induction, `exists_rooted_of_mem_visits`, which finds the directory of every
node that is visited. What the check wants of the node is then read off its path.

## Theorems

* `visits_cons`, `Rooted.visits_eq`: The nodes in the order of the check.
* `leads_of_mem_visits`: The path of a node leads to those of the nodes below it.
* `not_leads_of_mem_visits`: The path of a node leads to none of those beside it.
* `mem_visits_of_mem_filesAmong`: The files are among the nodes.
* `visits_nodup`: The nodes of a rooted tree have different paths.
* `exists_rooted_of_mem_visits`: Every node is in its place in a directory of the tree.
* `firstFault?_eq_none`: No fault is found where no node has one on its own.
* `Rooted.isValid`: A rooted tree passes the check.
-/

namespace Replatform

namespace FileNode

theorem visits_eq (node : FileNode) :
    node.visits = node :: if node.kind = .directory then visitsAmong node.childList else [] := by
  rcases node with ⟨path, name, _ | _, status, content, _ | children⟩
  · rw [visits, if_neg (by simp only [reduceCtorEq, not_false_eq_true])]
  · rw [visits, if_neg (by simp only [reduceCtorEq, not_false_eq_true])]
  · rw [visits, if_pos rfl, childList, Option.getD_none, visitsAmong]
  · rw [visits, if_pos rfl, childList, Option.getD_some]

theorem Rooted.childList_eq_nil {base : String} {node : FileNode} (h : node.Rooted base)
    (hfile : node.kind = .file) : node.childList = [] := by
  rw [FileNode.childList, h.children_eq_none hfile, Option.getD_none]

/-- The check passes over no node below a node in its place. -/
theorem Rooted.visits_eq {base : String} {node : FileNode} (h : node.Rooted base) :
    node.visits = node :: Tree.visits node.childList := by
  rw [FileNode.visits_eq, Tree.visits]
  cases hkind : node.kind with
  | file =>
      rw [h.childList_eq_nil hkind, visitsAmong]
      exact congrArg (node :: ·) (if_neg (by simp only [reduceCtorEq, not_false_eq_true]))
  | directory => rw [if_pos rfl]

end FileNode

namespace Tree

open FileNode (filesAmong visitsAmong)

variable {base : String}

theorem visits_nil : visits [] = [] := by
  rw [visits, visitsAmong]

theorem visits_cons (node : FileNode) (nodes : Tree) :
    visits (node :: nodes) = visits nodes ++ node.visits := by
  rw [visits, visits, visitsAmong]

theorem mem_visits_cons (node n : FileNode) (nodes : Tree) :
    n ∈ visits (node :: nodes) ↔ n ∈ node.visits ∨ n ∈ visits nodes := by
  rw [visits_cons, List.mem_append]
  exact or_comm

theorem mem_visits_iff (n : FileNode) (tree : Tree) :
    n ∈ visits tree ↔ ∃ node ∈ tree, n ∈ node.visits := by
  induction tree with
  | nil => simp only [visits_nil, List.not_mem_nil, false_and, exists_false]
  | cons node nodes ih =>
      rw [mem_visits_cons, ih]
      simp only [List.mem_cons, exists_eq_or_imp]

theorem isBelow_of_mem_childList {node child : FileNode} (h : node.Rooted base)
    (hchild : child ∈ node.childList) : Path.isBelow node.path child.path = true := by
  rw [(h.childList.2 child hchild).path_eq]
  exact Path.isBelow_childPath h.path_ne_empty _

/-- The path of a node leads to those of the nodes at or below it. -/
theorem leads_of_mem_visits {node n : FileNode} (h : node.Rooted base) (hn : n ∈ node.visits) :
    Path.Leads node.path n.path := by
  induction h with
  | @intro base node path name leaf distinct below ih =>
      have hnode : node.Rooted base := .intro path name leaf distinct below
      rw [hnode.visits_eq, List.mem_cons, mem_visits_iff] at hn
      rcases hn with rfl | ⟨child, hchild, hn⟩
      · exact Or.inl rfl
      · exact Or.inr (Path.Leads.of_isBelow (isBelow_of_mem_childList hnode hchild)
          (ih child hchild hn))

theorem isBelow_of_mem_visits_childList {node n : FileNode} (h : node.Rooted base)
    (hn : n ∈ visits node.childList) : Path.isBelow node.path n.path = true := by
  rcases (mem_visits_iff n _).mp hn with ⟨child, hchild, hn⟩
  exact Path.Leads.of_isBelow (isBelow_of_mem_childList h hchild)
    (leads_of_mem_visits (h.childList.2 child hchild) hn)

/-- The path of a node does not lead to the nodes at or below one with another name. -/
theorem not_leads_of_mem_visits {node n : FileNode} {nodes : Tree} (hnode : node.Rooted base)
    (hname : node.name ∉ nodes.map FileNode.name) (hnodes : Rooted base nodes)
    (hn : n ∈ visits nodes) : ¬ Path.Leads node.path n.path := by
  intro hleads
  rcases (mem_visits_iff n nodes).mp hn with ⟨other, hother, hn⟩
  have hrooted := hnodes.2 other hother
  have hleads' := leads_of_mem_visits hrooted hn
  -- Both are entries of one directory, and the path goes through only one of its entries.
  rw [hnode.path_eq] at hleads
  rw [hrooted.path_eq] at hleads'
  rw [Path.eq_of_leads hnode.isName hrooted.isName hleads hleads'] at hname
  exact hname (List.mem_map_of_mem hother)

/-- The files of a tree are among its nodes. -/
theorem mem_visits_of_mem_filesAmong {file : FileNode} {tree : Tree} (h : file ∈ filesAmong tree) :
    file ∈ visits tree := by
  induction tree using Tree.induction with
  | nil => exact absurd h (by simp only [filesAmong, List.not_mem_nil, not_false_eq_true])
  | cons node nodes ihchildren ihnodes =>
      rw [filesAmong, List.mem_append, FileNode.files_eq] at h
      rw [mem_visits_cons, FileNode.visits_eq, List.mem_cons]
      rcases h with h | h
      · cases hkind : node.kind with
        | file =>
            rw [hkind, if_pos rfl, List.mem_singleton] at h
            exact Or.inl (Or.inl h)
        | directory =>
            rw [hkind, if_neg (by simp only [reduceCtorEq, not_false_eq_true])] at h
            rw [if_pos rfl]
            exact Or.inl (Or.inr (ihchildren h))
      · exact Or.inr (ihnodes h)

theorem mem_visits_of_mem_files {node file : FileNode} (h : file ∈ node.files) :
    file ∈ node.visits := by
  have hin : file ∈ filesAmong [node] := by
    rw [filesAmong, filesAmong, List.append_nil]
    exact h
  have hvisits := mem_visits_of_mem_filesAmong hin
  rw [visits_cons, visits_nil, List.nil_append] at hvisits
  exact hvisits

end Tree

namespace FileNode

/-- A node has no fault on its own if its path is in normal form and new. -/
theorem fault?_eq_none {node : FileNode} {seen : List String} (hempty : node.path ≠ "")
    (hnormal : Path.IsNormal node.path) (hnew : node.path ∉ seen)
    (hleaf : node.kind = .file → node.childList = []) : node.fault? seen = none := by
  have hsame : ¬ Path.normalize node.path ≠ node.path := not_not_intro hnormal
  have hchildren : ¬ (node.isFile && !node.childList.isEmpty) = true := by
    rw [Bool.and_eq_true, isFile, beq_iff_eq]
    rintro ⟨hfile, hsome⟩
    rw [hleaf hfile] at hsome
    exact Bool.false_ne_true hsome
  rw [fault?, if_neg hempty, if_neg hsame, if_neg hnew, if_neg hchildren]

end FileNode

namespace Tree

variable {base : String}

/-- The nodes of a rooted tree have different paths. -/
theorem visits_nodup {tree : Tree} (h : Rooted base tree) :
    ((visits tree).map FileNode.path).Nodup := by
  induction tree using Tree.induction generalizing base with
  | nil => exact visits_nil ▸ List.nodup_nil
  | cons node nodes ihchildren ihnodes =>
      rcases (rooted_cons_iff node nodes).mp h with ⟨hnode, hname, hnodes⟩
      rw [visits_cons, List.map_append, List.nodup_append]
      refine ⟨ihnodes hnodes, ?_, fun path hpath path' hpath' he => ?_⟩
      · rw [hnode.visits_eq, List.map_cons, List.nodup_cons]
        refine ⟨fun hin => ?_, ihchildren hnode.childList⟩
        rcases List.mem_map.mp hin with ⟨n, hn, hpath⟩
        have hbelow := isBelow_of_mem_visits_childList hnode hn
        rw [hpath, Path.not_isBelow_self] at hbelow
        exact Bool.false_ne_true hbelow
      · -- The path of the node leads to what is below it and to nothing beside it.
        rcases List.mem_map.mp hpath with ⟨n, hn, rfl⟩
        rcases List.mem_map.mp hpath' with ⟨n', hn', rfl⟩
        exact not_leads_of_mem_visits hnode hname hnodes hn (he ▸ leads_of_mem_visits hnode hn')

theorem mem_directoryPaths_iff (path : String) (tree : Tree) :
    path ∈ directoryPaths tree ↔ ∃ n ∈ visits tree, n.kind = .directory ∧ n.path = path := by
  simp only [directoryPaths, List.mem_map, List.mem_filter, FileNode.isDirectory, beq_iff_eq,
    and_assoc]

theorem directoryPaths_mono {tree tree' : Tree} (h : ∀ n ∈ visits tree, n ∈ visits tree')
    {path : String} (hpath : path ∈ directoryPaths tree) : path ∈ directoryPaths tree' := by
  rw [mem_directoryPaths_iff] at hpath ⊢
  rcases hpath with ⟨n, hn, hdirectory⟩
  exact ⟨n, h n hn, hdirectory⟩

/-- Every node is in its place in a directory, which is that of the tree or one below it. -/
theorem exists_rooted_of_mem_visits {tree : Tree} (h : Rooted base tree)
    (hbase : Path.IsNormal base) {n : FileNode} (hn : n ∈ visits tree) :
    ∃ dir, Path.IsNormal dir ∧ n.Rooted dir ∧ (dir = base ∨ dir ∈ directoryPaths tree) := by
  induction tree using Tree.induction generalizing base with
  | nil => exact absurd (visits_nil ▸ hn) List.not_mem_nil
  | cons node nodes ihchildren ihnodes =>
      rcases (rooted_cons_iff node nodes).mp h with ⟨hnode, -, hnodes⟩
      have hpath : Path.IsNormal node.path := by
        rw [hnode.path_eq]
        exact Path.isNormal_childPath hbase hnode.isName
      have hvisit := hnode.visits_eq
      rw [mem_visits_cons, hvisit, List.mem_cons] at hn
      rcases hn with (rfl | hn) | hn
      · exact ⟨base, hbase, hnode, Or.inl rfl⟩
      · rcases ihchildren hnode.childList hpath hn with ⟨dir, hnormal, hrooted, hdir⟩
        refine ⟨dir, hnormal, hrooted, Or.inr ?_⟩
        rcases hdir with rfl | hdir
        · -- What has a node below it is a directory.
          refine (mem_directoryPaths_iff _ _).mpr ⟨node, ?_, ?_, rfl⟩
          · rw [mem_visits_cons, hvisit]
            exact Or.inl List.mem_cons_self
          · cases hkind : node.kind with
            | file => exact absurd (visits_nil ▸ hnode.childList_eq_nil hkind ▸ hn) List.not_mem_nil
            | directory => rfl
        · refine directoryPaths_mono (fun n hn => ?_) hdir
          rw [mem_visits_cons, hvisit]
          exact Or.inl (List.mem_cons_of_mem node hn)
      · rcases ihnodes hnodes hbase hn with ⟨dir, hnormal, hrooted, hdir⟩
        refine ⟨dir, hnormal, hrooted, hdir.imp_right (directoryPaths_mono fun n hn => ?_)⟩
        exact (mem_visits_cons node n nodes).mpr (Or.inr hn)

/-- No fault is found where no node has one on its own and no path is repeated. -/
theorem firstFault?_eq_none {seen : List String} {nodes : List FileNode}
    (hempty : ∀ n ∈ nodes, n.path ≠ "") (hnormal : ∀ n ∈ nodes, Path.IsNormal n.path)
    (hleaf : ∀ n ∈ nodes, n.kind = .file → n.childList = [])
    (hdistinct : (nodes.map FileNode.path).Nodup) (hnew : ∀ n ∈ nodes, n.path ∉ seen) :
    firstFault? seen nodes = none := by
  induction nodes generalizing seen with
  | nil => rfl
  | cons node nodes ih =>
      rw [List.forall_mem_cons] at hempty hnormal hleaf hnew
      rw [List.map_cons, List.nodup_cons] at hdistinct
      rw [firstFault?, FileNode.fault?_eq_none hempty.1 hnormal.1 hnew.1 hleaf.1]
      refine ih hempty.2 hnormal.2 hleaf.2 hdistinct.2 fun n hn hin => ?_
      rcases List.mem_cons.mp hin with he | hin
      · exact hdistinct.1 (he ▸ List.mem_map_of_mem hn)
      · exact hnew.2 n hn hin

/-- A rooted tree passes the check, whatever is in its files. -/
theorem Rooted.isValid {tree : Tree} (h : Rooted "" tree) : tree.IsValid := by
  have hplace : ∀ n ∈ visits tree, ∃ dir, Path.IsNormal dir ∧ n.Rooted dir ∧
      (dir = "" ∨ dir ∈ directoryPaths tree) := fun n hn =>
    exists_rooted_of_mem_visits h Path.isNormal_empty hn
  have hfault : firstFault? [] (visits tree) = none := by
    refine firstFault?_eq_none (fun n hn => ?_) (fun n hn => ?_) (fun n hn => ?_) (visits_nodup h)
      (fun _ _ => List.not_mem_nil)
    · rcases hplace n hn with ⟨dir, -, hrooted, -⟩
      exact hrooted.path_ne_empty
    · rcases hplace n hn with ⟨dir, hnormal, hrooted, -⟩
      rw [hrooted.path_eq]
      exact Path.isNormal_childPath hnormal hrooted.isName
    · rcases hplace n hn with ⟨dir, -, hrooted, -⟩
      exact hrooted.childList_eq_nil
  have horphan : (visits tree).findSome? (FileNode.orphan? (directoryPaths tree)) = none := by
    rw [List.findSome?_eq_none_iff]
    intro n hn
    rcases hplace n hn with ⟨dir, -, hrooted, hdir⟩
    rw [FileNode.orphan?, hrooted.path_eq, Path.parent_childPath dir hrooted.isName]
    by_cases hroot : dir = ""
    · rw [if_pos hroot]
    · rw [if_neg hroot]
      exact if_pos (hdir.resolve_left hroot)
  rw [IsValid, validate, hfault, horphan]

end Tree

end Replatform
