import Replatform.Proofs.Tree.Each
import Replatform.Proofs.Tree.Valid

/-!
# Where the Search Leads

Which nodes of a tree are found under their paths. The search goes into the first node whose path is
an ancestor of the one it looks for, and never comes back. Whether it gets to a node therefore depends
on where the node is. Everything that the node lies below has to have an ancestor of its path, or the
search goes past it. And nothing that is listed before these, or before the node itself, may have one,
or the search goes astray.

`Tree.Clear` says this of a node, in terms of where the nodes are and what their paths are. Where no two
nodes have the same path it is all there is to say (`find?_eq_some_iff_of_distinct`). The induction is
along the tree, with `clear_cons` for the way to a node that is below the first one or behind it.

The check of a tree looks at the paths as a set. It sees to it that they are different and that none
lacks its parent, which may however be anywhere. So a tree can be valid without all of its nodes being
found: A file `a/x` that is listed behind the directory `a`, and not in it, is missed. In a rooted tree
every node is where its path says, and the way to it is clear.

So every file of a rooted tree is found. `files_modify` is the same argument for a change: among the files
of the tree it reaches exactly the one with the given path, and no other. The check of a tree does not see
to it that files are found. `Tree.IsScaffold` asks for both, and for nothing else about where the files are.

## Main definitions

* `Tree.nodes`: All nodes of a tree.
* `Tree.Distinct`: No two nodes have the same path.
* `Tree.FilesAreLeaves`: No node is below a file.
* `Tree.Clear`: Nothing is in the way of a node.
* `Tree.IsScaffold`: A tree that passes the check and whose files are found.

## Theorems

* `clear_cons`: The way to a node, along the tree.
* `find?_eq_some_iff_of_distinct`: A node is found if the way to it is clear, and only then.
* `nodes_perm_visits`: The check passes over no node if files have none below them.
* `IsValid.distinct`, `IsValid.filesAreLeaves`: No two nodes of a valid tree have the same path, and
  no node is below a file.
* `find?_eq_some_iff_clear`: Which nodes of a valid tree are found.
* `Rooted.clear`, `Rooted.find?_of_mem_nodes`: Every node of a rooted tree is found.
* `leads_of_mem_files`: The path of a node leads to those of the files below it.
* `not_leads_of_mem_filesAmong`: The path of a node leads to no file of those beside it.
* `find?_of_mem_files`, `Rooted.isScaffold`: Every file of a rooted tree is found.
* `modify_of_find?_eq_none`: What is not found is not changed.
* `files_modify`: The files of a tree after a change.
-/

namespace Replatform

/-- What has no fault on its own has a new path, and no nodes below it if it is a file. -/
theorem FileNode.of_fault?_eq_none {node : FileNode} {seen : List String}
    (h : node.fault? seen = none) : node.path ∉ seen ∧ (node.kind = .file → node.childList = []) := by
  rw [fault?] at h
  split_ifs at h with hempty hnormal hseen hchildren
  refine ⟨hseen, fun hkind => ?_⟩
  rw [Bool.and_eq_true, not_and, isFile, hkind, beq_self_eq_true, Bool.not_eq_true',
    Bool.not_eq_false] at hchildren
  exact List.isEmpty_iff.mp (hchildren rfl)

namespace Tree

/-- All nodes of a tree, parents first. -/
def nodes (tree : Tree) : List FileNode :=
  tree.outline.map Prod.snd

/-- No two nodes of a tree have the same path. -/
def Distinct (tree : Tree) : Prop :=
  (tree.nodes.map FileNode.path).Nodup

/-- No node is below a file. -/
def FilesAreLeaves (tree : Tree) : Prop :=
  ∀ n ∈ tree.nodes, n.kind = .file → n.childList = []

/-- Nothing is in the way of a node. -/
structure Clear (n : FileNode) (tree : Tree) : Prop where
  /-- Whatever the node lies below has an ancestor of its path. -/
  above : ∀ m ∈ tree.nodes, n ∈ nodes m.childList → Path.isBelow m.path n.path = true
  /-- Whatever is listed before the node, or before something that the node lies below, has none. -/
  before : ∀ level ∈ tree :: tree.nodes.map FileNode.childList,
    level.Pairwise fun m m' => n ∈ nodes [m'] → Path.isBelow m.path n.path = false

variable {base : String} {n : FileNode} {tree : Tree}

section Nodes

theorem map_snd_outlineAmong (depth : Nat) (tree : Tree) :
    (FileNode.outlineAmong depth tree).map Prod.snd = tree.nodes := by
  induction tree using Tree.induction generalizing depth with
  | nil => simp only [nodes, outline, FileNode.outlineAmong]
  | cons node rest ihchildren ihrest =>
      rw [nodes, outline, outlineAmong_cons, outlineAmong_cons, List.map_cons, List.map_cons,
        List.map_append, List.map_append, ihchildren, ihchildren, ihrest, ihrest]

theorem nodes_nil : nodes [] = [] := by
  simp only [nodes, outline, FileNode.outlineAmong, List.map_nil]

theorem nodes_cons (node : FileNode) (rest : Tree) :
    nodes (node :: rest) = node :: (nodes node.childList ++ nodes rest) := by
  rw [nodes, outline, outlineAmong_cons, List.map_cons, List.map_append, map_snd_outlineAmong,
    map_snd_outlineAmong]

theorem mem_nodes_cons (node : FileNode) (rest : Tree) :
    n ∈ nodes (node :: rest) ↔ n = node ∨ n ∈ nodes node.childList ∨ n ∈ nodes rest := by
  rw [nodes_cons, List.mem_cons, List.mem_append]

theorem mem_nodes_iff : n ∈ tree.nodes ↔ ∃ node ∈ tree, n ∈ nodes [node] := by
  induction tree with
  | nil => simp only [nodes_nil, List.not_mem_nil, false_and, exists_false]
  | cons node rest ih =>
      rw [mem_nodes_cons, ih]
      simp only [List.mem_cons, exists_eq_or_imp, mem_nodes_cons, nodes_nil, List.not_mem_nil,
        or_false, or_assoc]

/-- What is found is in the tree. -/
theorem mem_nodes_of_find? {path : String} (h : find? path tree = some n) : n ∈ tree.nodes := by
  induction tree using Tree.induction with
  | nil => exact absurd (find?_nil path ▸ h) nofun
  | cons node rest ihchildren ihrest =>
      rw [find?_cons] at h
      rw [mem_nodes_cons]
      by_cases hpath : node.path = path
      · rw [if_pos hpath, Option.some.injEq] at h
        exact Or.inl h.symm
      · rw [if_neg hpath] at h
        by_cases hbelow : Path.isBelow node.path path = true
        · rw [if_pos hbelow] at h
          exact Or.inr (Or.inl (ihchildren h))
        · rw [if_neg hbelow] at h
          exact Or.inr (Or.inr (ihrest h))

theorem mem_nodes_of_mem_filesAmong (h : n ∈ FileNode.filesAmong tree) : n ∈ tree.nodes := by
  induction tree using Tree.induction with
  | nil => exact absurd h (by simp only [FileNode.filesAmong, List.not_mem_nil, not_false_eq_true])
  | cons node rest ihchildren ihrest =>
      rw [FileNode.filesAmong, List.mem_append, FileNode.files_eq] at h
      rw [mem_nodes_cons]
      rcases h with h | h
      · by_cases hkind : node.kind = .file
        · rw [if_pos hkind, List.mem_singleton] at h
          exact Or.inl h
        · rw [if_neg hkind] at h
          exact Or.inr (Or.inl (ihchildren h))
      · exact Or.inr (Or.inr (ihrest h))

theorem filesAreLeaves_cons_iff (node : FileNode) (rest : Tree) :
    FilesAreLeaves (node :: rest) ↔
      (node.kind = .file → node.childList = []) ∧ FilesAreLeaves node.childList ∧
        FilesAreLeaves rest := by
  simp only [FilesAreLeaves, mem_nodes_cons, or_imp, forall_and, forall_eq]

/-- A file is listed among the files if it is anywhere in the tree. -/
theorem mem_filesAmong_of_mem_nodes (h : tree.FilesAreLeaves) (hn : n ∈ tree.nodes)
    (hkind : n.kind = .file) : n ∈ FileNode.filesAmong tree := by
  induction tree using Tree.induction with
  | nil => exact absurd (nodes_nil ▸ hn) List.not_mem_nil
  | cons node rest ihchildren ihrest =>
      rcases (filesAreLeaves_cons_iff node rest).mp h with ⟨hleaf, hchildren, hrest⟩
      rw [FileNode.filesAmong, List.mem_append, FileNode.files_eq]
      rcases (mem_nodes_cons node rest).mp hn with rfl | hin | hin
      · rw [if_pos hkind]
        exact Or.inl (List.mem_singleton_self n)
      · have hdirectory : node.kind ≠ .file := fun hfile =>
          absurd (nodes_nil ▸ hleaf hfile ▸ hin) List.not_mem_nil
        rw [if_neg hdirectory]
        exact Or.inl (ihchildren hchildren hin)
      · exact Or.inr (ihrest hrest hin)

end Nodes

section Ways

theorem distinct_cons_iff (node : FileNode) (rest : Tree) :
    Distinct (node :: rest) ↔
      (∀ m, m ∈ nodes node.childList ∨ m ∈ nodes rest → m.path ≠ node.path) ∧
        Distinct node.childList ∧ Distinct rest ∧
          ∀ m ∈ nodes node.childList, ∀ m' ∈ nodes rest, m.path ≠ m'.path := by
  unfold Distinct
  rw [nodes_cons, List.map_cons, List.nodup_cons, List.map_append, List.nodup_append]
  simp only [List.mem_append, List.mem_map, not_or, not_exists, not_and, ne_eq, or_imp,
    forall_and, forall_exists_index, and_imp, forall_apply_eq_imp_iff₂, and_assoc]

/-- The way to a node, if the node is below the first one or behind it. -/
theorem clear_cons (n node : FileNode) (rest : Tree) :
    Clear n (node :: rest) ↔
      (n ∈ nodes node.childList → Path.isBelow node.path n.path = true) ∧
        (n ∈ nodes rest → Path.isBelow node.path n.path = false) ∧
          Clear n node.childList ∧ Clear n rest := by
  -- Nodes behind the first one, listed one by one.
  have hrest : (∀ m' ∈ rest, n ∈ nodes [m'] → Path.isBelow node.path n.path = false) ↔
      (n ∈ nodes rest → Path.isBelow node.path n.path = false) := by
    rw [mem_nodes_iff]
    exact ⟨fun h ⟨m', hm', hn⟩ => h m' hm' hn, fun h m' hm' hn => h ⟨m', hm', hn⟩⟩
  constructor
  · rintro ⟨habove, hbefore⟩
    rw [nodes_cons, List.forall_mem_cons, List.forall_mem_append] at habove
    rw [nodes_cons, List.map_cons, List.map_append, List.forall_mem_cons, List.forall_mem_cons,
      List.forall_mem_append, List.pairwise_cons, hrest] at hbefore
    rcases hbefore with ⟨⟨hfirst, hlevel⟩, hchildren, hbelow, hbehind⟩
    exact ⟨habove.1, hfirst, ⟨habove.2.1, List.forall_mem_cons.mpr ⟨hchildren, hbelow⟩⟩,
      habove.2.2, List.forall_mem_cons.mpr ⟨hlevel, hbehind⟩⟩
  · rintro ⟨hinto, hpast, hchildren, hbehind⟩
    refine ⟨?_, ?_⟩
    · rw [nodes_cons, List.forall_mem_cons, List.forall_mem_append]
      exact ⟨hinto, hchildren.above, hbehind.above⟩
    · rw [nodes_cons, List.map_cons, List.map_append, List.forall_mem_cons, List.forall_mem_cons,
        List.forall_mem_append, List.pairwise_cons, hrest]
      rcases List.forall_mem_cons.mp hchildren.before with ⟨hchildren, hbelow⟩
      rcases List.forall_mem_cons.mp hbehind.before with ⟨hlevel, hbehind⟩
      exact ⟨⟨hpast, hlevel⟩, hchildren, hbelow, hbehind⟩

/-- Nothing is in the way of what is not there. -/
theorem clear_of_not_mem (hn : n ∉ tree.nodes) : Clear n tree := by
  induction tree using Tree.induction with
  | nil =>
      refine ⟨fun m hm => absurd (nodes_nil ▸ hm) List.not_mem_nil, ?_⟩
      rw [nodes_nil, List.map_nil, List.forall_mem_singleton]
      exact List.Pairwise.nil
  | cons node rest ihchildren ihrest =>
      rw [mem_nodes_cons, not_or, not_or] at hn
      rw [clear_cons]
      exact ⟨fun h => absurd h hn.2.1, fun h => absurd h hn.2.2, ihchildren hn.2.1, ihrest hn.2.2⟩

/-- Where paths are different, a node is found under its path if the way to it is clear, and only
    then. -/
theorem find?_eq_some_iff_of_distinct (h : tree.Distinct) (hn : n ∈ tree.nodes) :
    find? n.path tree = some n ↔ Clear n tree := by
  induction tree using Tree.induction with
  | nil => exact absurd (nodes_nil ▸ hn) List.not_mem_nil
  | cons node rest ihchildren ihrest =>
      rcases (distinct_cons_iff node rest).mp h with ⟨hnode, hchildren, hrest, hapart⟩
      rw [find?_cons, clear_cons]
      rcases (mem_nodes_cons node rest).mp hn with rfl | hin | hin
      · -- The first node is found at once.
        have hnot : n ∉ nodes n.childList := fun hin => hnode n (Or.inl hin) rfl
        have hnot' : n ∉ nodes rest := fun hin => hnode n (Or.inr hin) rfl
        rw [if_pos rfl]
        exact ⟨fun _ => ⟨fun hin => absurd hin hnot, fun hin => absurd hin hnot',
          clear_of_not_mem hnot, clear_of_not_mem hnot'⟩, fun _ => rfl⟩
      · -- The search has to go into the first node.
        have hnot : n ∉ nodes rest := fun hin' => hapart n hin n hin' rfl
        rw [if_neg (hnode n (Or.inl hin)).symm]
        by_cases hbelow : Path.isBelow node.path n.path = true
        · rw [if_pos hbelow, ihchildren hchildren hin]
          exact ⟨fun hclear => ⟨fun _ => hbelow, fun hin' => absurd hin' hnot, hclear,
            clear_of_not_mem hnot⟩, fun hclear => hclear.2.2.1⟩
        · rw [if_neg hbelow]
          exact ⟨fun hfound => absurd (mem_nodes_of_find? hfound) hnot,
            fun hclear => absurd (hclear.1 hin) hbelow⟩
      · -- It has to go past the first node.
        have hnot : n ∉ nodes node.childList := fun hin' => hapart n hin' n hin rfl
        rw [if_neg (hnode n (Or.inr hin)).symm]
        by_cases hbelow : Path.isBelow node.path n.path = true
        · rw [if_pos hbelow]
          exact ⟨fun hfound => absurd (mem_nodes_of_find? hfound) hnot,
            fun hclear => absurd (hclear.2.1 hin) (hbelow ▸ Bool.noConfusion)⟩
        · rw [if_neg hbelow, ihrest hrest hin]
          exact ⟨fun hclear => ⟨fun hin' => absurd hin' hnot,
            fun _ => Bool.eq_false_iff.mpr hbelow, clear_of_not_mem hnot, hclear⟩,
            fun hclear => hclear.2.2.2⟩

end Ways

section Check

/-- The check passes over no node if files have none below them. It takes the last first. -/
theorem nodes_perm_visits (hleaf : ∀ n ∈ visits tree, n.kind = .file → n.childList = []) :
    tree.nodes.Perm (visits tree) := by
  induction tree using Tree.induction with
  | nil => rw [nodes_nil, visits_nil]
  | cons node rest ihchildren ihrest =>
      have hrest := ihrest fun n hn => hleaf n ((mem_visits_cons node n rest).mpr (Or.inr hn))
      have hnode : (nodes node.childList).Perm
          (if node.kind = .directory then FileNode.visitsAmong node.childList else []) := by
        cases hkind : node.kind with
        | file =>
            have hmem : node ∈ visits (node :: rest) := by
              rw [mem_visits_cons, FileNode.visits_eq]
              exact Or.inl List.mem_cons_self
            rw [hleaf node hmem hkind, nodes_nil, if_neg (by decide)]
        | directory =>
            rw [if_pos rfl]
            refine ihchildren fun n hn => hleaf n ?_
            rw [mem_visits_cons, FileNode.visits_eq, if_pos hkind]
            exact Or.inl (List.mem_cons_of_mem node hn)
      rw [nodes_cons, visits_cons, FileNode.visits_eq]
      calc node :: (nodes node.childList ++ nodes rest)
        _ = (node :: nodes node.childList) ++ nodes rest := rfl
        _ |>.Perm (nodes rest ++ (node :: nodes node.childList)) := List.perm_append_comm
        _ |>.Perm _ := hrest.append (hnode.cons node)

/-- Where the check finds no fault, no path is repeated and files have no nodes below them. -/
theorem of_firstFault?_eq_none {seen : List String} {visited : List FileNode}
    (h : firstFault? seen visited = none) :
    (visited.map FileNode.path).Nodup ∧
      ∀ n ∈ visited, n.path ∉ seen ∧ (n.kind = .file → n.childList = []) := by
  induction visited generalizing seen with
  | nil => exact ⟨List.nodup_nil, fun _ hn => absurd hn List.not_mem_nil⟩
  | cons node visited ih =>
      rw [firstFault?] at h
      cases hfault : node.fault? seen with
      | some e =>
          rw [hfault] at h
          exact absurd h (Option.some_ne_none e)
      | none =>
          rw [hfault] at h
          rcases ih h with ⟨hnodup, hrest⟩
          rw [List.map_cons, List.nodup_cons, List.forall_mem_cons]
          refine ⟨⟨fun hin => ?_, hnodup⟩, FileNode.of_fault?_eq_none hfault, fun n hn => ?_⟩
          · rcases List.mem_map.mp hin with ⟨n, hn, hpath⟩
            exact (hrest n hn).1 (hpath ▸ List.mem_cons_self)
          · exact ⟨fun hin => (hrest n hn).1 (List.mem_cons_of_mem _ hin), (hrest n hn).2⟩

/-- In a valid tree the check finds no fault with any node on its own. -/
theorem IsValid.firstFault?_eq_none (h : tree.IsValid) : firstFault? [] (visits tree) = none := by
  rw [IsValid, validate] at h
  cases hfirst : firstFault? [] (visits tree) with
  | some e =>
      rw [hfirst] at h
      simp only [reduceCtorEq] at h
  | none => rfl

theorem IsValid.nodes_perm_visits (h : tree.IsValid) : tree.nodes.Perm (visits tree) :=
  Tree.nodes_perm_visits fun n hn => ((of_firstFault?_eq_none h.firstFault?_eq_none).2 n hn).2

/-- No two nodes of a valid tree have the same path, wherever they are. -/
theorem IsValid.distinct (h : tree.IsValid) : tree.Distinct :=
  (h.nodes_perm_visits.map FileNode.path).nodup_iff.mpr
    (of_firstFault?_eq_none h.firstFault?_eq_none).1

/-- No node of a valid tree is below a file. -/
theorem IsValid.filesAreLeaves (h : tree.IsValid) : tree.FilesAreLeaves := fun n hn =>
  ((of_firstFault?_eq_none h.firstFault?_eq_none).2 n (h.nodes_perm_visits.mem_iff.mp hn)).2

/-- Which nodes of a valid tree are found: Those to which the way is clear. -/
theorem find?_eq_some_iff_clear (h : tree.IsValid) (hn : n ∈ tree.nodes) :
    find? n.path tree = some n ↔ Clear n tree :=
  find?_eq_some_iff_of_distinct h.distinct hn

/-- A file that is not in its directory is found if it is listed before the directory. -/
theorem found_before_directory :
    IsValid [.file "a/x", .directory "a"] ∧ .file "a/x" ∈ nodes [.file "a/x", .directory "a"] ∧
      find? "a/x" [.file "a/x", .directory "a"] = some (.file "a/x") ∧
      Clear (.file "a/x") [.file "a/x", .directory "a"] := by
  have hvalid : IsValid [.file "a/x", .directory "a"] := rfl
  have hmem : FileNode.file "a/x" ∈ nodes [.file "a/x", .directory "a"] := by
    rw [mem_nodes_cons]
    exact Or.inl rfl
  have hfind : find? "a/x" [.file "a/x", .directory "a"] = some (.file "a/x") := by
    have hsame : (FileNode.file "a/x").path = "a/x" := rfl
    rw [find?_cons, if_pos hsame]
  exact ⟨hvalid, hmem, hfind, (find?_eq_some_iff_clear hvalid hmem).mp hfind⟩

/-- Behind the directory it is not found, although the tree is as valid as before. -/
theorem not_found_behind_directory :
    IsValid [.directory "a", .file "a/x"] ∧ .file "a/x" ∈ nodes [.directory "a", .file "a/x"] ∧
      find? "a/x" [.directory "a", .file "a/x"] = none := by
  refine ⟨rfl, ?_, ?_⟩
  · rw [mem_nodes_cons, mem_nodes_cons]
    exact Or.inr (Or.inr (Or.inl rfl))
  · have hother : (FileNode.directory "a").path ≠ "a/x" := by decide
    have hbelow : Path.isBelow (FileNode.directory "a").path "a/x" = true := by decide
    have hempty : (FileNode.directory "a").childList = [] := rfl
    rw [find?_cons, if_neg hother, if_pos hbelow, hempty, find?_nil]

end Check

section Places

theorem Rooted.exists_of_mem_visits (h : Rooted base tree) (hn : n ∈ visits tree) :
    ∃ dir, n.Rooted dir := by
  induction tree using Tree.induction generalizing base with
  | nil => exact absurd (visits_nil ▸ hn) List.not_mem_nil
  | cons node rest ihchildren ihrest =>
      rcases (rooted_cons_iff node rest).mp h with ⟨hnode, -, hrest⟩
      rw [mem_visits_cons, hnode.visits_eq, List.mem_cons] at hn
      rcases hn with (rfl | hn) | hn
      · exact ⟨base, hnode⟩
      · exact ihchildren hnode.childList hn
      · exact ihrest hrest hn

theorem Rooted.nodes_perm_visits (h : Rooted base tree) : tree.nodes.Perm (visits tree) := by
  refine Tree.nodes_perm_visits fun n hn => ?_
  rcases h.exists_of_mem_visits hn with ⟨dir, hrooted⟩
  exact hrooted.childList_eq_nil

theorem Rooted.filesAreLeaves (h : Rooted base tree) : tree.FilesAreLeaves := by
  intro n hn
  rcases h.exists_of_mem_visits (h.nodes_perm_visits.mem_iff.mp hn) with ⟨dir, hrooted⟩
  exact hrooted.childList_eq_nil

theorem Rooted.distinct (h : Rooted base tree) : tree.Distinct :=
  (h.nodes_perm_visits.map FileNode.path).nodup_iff.mpr (visits_nodup h)

/-- Where every node is in its place, nothing is in the way of any. -/
theorem Rooted.clear (h : Rooted base tree) (n : FileNode) : Clear n tree := by
  induction tree using Tree.induction generalizing base with
  | nil => exact clear_of_not_mem (nodes_nil ▸ List.not_mem_nil)
  | cons node rest ihchildren ihrest =>
      rcases (rooted_cons_iff node rest).mp h with ⟨hnode, hname, hrest⟩
      rw [clear_cons]
      refine ⟨fun hin => ?_, fun hin => ?_, ihchildren hnode.childList, ihrest hrest⟩
      · exact isBelow_of_mem_visits_childList hnode (hnode.childList.nodes_perm_visits.mem_iff.mp hin)
      · rw [Bool.eq_false_iff]
        intro hbelow
        have hvisits := hrest.nodes_perm_visits.mem_iff.mp hin
        exact not_leads_of_mem_visits hnode hname hrest hvisits (Or.inr hbelow)

/-- Where every node is in its place, every one is found. -/
theorem Rooted.find?_of_mem_nodes (h : Rooted base tree) (hn : n ∈ tree.nodes) :
    find? n.path tree = some n :=
  (find?_eq_some_iff_of_distinct h.distinct hn).mpr (h.clear n)

end Places

section Files

open FileNode (filesAmong)

theorem mem_filesAmong_cons (node file : FileNode) (nodes : Tree) :
    file ∈ filesAmong (node :: nodes) ↔ file ∈ node.files ∨ file ∈ filesAmong nodes := by
  rw [filesAmong, List.mem_append]

/-- The path of a node leads to those of the files at or below it. -/
theorem leads_of_mem_files {node file : FileNode} (h : node.Rooted base) (hfile : file ∈ node.files) :
    Path.Leads node.path file.path :=
  leads_of_mem_visits h (mem_visits_of_mem_files hfile)

theorem isBelow_of_mem_filesAmong_childList {node file : FileNode} (h : node.Rooted base)
    (hfile : file ∈ filesAmong node.childList) : Path.isBelow node.path file.path = true :=
  isBelow_of_mem_visits_childList h (mem_visits_of_mem_filesAmong hfile)

/-- The path of a node does not lead to the files at or below a node with another name. -/
theorem not_leads_of_mem_filesAmong {node file : FileNode} {nodes : Tree} (hnode : node.Rooted base)
    (hname : node.name ∉ nodes.map FileNode.name) (hnodes : Rooted base nodes)
    (hfile : file ∈ filesAmong nodes) : ¬ Path.Leads node.path file.path :=
  not_leads_of_mem_visits hnode hname hnodes (mem_visits_of_mem_filesAmong hfile)

/-- Every file of a rooted tree is found under its path. -/
theorem find?_of_mem_files {tree : Tree} (h : Rooted base tree) {file : FileNode}
    (hfile : file ∈ filesAmong tree) : find? file.path tree = some file :=
  h.find?_of_mem_nodes (h.nodes_perm_visits.mem_iff.mpr (mem_visits_of_mem_filesAmong hfile))

/-- A tree that passes the check and whose files are all found under their paths. -/
structure IsScaffold (tree : Tree) : Prop where
  valid : tree.IsValid
  found : ∀ file ∈ filesAmong tree, find? file.path tree = some file

/-- Where every node is in its place the search for a file does not fail. -/
theorem Rooted.isScaffold {tree : Tree} (h : Rooted "" tree) : tree.IsScaffold :=
  ⟨h.isValid, fun _ hfile => find?_of_mem_files h hfile⟩

/-- What is not found is not changed. -/
theorem modify_of_find?_eq_none {path : String} (f : FileNode → FileNode) {tree : Tree}
    (h : find? path tree = none) : modify path f tree = tree := by
  induction tree using Tree.induction with
  | nil => rw [modify_nil]
  | cons node nodes ihchildren ihnodes =>
      rw [find?_cons] at h
      rw [modify_cons]
      by_cases hpath : node.path = path
      · rw [if_pos hpath] at h
        exact absurd h (by simp only [reduceCtorEq, not_false_eq_true])
      · rw [if_neg hpath] at h ⊢
        by_cases hbelow : Path.isBelow node.path path = true
        · rw [if_pos hbelow] at h ⊢
          rw [FileNode.mapChildren_eq_self (ihchildren h)]
        · rw [if_neg hbelow] at h ⊢
          rw [ihnodes h]

/-- A change of the file with a path, as a change of every file. -/
def changeAt (path : String) (f : FileNode → FileNode) (file : FileNode) : FileNode :=
  if file.path = path then f file else file

theorem map_changeAt_eq_self {path : String} {f : FileNode → FileNode} {files : List FileNode}
    (h : ∀ file ∈ files, file.path ≠ path) : files.map (changeAt path f) = files := by
  refine (List.map_congr_left fun file hmem => ?_).trans (List.map_id files)
  exact if_neg (h file hmem)

/-- The files of a node after a change of itself. -/
theorem files_refill {f : FileNode → FileNode} (hf : Refills f) {node : FileNode}
    (h : node.Rooted base) : (f node).files = node.files.map (changeAt node.path f) := by
  rw [FileNode.files_eq, FileNode.files_eq, hf.kind, hf.childList]
  by_cases hfile : node.kind = .file
  · rw [if_pos hfile, if_pos hfile, List.map_singleton, changeAt, if_pos rfl]
  · rw [if_neg hfile, if_neg hfile]
    refine (map_changeAt_eq_self fun file hmem hpath => ?_).symm
    have hbelow := isBelow_of_mem_filesAmong_childList h hmem
    rw [hpath, Path.not_isBelow_self] at hbelow
    exact Bool.false_ne_true hbelow

/-- A change reaches exactly the file with the given path. -/
theorem files_modify {f : FileNode → FileNode} (hf : Refills f) (path : String) {tree : Tree}
    (h : Rooted base tree) :
    filesAmong (modify path f tree) = (filesAmong tree).map (changeAt path f) := by
  induction tree using Tree.induction generalizing base with
  | nil => rw [modify_nil, filesAmong, List.map_nil]
  | cons node nodes ihchildren ihnodes =>
      rcases (rooted_cons_iff node nodes).mp h with ⟨hnode, hname, hnodes⟩
      -- Where the path leads through this node, the change touches nothing beside it.
      have hbeside : Path.Leads node.path path →
          (filesAmong nodes).map (changeAt path f) = filesAmong nodes := by
        intro hleads
        refine map_changeAt_eq_self fun file hmem hpath => ?_
        exact not_leads_of_mem_filesAmong hnode hname hnodes hmem (hpath ▸ hleads)
      rw [modify_cons, filesAmong, List.map_append]
      by_cases hpath : node.path = path
      · rw [if_pos hpath, filesAmong, hbeside (Or.inl hpath.symm), ← hpath, files_refill hf hnode]
      · rw [if_neg hpath]
        by_cases hbelow : Path.isBelow node.path path = true
        · rw [if_pos hbelow, filesAmong, hbeside (Or.inr hbelow),
            FileNode.files_mapChildren (modify_nil path f), FileNode.files_eq]
          by_cases hkind : node.kind = .file
          · rw [if_pos hkind, if_pos hkind, List.map_singleton, changeAt, if_neg hpath,
              FileNode.mapChildren_of_eq_none (hnode.children_eq_none hkind)]
          · rw [if_neg hkind, if_neg hkind, ihchildren hnode.childList]
        · rw [if_neg hbelow, filesAmong, ihnodes hnodes]
          have hnot : node.files.map (changeAt path f) = node.files := by
            refine map_changeAt_eq_self fun file hmem he => ?_
            rcases leads_of_mem_files hnode hmem with hl | hl
            · exact hpath (hl.symm.trans he)
            · exact hbelow (he ▸ hl)
          rw [hnot]

end Files

end Tree

end Replatform
