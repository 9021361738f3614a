import Mathlib.Data.List.Induction
import Replatform.Proofs.Path
import Replatform.Proofs.Tree.Basic

/-!
# Rooted Trees

What holds of every tree that is built from paths, and goes on to hold while its files are
generated. The path of a node is that of its directory with the name of the node behind it,
the nodes of a directory have different names, and files have no nodes below them. The paths
of a rooted tree therefore show where a node is, and no two nodes have the same one.

Nothing is said about what is in the files. A change of statuses or contents keeps a tree
rooted, and so does every way to put nodes in a different order.

## Main definitions

* `FileNode.Rooted`, `Tree.Rooted`: A node, or the nodes of a directory, are in their places.
* `Refills`: A function changes nothing but the status and the content of a node.

## Theorems

* `foldl_insert_of`, `build_of`: What holds of every tree that is built from paths.
* `rooted_insert`, `rooted_sort`, `rooted_build`: Trees that are built from paths are rooted.
* `rooted_modify`, `rooted_mapFiles`: A change of statuses and contents keeps a tree rooted.
-/

namespace Replatform

/-- A node is in its place in the directory `base`, and so is everything below it. -/
inductive FileNode.Rooted : String → FileNode → Prop where
  | intro {base : String} {node : FileNode}
      (path : node.path = Tree.childPath base node.name)
      (name : Path.IsName node.name)
      (leaf : node.kind = .file → node.children = none)
      (distinct : (node.childList.map FileNode.name).Nodup)
      (below : ∀ child ∈ node.childList, Rooted node.path child) : Rooted base node

/-- The nodes of the directory `base` are in their places. -/
def Tree.Rooted (base : String) (tree : Tree) : Prop :=
  (tree.map FileNode.name).Nodup ∧ ∀ node ∈ tree, node.Rooted base

/-- A function changes nothing but the status and the content of a node. -/
def Refills (f : FileNode → FileNode) : Prop :=
  ∀ node, (f node).path = node.path ∧ (f node).name = node.name ∧ (f node).kind = node.kind ∧
    (f node).children = node.children

theorem refills_status (status : FileStatus) : Refills fun node => { node with status } :=
  fun _ => ⟨rfl, rfl, rfl, rfl⟩

theorem refills_content (content : Option String) : Refills fun node => { node with content } :=
  fun _ => ⟨rfl, rfl, rfl, rfl⟩

namespace Refills

variable {f : FileNode → FileNode}

theorem path (hf : Refills f) (node : FileNode) : (f node).path = node.path :=
  (hf node).1

theorem name (hf : Refills f) (node : FileNode) : (f node).name = node.name :=
  (hf node).2.1

theorem kind (hf : Refills f) (node : FileNode) : (f node).kind = node.kind :=
  (hf node).2.2.1

theorem children (hf : Refills f) (node : FileNode) : (f node).children = node.children :=
  (hf node).2.2.2

theorem childList (hf : Refills f) (node : FileNode) : (f node).childList = node.childList := by
  rw [FileNode.childList, FileNode.childList, hf.children]

end Refills

namespace FileNode

variable {base : String} {node : FileNode}

theorem Rooted.path_eq (h : node.Rooted base) : node.path = Tree.childPath base node.name := by
  cases h
  assumption

theorem Rooted.isName (h : node.Rooted base) : Path.IsName node.name := by
  cases h
  assumption

theorem Rooted.children_eq_none (h : node.Rooted base) (hfile : node.kind = .file) :
    node.children = none := by
  cases h with
  | intro path name leaf distinct below => exact leaf hfile

theorem Rooted.childList (h : node.Rooted base) : Tree.Rooted node.path node.childList := by
  cases h with
  | intro path name leaf distinct below => exact ⟨distinct, below⟩

theorem Rooted.path_ne_empty (h : node.Rooted base) : node.path ≠ "" := by
  rw [h.path_eq]
  exact Path.childPath_ne_empty base h.isName

/-- A node with other nodes below it is in its place if they are. -/
theorem Rooted.of_children {node' : FileNode} (h : node.Rooted base)
    (hpath : node'.path = node.path) (hname : node'.name = node.name)
    (hleaf : node'.kind = .file → node'.children = none)
    (hbelow : Tree.Rooted node.path node'.childList) : node'.Rooted base := by
  refine .intro ?_ ?_ hleaf hbelow.1 ?_
  · rw [hpath, hname]
    exact h.path_eq
  · rw [hname]
    exact h.isName
  · rw [hpath]
    exact hbelow.2

theorem Rooted.refill {f : FileNode → FileNode} (hf : Refills f) (h : node.Rooted base) :
    (f node).Rooted base := by
  refine h.of_children (hf.path node) (hf.name node) ?_ ?_
  · rw [hf.kind, hf.children]
    exact h.children_eq_none
  · rw [hf.childList]
    exact h.childList

theorem Rooted.mapChildren {f : Tree → Tree} (hf : f [] = []) (h : node.Rooted base)
    (hbelow : Tree.Rooted node.path (f node.childList)) : (node.mapChildren f).Rooted base := by
  refine h.of_children rfl rfl (fun hfile => ?_) ?_
  · rw [FileNode.mapChildren, h.children_eq_none hfile, Option.map_none]
  · rw [childList_mapChildren hf]
    exact hbelow

theorem rooted_file {name : String} (base : String) (hname : Path.IsName name) :
    (file (Tree.childPath base name)).Rooted base := by
  have hlast : (file (Tree.childPath base name)).name = name := Path.fileName_childPath base hname
  refine .intro ?_ ?_ (fun _ => rfl) List.nodup_nil (fun child h => absurd h List.not_mem_nil)
  · rw [hlast]
    rfl
  · rw [hlast]
    exact hname

theorem rooted_directory {name : String} (base : String) (hname : Path.IsName name) :
    (directory (Tree.childPath base name)).Rooted base := by
  have hlast : (directory (Tree.childPath base name)).name = name :=
    Path.fileName_childPath base hname
  refine .intro ?_ ?_ ?_ List.nodup_nil (fun child h => absurd h List.not_mem_nil)
  · rw [hlast]
    rfl
  · rw [hlast]
    exact hname
  · intro h
    simp only [directory, reduceCtorEq] at h

end FileNode

namespace Tree

variable {base : String}

theorem rooted_nil (base : String) : Rooted base [] :=
  ⟨List.nodup_nil, fun _ h => absurd h List.not_mem_nil⟩

theorem rooted_cons_iff (node : FileNode) (nodes : Tree) :
    Rooted base (node :: nodes) ↔
      node.Rooted base ∧ node.name ∉ nodes.map FileNode.name ∧ Rooted base nodes := by
  unfold Rooted
  rw [List.map_cons, List.nodup_cons, List.forall_mem_cons]
  exact ⟨fun h => ⟨h.2.1, h.1.1, h.1.2, h.2.2⟩, fun h => ⟨⟨h.2.1, h.2.2.1⟩, h.1, h.2.2.2⟩⟩

/-- The order of the nodes does not matter. -/
theorem Rooted.perm {tree tree' : Tree} (h : Rooted base tree) (hperm : tree'.Perm tree) :
    Rooted base tree' :=
  ⟨(hperm.map FileNode.name).nodup_iff.mpr h.1, fun node hmem => h.2 node (hperm.mem_iff.mp hmem)⟩

/-- A change of every node keeps nodes in their places if it keeps each one in its place. -/
theorem Rooted.map {tree : Tree} {f : FileNode → FileNode} (h : Rooted base tree)
    (hname : ∀ node ∈ tree, (f node).name = node.name)
    (hf : ∀ node ∈ tree, node.Rooted base → (f node).Rooted base) : Rooted base (tree.map f) := by
  constructor
  · rw [List.map_map]
    refine (List.map_congr_left fun node hmem => ?_) ▸ h.1
    exact (hname node hmem).symm
  · intro node hmem
    rcases List.mem_map.mp hmem with ⟨node', hmem', rfl⟩
    exact hf node' hmem' (h.2 node' hmem')

section Update

variable {name : String} {fresh : FileNode} {f : FileNode → FileNode}

theorem names_update (hf : ∀ node, node.name = name → (f node).name = name)
    (hfresh : fresh.name = name) (level : Tree) :
    (update name fresh f level).map FileNode.name =
      if name ∈ level.map FileNode.name then level.map FileNode.name
      else level.map FileNode.name ++ [name] := by
  induction level with
  | nil =>
      rw [update, List.map_singleton, hf fresh hfresh, List.map_nil, if_neg List.not_mem_nil]
      rfl
  | cons node nodes ih =>
      rw [update]
      by_cases hnode : node.name = name
      · rw [if_pos hnode, if_pos (by rw [List.map_cons, hnode]; exact List.mem_cons_self),
          List.map_cons, List.map_cons, hf node hnode, hnode]
      · have hiff : name ∈ (node :: nodes).map FileNode.name ↔ name ∈ nodes.map FileNode.name := by
          rw [List.map_cons, List.mem_cons, or_iff_right fun he => hnode he.symm]
        rw [if_neg hnode, List.map_cons, ih]
        by_cases hin : name ∈ nodes.map FileNode.name
        · rw [if_pos hin, if_pos (hiff.mpr hin), List.map_cons]
        · rw [if_neg hin, if_neg fun h => hin (hiff.mp h), List.map_cons, List.cons_append]

theorem mem_update {level : Tree} {node : FileNode} (h : node ∈ update name fresh f level) :
    node ∈ level ∨ node = f fresh ∨ ∃ old ∈ level, old.name = name ∧ node = f old := by
  induction level with
  | nil =>
      rw [update, List.mem_singleton] at h
      exact Or.inr (Or.inl h)
  | cons old nodes ih =>
      rw [update] at h
      by_cases hold : old.name = name
      · rw [if_pos hold, List.mem_cons] at h
        rcases h with rfl | h
        · exact Or.inr (Or.inr ⟨old, List.mem_cons_self, hold, rfl⟩)
        · exact Or.inl (List.mem_cons_of_mem old h)
      · rw [if_neg hold, List.mem_cons] at h
        rcases h with rfl | h
        · exact Or.inl List.mem_cons_self
        · rcases ih h with h | h | ⟨old', hmem, h⟩
          · exact Or.inl (List.mem_cons_of_mem old h)
          · exact Or.inr (Or.inl h)
          · exact Or.inr (Or.inr ⟨old', List.mem_cons_of_mem old hmem, h⟩)

/-- An update repeats no name. -/
theorem nodup_names_update (hf : ∀ node, node.name = name → (f node).name = name)
    (hfresh : fresh.name = name) {level : Tree} (h : (level.map FileNode.name).Nodup) :
    ((update name fresh f level).map FileNode.name).Nodup := by
  rw [names_update hf hfresh]
  by_cases hin : name ∈ level.map FileNode.name
  · rw [if_pos hin]
    exact h
  · rw [if_neg hin, List.nodup_append]
    refine ⟨h, List.pairwise_singleton _ name, fun a ha b hb hab => hin ?_⟩
    rw [← List.mem_singleton.mp hb, ← hab]
    exact ha

/-- An update keeps nodes in their places if it keeps those of the given name there. -/
theorem rooted_update {level : Tree} (h : Rooted base level) (hfresh : fresh.Rooted base)
    (hfreshname : fresh.name = name)
    (hf : ∀ node, node.name = name → (f node).name = name)
    (hrooted : ∀ node, node.Rooted base → node.name = name → (f node).Rooted base) :
    Rooted base (update name fresh f level) := by
  refine ⟨nodup_names_update hf hfreshname h.1, fun node hmem => ?_⟩
  rcases mem_update hmem with hmem | rfl | ⟨old, hold, hname, rfl⟩
  · exact h.2 node hmem
  · exact hrooted fresh hfresh hfreshname
  · exact hrooted old (h.2 old hold) hname

end Update

/-- A file is put in its place below a directory. -/
theorem rooted_insert {segs : List String} (hsegs : ∀ name ∈ segs, Path.IsName name)
    {level : Tree} (h : Rooted base level) : Rooted base (insert base segs level) := by
  induction segs generalizing base level with
  | nil => exact h
  | cons name rest ih =>
      rw [List.forall_mem_cons] at hsegs
      have hlast : Path.fileName (childPath base name) = name := Path.fileName_childPath base hsegs.1
      cases rest with
      | nil =>
          exact rooted_update h (FileNode.rooted_file base hsegs.1) hlast (fun _ hn => hn)
            (fun _ hnode _ => hnode)
      | cons name' rest =>
          refine rooted_update h (FileNode.rooted_directory base hsegs.1) hlast (fun _ hn => hn) ?_
          -- The directory may be new, or a node that was there, which is then made a directory.
          intro node hnode hname
          have hpath : node.path = childPath base name := by rw [hnode.path_eq, hname]
          refine hnode.of_children rfl rfl ?_ ?_
          · intro hkind
            simp only [FileNode.asDirectory, reduceCtorEq] at hkind
          · rw [hpath]
            exact ih hsegs.2 (hpath ▸ hnode.childList)

theorem name_sort (node : FileNode) : node.sort.name = node.name := by
  rw [FileNode.sort_eq]
  rfl

/-- Ordering every level below a node leaves all nodes in their directories. -/
theorem rooted_sort_node {node : FileNode} (h : node.Rooted base) : node.sort.Rooted base := by
  induction h with
  | @intro base node path name leaf distinct below ih =>
      have hnode : node.Rooted base := .intro path name leaf distinct below
      rw [FileNode.sort_eq]
      refine hnode.mapChildren (by rw [List.map_nil, sortBy]) ?_
      refine Rooted.perm ?_ (sortBy_perm _)
      exact hnode.childList.map (fun child _ => name_sort child) fun child hmem _ => ih child hmem

theorem rooted_sort {tree : Tree} (h : Rooted base tree) : Rooted base (sort tree) := by
  rw [sort, FileNode.sortEach_eq_map]
  refine Rooted.perm ?_ (sortBy_perm _)
  exact h.map (fun node _ => name_sort node) fun node _ => rooted_sort_node

/-- What holds of no nodes after no files, and goes on to hold when one more file is added, holds
    after any number of files. -/
theorem foldl_insert_of {P : List (List String) → Tree → Prop} (hnil : P [] [])
    (hinsert : ∀ files segs tree, (∀ name ∈ segs, Path.IsName name) → P files tree →
      P (files ++ [segs]) (insert "" segs tree))
    {files : List (List String)} (hfiles : ∀ segs ∈ files, ∀ name ∈ segs, Path.IsName name) :
    P files (files.foldl (fun tree segs => insert "" segs tree) []) := by
  induction files using List.reverseRecOn with
  | nil => exact hnil
  | append_singleton files segs ih =>
      rw [List.forall_mem_append, List.forall_mem_singleton] at hfiles
      rw [List.foldl_append]
      exact hinsert files segs _ hfiles.2 (ih hfiles.1)

/-- What holds of no nodes, goes on to hold when a file is added and does not depend on the order holds
    of every tree that is built from paths. -/
theorem build_of {P : Tree → Prop} (hnil : P [])
    (hinsert : ∀ segs tree, (∀ name ∈ segs, Path.IsName name) → P tree → P (insert "" segs tree))
    (hsort : ∀ tree, P tree → P (sort tree)) (paths : List String) : P (build paths) := by
  refine hsort _ (foldl_insert_of (P := fun _ => P) hnil (fun _ => hinsert) ?_)
  intro segs hsegs name hname
  exact Path.isName_of_mem_map_normalSegments hsegs hname

/-- Every tree that is built from paths is rooted. -/
theorem rooted_build (paths : List String) : Rooted "" (build paths) :=
  build_of (rooted_nil "") (fun _ _ hsegs h => rooted_insert hsegs h) (fun _ h => rooted_sort h) paths

section Refill

variable {f : FileNode → FileNode}

theorem names_modify (hf : Refills f) (path : String) (tree : Tree) :
    (modify path f tree).map FileNode.name = tree.map FileNode.name := by
  induction tree with
  | nil => rw [modify_nil]
  | cons node nodes ih =>
      rw [modify_cons]
      by_cases hpath : node.path = path
      · rw [if_pos hpath, List.map_cons, List.map_cons, hf.name]
      · rw [if_neg hpath]
        by_cases hbelow : Path.isBelow node.path path = true
        · rw [if_pos hbelow]
          rfl
        · rw [if_neg hbelow, List.map_cons, List.map_cons, ih]

/-- A change of the status or the content of a node keeps a tree rooted. -/
theorem rooted_modify (hf : Refills f) (path : String) {tree : Tree} (h : Rooted base tree) :
    Rooted base (modify path f tree) := by
  induction tree using Tree.induction generalizing base with
  | nil =>
      rw [modify_nil]
      exact h
  | cons node nodes ihchildren ihnodes =>
      rcases (rooted_cons_iff node nodes).mp h with ⟨hnode, hname, hnodes⟩
      rw [modify_cons]
      by_cases hpath : node.path = path
      · rw [if_pos hpath, rooted_cons_iff, hf.name]
        exact ⟨hnode.refill hf, hname, hnodes⟩
      · rw [if_neg hpath]
        by_cases hbelow : Path.isBelow node.path path = true
        · rw [if_pos hbelow, rooted_cons_iff]
          exact ⟨hnode.mapChildren (modify_nil path f) (ihchildren hnode.childList), hname, hnodes⟩
        · rw [if_neg hbelow, rooted_cons_iff, names_modify hf]
          exact ⟨hnode, hname, ihnodes hnodes⟩

theorem names_mapFiles (hf : Refills f) (tree : Tree) :
    (mapFiles f tree).map FileNode.name = tree.map FileNode.name := by
  induction tree with
  | nil => rw [mapFiles_nil]
  | cons node nodes ih =>
      rw [mapFiles_cons, List.map_cons, List.map_cons, ih]
      by_cases hkind : node.kind = .file
      · rw [if_pos hkind, hf.name]
      · rw [if_neg hkind]
        rfl

/-- A change of the status or the content of all files keeps a tree rooted. -/
theorem rooted_mapFiles (hf : Refills f) {tree : Tree} (h : Rooted base tree) :
    Rooted base (mapFiles f tree) := by
  induction tree using Tree.induction generalizing base with
  | nil =>
      rw [mapFiles_nil]
      exact h
  | cons node nodes ihchildren ihnodes =>
      rcases (rooted_cons_iff node nodes).mp h with ⟨hnode, hname, hnodes⟩
      rw [mapFiles_cons]
      by_cases hkind : node.kind = .file
      · rw [if_pos hkind, rooted_cons_iff, hf.name, names_mapFiles hf]
        exact ⟨hnode.refill hf, hname, ihnodes hnodes⟩
      · rw [if_neg hkind, rooted_cons_iff, names_mapFiles hf]
        refine ⟨hnode.mapChildren (mapFiles_nil f) ?_, hname, ihnodes hnodes⟩
        exact ihchildren hnode.childList

end Refill

end Tree

end Replatform
