import Replatform.Proofs.Tree.Refill

/-!
# Building a Tree Again

A tree that was built from paths can be built again from the paths of its files. Whatever the plan
said that led to it, in which order and spelling, is in these paths as far as it is in the tree.

A tree that was built has grown from names: its nodes are fresh, they are in their places, and no
directory is empty. If the files of such a tree are added one after another, they come back in the
order in which they were: the files of a node come before those of the next one, and the first of
them makes the directory that the others go into. `Replants` is what is shown of the names on the way
to the files, along the tree.

The order of the levels is then a matter of having been sorted before.

## Main definitions

* `FileNode.Grown`, `Tree.Grown`: A node, or the nodes of a directory, have grown from names.
* `Tree.Replants`: Names from which nodes grow again.

## Theorems

* `grown_insert`, `grown_sort`: Trees that are built from paths have grown from names.
* `exists_replants`: What has grown from names grows again from the paths of its files.
* `sort_sort`: What was sorted is sorted.
* `build_filePaths`: A tree that was built is built again from the paths of its files.
-/

namespace Replatform

namespace FileNode

/-- A fresh directory with some nodes in it. -/
def folder (path : String) (children : List FileNode) : FileNode :=
  { directory path with children := some children }

/-- A node has grown from names in the directory `base`: it is fresh, in its place, and leads to a
    file. -/
inductive Grown : String → FileNode → Prop where
  | file {base name : String} (hname : Path.IsName name) : Grown base (file (Tree.childPath base name))
  | folder {base name : String} {children : List FileNode} (hname : Path.IsName name)
      (inhabited : children ≠ []) (distinct : (children.map FileNode.name).Nodup)
      (below : ∀ child ∈ children, Grown (Tree.childPath base name) child) :
      Grown base (folder (Tree.childPath base name) children)

end FileNode

/-- The nodes of the directory `base` have grown from names. -/
def Tree.Grown (base : String) (tree : Tree) : Prop :=
  (tree.map FileNode.name).Nodup ∧ ∀ node ∈ tree, node.Grown base

namespace FileNode

variable {base name : String}

theorem name_file (base : String) (hname : Path.IsName name) :
    (file (Tree.childPath base name)).name = name :=
  Path.fileName_childPath base hname

theorem name_folder (base : String) (hname : Path.IsName name) (children : List FileNode) :
    (folder (Tree.childPath base name) children).name = name :=
  Path.fileName_childPath base hname

/-- To make a directory of what is a directory is to work on what is in it. -/
theorem asDirectory_folder (f : List FileNode → List FileNode) (path : String)
    (children : List FileNode) : asDirectory f (folder path children) = folder path (f children) :=
  rfl

theorem asDirectory_directory (f : List FileNode → List FileNode) (path : String) :
    asDirectory f (directory path) = folder path (f []) :=
  rfl

/-- What has grown goes on to grow when something is put in it. -/
theorem Grown.asDirectory {node : FileNode} {f : List FileNode → List FileNode}
    (h : node.Grown base) (hname : node.name = name) (hnew : ∀ children, f children ≠ [])
    (hf : ∀ children, Tree.Grown (Tree.childPath base name) children →
      Tree.Grown (Tree.childPath base name) (f children)) : (node.asDirectory f).Grown base := by
  cases h with
  | file hisname =>
      -- A file that is in the way becomes a directory with nothing in it yet.
      rw [name_file base hisname] at hname
      subst hname
      have hgrown := hf [] ⟨List.nodup_nil, fun _ h => absurd h List.not_mem_nil⟩
      exact .folder hisname (hnew []) hgrown.1 hgrown.2
  | @folder base name' children hisname inhabited distinct below =>
      rw [name_folder base hisname] at hname
      subst hname
      have hgrown := hf children ⟨distinct, below⟩
      exact .folder hisname (hnew children) hgrown.1 hgrown.2

end FileNode

namespace Tree

variable {base name : String}

theorem grown_nil (base : String) : Grown base [] :=
  ⟨List.nodup_nil, fun _ h => absurd h List.not_mem_nil⟩

theorem grown_cons_iff (node : FileNode) (nodes : Tree) :
    Grown base (node :: nodes) ↔
      node.Grown base ∧ node.name ∉ nodes.map FileNode.name ∧ Grown base nodes := by
  unfold Grown
  rw [List.map_cons, List.nodup_cons, List.forall_mem_cons]
  exact ⟨fun h => ⟨h.2.1, h.1.1, h.1.2, h.2.2⟩, fun h => ⟨⟨h.2.1, h.2.2.1⟩, h.1, h.2.2.2⟩⟩

section Insert

variable {fresh : FileNode} {f : FileNode → FileNode}

theorem update_ne_nil (name : String) (fresh : FileNode) (f : FileNode → FileNode) (level : Tree) :
    update name fresh f level ≠ [] := by
  cases level with
  | nil => exact List.cons_ne_nil _ _
  | cons node nodes =>
      rw [update]
      by_cases hname : node.name = name
      · rw [if_pos hname]
        exact List.cons_ne_nil _ _
      · rw [if_neg hname]
        exact List.cons_ne_nil _ _

/-- An update passes over nodes with other names. -/
theorem update_append {level : Tree} (hnew : name ∉ level.map FileNode.name) (nodes : Tree) :
    update name fresh f (level ++ nodes) = level ++ update name fresh f nodes := by
  induction level with
  | nil => rfl
  | cons node level ih =>
      rw [List.map_cons, List.mem_cons, not_or] at hnew
      rw [List.cons_append, update, if_neg fun h => hnew.1 h.symm, ih hnew.2, List.cons_append]

theorem grown_update {level : Tree} (h : Grown base level) (hfresh : (f fresh).Grown base)
    (hfreshname : fresh.name = name) (hf : ∀ node, node.name = name → (f node).name = name)
    (hgrown : ∀ node, node.Grown base → node.name = name → (f node).Grown base) :
    Grown base (update name fresh f level) := by
  refine ⟨nodup_names_update hf hfreshname h.1, fun node hmem => ?_⟩
  rcases mem_update hmem with hmem | rfl | ⟨old, hold, hname, rfl⟩
  · exact h.2 node hmem
  · exact hfresh
  · exact hgrown old (h.2 old hold) hname

theorem insert_cons {segs : List String} (hsegs : segs ≠ []) (base name : String) (level : Tree) :
    insert base (name :: segs) level =
      update name (.directory (childPath base name))
        (FileNode.asDirectory (insert (childPath base name) segs)) level := by
  cases segs with
  | nil => exact absurd rfl hsegs
  | cons name' segs => rfl

theorem insert_ne_nil {segs : List String} (hsegs : segs ≠ []) (base : String) (level : Tree) :
    insert base segs level ≠ [] := by
  cases segs with
  | nil => exact absurd rfl hsegs
  | cons name segs =>
      cases segs with
      | nil => exact update_ne_nil _ _ _ _
      | cons name' segs => exact update_ne_nil _ _ _ _

/-- Adding a file makes nodes grow. -/
theorem grown_insert {segs : List String} (hsegs : ∀ name ∈ segs, Path.IsName name) {level : Tree}
    (h : Grown base level) : Grown base (insert base segs level) := by
  induction segs generalizing base level with
  | nil => exact h
  | cons name rest ih =>
      rw [List.forall_mem_cons] at hsegs
      have hlast : Path.fileName (childPath base name) = name := Path.fileName_childPath base hsegs.1
      -- The last name is that of the file, and all others are those of directories.
      cases rest with
      | nil =>
          exact grown_update h (.file hsegs.1) hlast (fun _ hn => hn) (fun _ hnode _ => hnode)
      | cons name' rest =>
          have hnew := insert_ne_nil (List.cons_ne_nil name' rest) (childPath base name)
          refine grown_update h ?_ hlast (fun _ hn => hn) fun node hnode hname => ?_
          · have hbelow := ih hsegs.2 (grown_nil (childPath base name))
            exact .folder hsegs.1 (hnew []) hbelow.1 hbelow.2
          · exact hnode.asDirectory hname hnew fun children hchildren => ih hsegs.2 hchildren

end Insert

section Replant

/-- The names on the way to the files of some nodes. If files are added at them one after another, the
    nodes grow again behind those with other names. -/
structure Replants (base : String) (tree : Tree) (routes : List (List String)) : Prop where
  segments : tree.filePaths.map Path.normalSegments =
    routes.map fun route => Path.normalSegments base ++ route
  inhabited : tree ≠ [] → routes ≠ []
  named : ∀ route ∈ routes, route ≠ []
  grows : ∀ level : Tree, (∀ name ∈ tree.map FileNode.name, name ∉ level.map FileNode.name) →
    routes.foldl (fun level route => insert base route level) level = level ++ tree

/-- Files are added below a directory that is the last of its level. -/
theorem foldl_insert_folder {level : Tree} (hname : Path.IsName name)
    (hnew : name ∉ level.map FileNode.name) {routes : List (List String)}
    (hroutes : ∀ route ∈ routes, route ≠ []) (children : Tree) :
    (routes.map (name :: ·)).foldl (fun level route => insert base route level)
        (level ++ [.folder (childPath base name) children]) =
      level ++ [.folder (childPath base name)
        (routes.foldl (fun level route => insert (childPath base name) route level) children)] := by
  induction routes generalizing children with
  | nil => rfl
  | cons route routes ih =>
      rw [List.forall_mem_cons] at hroutes
      have hlast : (FileNode.folder (childPath base name) children).name = name :=
        FileNode.name_folder base hname children
      -- The directory is found behind the others, and the file is added in it.
      rw [List.map_cons, List.foldl_cons, insert_cons hroutes.1, update_append hnew, update,
        if_pos hlast, FileNode.asDirectory_folder, ih hroutes.2, List.foldl_cons]

theorem replants_nil (base : String) : Replants base [] [] :=
  ⟨rfl, fun h => absurd rfl h, fun _ h => absurd h List.not_mem_nil,
    fun level _ => (List.append_nil level).symm⟩

theorem replants_file {nodes : Tree} {routes : List (List String)} (hname : Path.IsName name)
    (hnot : name ∉ nodes.map FileNode.name) (h : Replants base nodes routes) :
    Replants base (.file (childPath base name) :: nodes) ([name] :: routes) := by
  have hlast := FileNode.name_file base hname
  refine ⟨?_, fun _ => List.cons_ne_nil _ _, ?_, fun level hnew => ?_⟩
  · rw [filePaths_cons, List.map_append, List.map_cons, h.segments]
    exact congrArg (· :: _) (Path.normalSegments_childPath base hname)
  · exact List.forall_mem_cons.mpr ⟨List.cons_ne_nil _ _, h.named⟩
  · rw [List.map_cons, hlast, List.forall_mem_cons] at hnew
    have hfirst : insert base [name] level = level ++ [.file (childPath base name)] := by
      have hupdate : update name (.file (childPath base name)) id (level ++ []) = _ :=
        update_append hnew.1 []
      rw [List.append_nil] at hupdate
      exact hupdate
    rw [List.foldl_cons, hfirst, h.grows, List.append_assoc, List.singleton_append]
    intro other hother
    rw [List.map_append, List.mem_append, List.map_singleton, hlast, List.mem_singleton, not_or]
    exact ⟨hnew.2 other hother, fun he => hnot (he ▸ hother)⟩

theorem replants_folder {nodes children : Tree} {routes below : List (List String)}
    (hname : Path.IsName name) (hnot : name ∉ nodes.map FileNode.name) (hchildren : children ≠ [])
    (hbelow : Replants (childPath base name) children below) (h : Replants base nodes routes) :
    Replants base (.folder (childPath base name) children :: nodes)
      (below.map (name :: ·) ++ routes) := by
  have hlast := FileNode.name_folder base hname children
  refine ⟨?_, fun _ hnil => ?_, fun route hroute => ?_, fun level hnew => ?_⟩
  · rw [filePaths_cons, List.map_append, List.map_append, h.segments]
    refine congrArg (· ++ _) (hbelow.segments.trans ?_)
    rw [List.map_map, Path.normalSegments_childPath base hname]
    exact List.map_congr_left fun route _ => List.append_assoc _ _ _
  · rw [List.append_eq_nil_iff, List.map_eq_nil_iff] at hnil
    exact hbelow.inhabited hchildren hnil.1
  · rcases List.mem_append.mp hroute with hroute | hroute
    · rcases List.mem_map.mp hroute with ⟨rest, -, rfl⟩
      exact List.cons_ne_nil _ _
    · exact h.named route hroute
  · rw [List.map_cons, hlast, List.forall_mem_cons] at hnew
    -- The first file makes the directory.
    have hfold : (below.map (name :: ·)).foldl (fun level route => insert base route level) level =
        level ++ [.folder (childPath base name) children] := by
      cases hroutes : below with
      | nil => exact absurd hroutes (hbelow.inhabited hchildren)
      | cons route rest =>
          have hnamed := List.forall_mem_cons.mp (hroutes ▸ hbelow.named)
          have hgrows := hbelow.grows [] fun _ _ => List.not_mem_nil
          have hfirst : update name (.directory (childPath base name))
              (FileNode.asDirectory (insert (childPath base name) route)) (level ++ []) = _ :=
            update_append hnew.1 []
          rw [List.append_nil] at hfirst
          rw [hroutes, List.foldl_cons, List.nil_append] at hgrows
          rw [List.map_cons, List.foldl_cons, insert_cons hnamed.1, hfirst, update,
            FileNode.asDirectory_directory]
          rw [foldl_insert_folder hname hnew.1 hnamed.2, hgrows]
    rw [List.foldl_append, hfold, h.grows, List.append_assoc, List.singleton_append]
    intro other hother
    rw [List.map_append, List.mem_append, List.map_singleton, hlast, List.mem_singleton, not_or]
    exact ⟨hnew.2 other hother, fun he => hnot (he ▸ hother)⟩

/-- What has grown from names grows again from the paths of its files. -/
theorem exists_replants {tree : Tree} (h : Grown base tree) : ∃ routes, Replants base tree routes := by
  induction tree using Tree.induction generalizing base with
  | nil => exact ⟨[], replants_nil base⟩
  | cons node nodes ihchildren ihnodes =>
      rcases (grown_cons_iff node nodes).mp h with ⟨hnode, hnot, hnodes⟩
      rcases ihnodes hnodes with ⟨routes, hroutes⟩
      cases hnode with
      | file hname =>
          rw [FileNode.name_file base hname] at hnot
          exact ⟨_, replants_file hname hnot hroutes⟩
      | @folder base name children hname inhabited distinct below =>
          rw [FileNode.name_folder base hname] at hnot
          rcases ihchildren ⟨distinct, below⟩ with ⟨routes', hroutes'⟩
          exact ⟨_, replants_folder hname hnot inhabited hroutes' hroutes⟩

end Replant

end Tree

namespace FileNode

theorem before_total (a b : FileNode) : (before a b || before b a) = true := by
  unfold before
  by_cases hkind : a.isDirectory = b.isDirectory
  · rw [if_pos hkind, if_pos hkind.symm, Bool.or_eq_true, decide_eq_true_iff, decide_eq_true_iff]
    exact String.le_total a.name b.name
  · rw [if_neg hkind, if_neg fun h => hkind h.symm]
    cases ha : a.isDirectory with
    | true => rfl
    | false =>
        rw [ha] at hkind
        rw [Bool.false_or]
        exact Bool.not_eq_false _ |>.mp fun hb => hkind hb.symm

theorem before_trans (a b c : FileNode) (hab : before a b = true) (hbc : before b c = true) :
    before a c = true := by
  unfold before at *
  cases ha : a.isDirectory <;> cases hb : b.isDirectory <;> cases hc : c.isDirectory <;>
    simp only [ha, hb, hc, reduceCtorEq, if_true, if_false, decide_eq_true_iff] at * <;>
    exact String.le_trans hab hbc

end FileNode

namespace Tree

variable {base : String}

theorem sort_eq_sortBy (tree : Tree) :
    sort tree = sortBy FileNode.before (tree.map FileNode.sort) := by
  rw [sort, FileNode.sortEach_eq_map]

/-- What was sorted is sorted, if that holds of each node. -/
theorem sort_sort_of {tree : Tree} (h : ∀ node ∈ tree, node.sort.sort = node.sort) :
    sort (sort tree) = sort tree := by
  rw [sort_eq_sortBy tree, sort_eq_sortBy]
  have hsame : (sortBy FileNode.before (tree.map FileNode.sort)).map FileNode.sort =
      sortBy FileNode.before (tree.map FileNode.sort) := by
    refine (List.map_congr_left fun node hnode => ?_).trans (List.map_id _)
    rcases List.mem_map.mp (mem_sortBy.mp hnode) with ⟨old, hold, rfl⟩
    exact h old hold
  rw [hsame]
  exact sortBy_eq_self (sortBy_pairwise FileNode.before_trans FileNode.before_total _)

theorem sort_sort (tree : Tree) : sort (sort tree) = sort tree := by
  have hnodes : ∀ node ∈ tree, node.sort.sort = node.sort := by
    induction tree using Tree.induction with
    | nil => exact fun _ h => absurd h List.not_mem_nil
    | cons node nodes ihchildren ihnodes =>
        refine List.forall_mem_cons.mpr ⟨?_, ihnodes⟩
        -- What is in a directory is sorted before the directory is put in its place.
        have hchildren := sort_sort_of ihchildren
        rw [sort_eq_sortBy (sort _), sort_eq_sortBy] at hchildren
        rw [FileNode.sort_eq node, FileNode.sort_eq, FileNode.mapChildren_mapChildren]
        exact FileNode.mapChildren_congr hchildren
  exact sort_sort_of hnodes

/-- Nodes that have grown are put in order, if each of them is below. -/
theorem grown_sort_of {tree : Tree} (hdistinct : (tree.map FileNode.name).Nodup)
    (h : ∀ node ∈ tree, node.sort.Grown base) :
    Grown base (sortBy FileNode.before (tree.map FileNode.sort)) := by
  have hperm : (sortBy FileNode.before (tree.map FileNode.sort)).Perm _ := sortBy_perm _
  refine ⟨(hperm.map FileNode.name).nodup_iff.mpr ?_, fun node hnode => ?_⟩
  · rw [List.map_map]
    exact (List.map_congr_left fun node _ => (name_sort node).symm) ▸ hdistinct
  · rcases List.mem_map.mp (hperm.mem_iff.mp hnode) with ⟨old, hold, rfl⟩
    exact h old hold

theorem grown_sort_node {node : FileNode} (h : node.Grown base) : node.sort.Grown base := by
  induction h with
  | file hname =>
      rw [FileNode.sort_eq]
      exact .file hname
  | @folder base name children hname inhabited distinct below ih =>
      have hsorted := grown_sort_of distinct ih
      rw [FileNode.sort_eq]
      refine .folder hname (fun hnil => inhabited ?_) hsorted.1 hsorted.2
      have hperm : (sortBy FileNode.before (children.map FileNode.sort)).Perm _ := sortBy_perm _
      have hnone : sortBy FileNode.before (children.map FileNode.sort) = [] := hnil
      rw [hnone] at hperm
      exact List.map_eq_nil_iff.mp hperm.nil_eq.symm

theorem grown_sort {tree : Tree} (h : Grown base tree) : Grown base (sort tree) := by
  rw [sort_eq_sortBy]
  exact grown_sort_of h.1 fun node hnode => grown_sort_node (h.2 node hnode)

theorem grown_build (paths : List String) : Grown "" (build paths) :=
  build_of (grown_nil "") (fun _ _ hsegs h => grown_insert hsegs h) (fun _ h => grown_sort h) paths

/-- A tree that was built from paths is built again from the paths of its files. -/
theorem build_filePaths (paths : List String) : build (build paths).filePaths = build paths := by
  rcases exists_replants (grown_build paths) with ⟨routes, hroutes⟩
  have hsegments : (build paths).filePaths.map Path.normalSegments = routes :=
    hroutes.segments.trans (List.map_id routes)
  -- The files come in the order of a tree that is sorted, and it grows again from nothing.
  have hgrows := hroutes.grows [] fun _ _ => List.not_mem_nil
  rw [build, hsegments, hgrows, List.nil_append]
  exact sort_sort _

end Tree

end Replatform
