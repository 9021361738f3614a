import Mathlib.Data.List.Sort
import Replatform.Proofs.Tree.Built

/-!
# One Tree for Every Set of Paths

Two lists of paths that denote the same places are built into the same tree: the same nodes of the
same kinds, with the same children in the same order. The lists may be in any order, repeat
themselves and spell their paths in any way.

Before they are sorted, the trees of two such lists differ. Their nodes come in the order in which the
paths named them, and what is a directory from the beginning in one tree was a file for a while in
the other. What they have in common is what stands at each place, which `spans_foldl_insert` says in
terms of the set of places alone. The rest of a node is decided by its place, because all nodes have
grown from names, and sorting takes away the order. So trees that have grown from names are the same
once they are sorted if the same stands at each place (`sort_eq_sort`); the induction is along one of
the trees, and the other one follows by the names.

The paths of the files can be read off a tree, and they are those of the places that are not above
another one. The tree therefore is the same for two lists only if these are, which makes it a normal
form of the list: nothing else about a list is in its tree, and all of this is.

## Main definitions

* `Path.IsTip`: A path among some that is not an ancestor of another one.

## Theorems

* `exists_counterpart`: A node has one of the same name where the same stands at each place.
* `sort_eq_sort`: Trees with the same at each place are sorted into the same tree.
* `kindAmong?_congr`: What should stand at a place depends on the set of places.
* `build_congr`: The tree depends on the set of normal forms.
* `build_canonical`: What the tree depends on, and what it shows of that.
-/

namespace Replatform

/-- A path is the normal form of one of some paths, and no ancestor of another normal form. -/
def Path.IsTip (paths : List String) (path : String) : Prop :=
  path ∈ Path.normals paths ∧ ∀ q ∈ Path.normals paths, ¬ Path.isBelow path q

namespace FileNode

instance : Std.Irrefl Precedes where
  irrefl node h := by
    rcases h with ⟨hdirectory, hfile⟩ | ⟨-, hname⟩
    · exact absurd (hdirectory.symm.trans hfile) (by decide)
    · exact String.lt_irrefl node.name hname

instance : Std.Antisymm Precedes where
  antisymm a b hab hba := by
    -- Neither kinds nor names can come before each other both ways.
    rcases hab with ⟨hdirectory, hfile⟩ | ⟨hkind, hname⟩
    · rcases hba with ⟨hdirectory', -⟩ | ⟨hkind, -⟩
      · exact absurd (hdirectory'.symm.trans hfile) (by decide)
      · exact absurd (hfile.symm.trans (hkind.trans hdirectory)) (by decide)
    · rcases hba with ⟨hdirectory, hfile⟩ | ⟨-, hname'⟩
      · exact absurd (hfile.symm.trans (hkind.trans hdirectory)) (by decide)
      · exact absurd (String.lt_trans hname hname') (String.lt_irrefl a.name)

end FileNode

namespace Tree

open FileNode (Precedes)

variable {base : String} {tree tree' : Tree}

theorem mem_sort_iff {n : FileNode} : n ∈ sort tree ↔ ∃ node ∈ tree, node.sort = n := by
  rw [sort_eq_sortBy, mem_sortBy, List.mem_map]

/-- Nodes with different names are in order when they are sorted. -/
theorem pairwise_precedes_sort (hdistinct : (tree.map FileNode.name).Nodup) :
    (sort tree).Pairwise Precedes := by
  have hperm : (sort tree).Perm (tree.map FileNode.sort) := sort_eq_sortBy tree ▸ sortBy_perm _
  have hnames : ((sort tree).map FileNode.name).Nodup := by
    rw [(hperm.map FileNode.name).nodup_iff, List.map_map]
    exact (List.map_congr_left fun node _ => (name_sort node).symm) ▸ hdistinct
  rw [List.Nodup, List.pairwise_map] at hnames
  exact (pairwise_before_of_mem_levels List.mem_cons_self).imp₂
    (fun _ _ => precedes_of_before) hnames

/-- A node has a counterpart of the same name where the same stands at each place, and the same stands
    at each place below the two. -/
theorem exists_counterpart (hdistinct : (tree.map FileNode.name).Nodup)
    (hkinds : ∀ name names, kindAt? (name :: names) tree = kindAt? (name :: names) tree')
    {node : FileNode} (hnode : node ∈ tree) :
    ∃ node' ∈ tree', node'.name = node.name ∧
      ∀ names, FileNode.kindAt? names node = FileNode.kindAt? names node' := by
  have hbelow : ∀ names, FileNode.kindAt? names node =
      (named? node.name tree').bind (FileNode.kindAt? names) := by
    intro names
    rw [← kindAt?_cons, ← hkinds, kindAt?_cons, named?_of_mem hdistinct hnode, Option.bind_some]
  -- The node itself stands at its place, so that there is something in the other tree.
  rcases Option.bind_eq_some_iff.mp (hbelow []).symm with ⟨node', hnamed, -⟩
  rcases mem_of_named? hnamed with ⟨hmem, hname⟩
  refine ⟨node', hmem, hname, fun names => ?_⟩
  rw [hbelow, hnamed, Option.bind_some]

/-- Nodes are sorted into the same list if the same stands at each place, provided that this makes
    each of them the same as its counterpart. -/
theorem sort_eq_sort_of (hdistinct : (tree.map FileNode.name).Nodup)
    (hdistinct' : (tree'.map FileNode.name).Nodup)
    (hkinds : ∀ name names, kindAt? (name :: names) tree = kindAt? (name :: names) tree')
    (hnodes : ∀ node ∈ tree, ∀ node' ∈ tree', node'.name = node.name →
      (∀ names, FileNode.kindAt? names node = FileNode.kindAt? names node') →
      node.sort = node'.sort) : sort tree = sort tree' := by
  refine (pairwise_precedes_sort hdistinct).eq_of_mem_iff (pairwise_precedes_sort hdistinct')
    fun n => ?_
  rw [mem_sort_iff, mem_sort_iff]
  constructor
  · rintro ⟨node, hnode, rfl⟩
    rcases exists_counterpart hdistinct hkinds hnode with ⟨node', hnode', hname, hsame⟩
    exact ⟨node', hnode', (hnodes node hnode node' hnode' hname hsame).symm⟩
  · rintro ⟨node', hnode', rfl⟩
    rcases exists_counterpart hdistinct' (fun name names => (hkinds name names).symm) hnode' with
      ⟨node, hnode, hname, hsame⟩
    exact ⟨node, hnode, hnodes node hnode node' hnode' hname.symm fun names => (hsame names).symm⟩

/-- A node that has grown from names is known, but for the order of what is below it, from its name and
    from what stands where below it. -/
theorem sort_node_eq_sort {node node' : FileNode} (h : node.Grown base) (h' : node'.Grown base)
    (hname : node'.name = node.name)
    (hkinds : ∀ names, FileNode.kindAt? names node = FileNode.kindAt? names node') :
    node.sort = node'.sort := by
  induction h generalizing node' with
  | @file base name hisname =>
      rw [FileNode.name_file base hisname] at hname
      cases h' with
      | file hisname' =>
          rw [FileNode.name_file base hisname'] at hname
          rw [hname]
      | folder =>
          have hkind : NodeKind.file = .directory := Option.some.inj (hkinds [])
          cases hkind
  | @folder base name children hisname inhabited distinct below ih =>
      rw [FileNode.name_folder base hisname] at hname
      cases h' with
      | file =>
          have hkind : NodeKind.directory = .file := Option.some.inj (hkinds [])
          cases hkind
      | @folder _ name' children' hisname' inhabited' distinct' below' =>
          rw [FileNode.name_folder base hisname'] at hname
          subst hname
          -- What is in the directories is the same by induction, once it is sorted.
          have hchildren : sort children = sort children' :=
            sort_eq_sort_of distinct distinct' (fun name names => hkinds (name :: names))
              fun child hchild child' hchild' => ih child hchild (below' child' hchild')
          rw [sort_eq_sortBy, sort_eq_sortBy] at hchildren
          rw [FileNode.sort_eq, FileNode.sort_eq]
          exact congrArg (FileNode.folder (childPath base name')) hchildren

/-- Trees that have grown from names are sorted into the same tree if the same stands at each place. -/
theorem sort_eq_sort (h : Grown base tree) (h' : Grown base tree')
    (hkinds : ∀ names, names ≠ [] → kindAt? names tree = kindAt? names tree') :
    sort tree = sort tree' :=
  sort_eq_sort_of h.1 h'.1 (fun name names => hkinds (name :: names) (List.cons_ne_nil name names))
    fun node hnode node' hnode' => sort_node_eq_sort (h.2 node hnode) (h'.2 node' hnode')

theorem grown_foldl_insert {files : List (List String)}
    (hfiles : ∀ segs ∈ files, ∀ name ∈ segs, Path.IsName name) :
    Grown "" (files.foldl (fun tree segs => Tree.insert "" segs tree) []) :=
  foldl_insert_of (P := fun _ => Grown "") (grown_nil "")
    (fun _ _ _ hsegs h => grown_insert hsegs h) hfiles

section Places

variable {paths paths' : List String}

/-- The places that some paths denote, apart from the root, are those of their normal forms. -/
theorem mem_map_normalSegments_iff {names : List String} (hne : names ≠ []) :
    names ∈ paths.map Path.normalSegments ↔
      ∃ path ∈ Path.normals paths, Path.normalSegments path = names := by
  constructor
  · intro hmem
    rcases List.mem_map.mp hmem with ⟨raw, -, rfl⟩
    have hsame := Path.normalSegments_normalize raw
    have hnormal := Path.isNormal_normalize raw
    refine ⟨Path.normalize raw, Path.mem_normals_iff.mpr ⟨hnormal, fun hempty => hne ?_, ?_⟩, hsame⟩
    · rw [← hsame, hnormal.names_eq_nil_iff.mpr hempty]
    · rw [hsame]
      exact hmem
  · rintro ⟨path, hpath, rfl⟩
    exact (Path.mem_normals_iff.mp hpath).2.2

/-- What should stand at a place depends on the set of normal forms. -/
theorem kindAmong?_congr (h : ∀ path, path ∈ Path.normals paths ↔ path ∈ Path.normals paths')
    {names : List String} (hne : names ≠ []) :
    kindAmong? (paths.map Path.normalSegments) names =
      kindAmong? (paths'.map Path.normalSegments) names := by
  have hplaces : ∀ place : List String, place ≠ [] →
      (place ∈ paths.map Path.normalSegments ↔ place ∈ paths'.map Path.normalSegments) := by
    intro place hplace
    simp only [mem_map_normalSegments_iff hplace, h]
  -- What goes on behind a place is not the root either.
  have habove : (∃ file ∈ paths.map Path.normalSegments, Path.Extends file names) ↔
      ∃ file ∈ paths'.map Path.normalSegments, Path.Extends file names := by
    refine exists_congr fun file => and_congr_left fun hextends => hplaces file ?_
    rintro rfl
    exact Path.not_nil_extends names hextends
  simp only [kindAmong?, habove, hplaces names hne]

/-- The tree of some paths depends on the set of their normal forms. -/
theorem build_congr (h : ∀ path, path ∈ Path.normals paths ↔ path ∈ Path.normals paths') :
    build paths = build paths' := by
  have hnames : ∀ paths : List String,
      ∀ segs ∈ paths.map Path.normalSegments, ∀ name ∈ segs, Path.IsName name :=
    fun _ _ hsegs _ => Path.isName_of_mem_map_normalSegments hsegs
  refine sort_eq_sort (grown_foldl_insert (hnames paths)) (grown_foldl_insert (hnames paths'))
    fun names hne => ?_
  rw [spans_foldl_insert (hnames paths) names hne, spans_foldl_insert (hnames paths') names hne]
  exact kindAmong?_congr h hne

/-- The tree of some paths is the same, node for node, for all lists with the same set of normal forms.
    Of this set it shows which paths are no ancestors of others, and nothing else. -/
theorem build_canonical (paths paths' : List String) :
    ((∀ path, path ∈ Path.normals paths ↔ path ∈ Path.normals paths') →
      build paths = build paths') ∧
    (build paths = build paths' ↔ ∀ path, Path.IsTip paths path ↔ Path.IsTip paths' path) := by
  refine ⟨build_congr, fun h path => ?_, fun h => ?_⟩
  · -- The files of the tree are the tips.
    have hfiles := mem_filePaths_build paths path
    rw [h, mem_filePaths_build] at hfiles
    exact hfiles.symm
  · have hfiles : ∀ path, path ∈ (build paths).filePaths ↔ path ∈ (build paths').filePaths := by
      intro path
      rw [mem_filePaths_build, mem_filePaths_build]
      exact h path
    rw [← build_filePaths paths, ← build_filePaths paths']
    refine build_congr fun path => ?_
    simp only [Path.normals, List.mem_filter, List.mem_map, hfiles]

/-- A file that is named before and behind the directory it turns out to be, in two spellings. -/
theorem build_canonical_spellings :
    (∀ path, path ∈ Path.normals ["lib", "lib/./a.ts", "z.ts"] ↔
      path ∈ Path.normals ["z.ts", "x/../lib//a.ts", "./lib", "z.ts"]) ∧
    build ["lib", "lib/./a.ts", "z.ts"] = build ["z.ts", "x/../lib//a.ts", "./lib", "z.ts"] := by
  have hnormals : Path.normals ["lib", "lib/./a.ts", "z.ts"] = ["lib", "lib/a.ts", "z.ts"] := by
    decide +kernel
  have hnormals' : Path.normals ["z.ts", "x/../lib//a.ts", "./lib", "z.ts"] =
      ["z.ts", "lib/a.ts", "lib", "z.ts"] := by
    decide +kernel
  have hsame : ∀ path, path ∈ Path.normals ["lib", "lib/./a.ts", "z.ts"] ↔
      path ∈ Path.normals ["z.ts", "x/../lib//a.ts", "./lib", "z.ts"] := by
    intro path
    simp only [hnormals, hnormals', List.mem_cons, List.not_mem_nil, or_false]
    tauto
  exact ⟨hsame, (build_canonical _ _).1 hsame⟩

end Places

end Tree

end Replatform
