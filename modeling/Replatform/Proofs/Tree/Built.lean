import Replatform.Proofs.Tree.Kinds

/-!
# The Tree of a List of Paths

Everything that is in a tree that was built from paths, and how it is laid out. The paths come in any
spelling and any order, with repetitions, and some of them may be ancestors of others. What counts
are the places that they denote, apart from the root: the normal forms of the paths.

What stands where was found out for the tree before it is sorted. Sorting touches no node but for the
order of its children (`mem_visits_sort`), so it stands there afterwards as well, and the lists of
children are then in order, all the way down.

`isTreeOf_build` puts this together with what is known of every rooted tree: that it is valid, and
that its files have paths of their own.

## Main definitions

* `FileNode.Precedes`: The order of the nodes in a directory.
* `Tree.levels`: The nodes of the root, and those of every directory.
* `Tree.IsTreeOf`: A tree shows some paths, and nothing else.

## Theorems

* `mem_visits_sort`: The nodes of a sorted tree.
* `pairwise_precedes_of_mem_levels`: The levels of a sorted tree are in order.
* `exists_mem_visits_build_iff`: What stands where in a tree that was built.
* `mem_filePaths_build`: The files of such a tree.
* `isTreeOf_build`: The tree of a list of paths shows their normal forms.
-/

namespace Replatform

/-- A directory precedes a file, and of two nodes of one kind the one with the smaller name precedes
    the other. -/
def FileNode.Precedes (a b : FileNode) : Prop :=
  (a.kind = .directory ∧ b.kind = .file) ∨ (a.kind = b.kind ∧ a.name < b.name)

namespace Tree

/-- The levels of a tree: the nodes of the root, and those of every directory. -/
def levels (tree : Tree) : List Tree :=
  tree :: (visits tree).map FileNode.childList

/-- A tree shows some paths and nothing else, in order. A path that is an ancestor of another one is
    shown as a directory, and as such only. -/
structure IsTreeOf (paths : List String) (tree : Tree) : Prop where
  valid : tree.IsValid
  once : tree.filePaths.Nodup
  files : ∀ path, path ∈ tree.filePaths ↔ path ∈ paths ∧ ∀ q ∈ paths, ¬ Path.isBelow path q
  directories : ∀ dir, dir ∈ tree.directoryPaths ↔ ∃ q ∈ paths, Path.isBelow dir q
  inOrder : ∀ level ∈ tree.levels, level.Pairwise FileNode.Precedes

section Order

variable {base : String}

theorem sort_nil : sort [] = [] := by
  rw [sort_eq_sortBy, List.map_nil, sortBy]

theorem childList_sort (node : FileNode) : node.sort.childList = sort node.childList := by
  have hsort : node.sort = node.mapChildren sort := by
    rw [FileNode.sort_eq]
    exact FileNode.mapChildren_congr (sort_eq_sortBy node.childList).symm
  rw [hsort, FileNode.childList_mapChildren sort_nil]

theorem kind_sort (node : FileNode) : node.sort.kind = node.kind := by
  rw [FileNode.sort_eq]
  rfl

theorem path_sort (node : FileNode) : node.sort.path = node.path := by
  rw [FileNode.sort_eq]
  rfl

theorem mem_visits_sort_cons (node n : FileNode) (nodes : Tree) :
    n ∈ visits (sort (node :: nodes)) ↔ n ∈ node.sort.visits ∨ n ∈ visits (sort nodes) := by
  simp only [sort_eq_sortBy, mem_visits_iff, mem_sortBy, List.map_cons, List.mem_cons,
    exists_eq_or_imp]

/-- Sorting a tree sorts each of its nodes. -/
theorem mem_visits_sort {tree : Tree} {n : FileNode} :
    n ∈ visits (sort tree) ↔ ∃ m ∈ visits tree, m.sort = n := by
  induction tree using Tree.induction with
  | nil => simp only [sort_nil, visits_nil, List.not_mem_nil, false_and, exists_false]
  | cons node nodes ihchildren ihnodes =>
      -- Below the node there are the nodes below it, sorted, if it is a directory.
      have hnode : n ∈ node.sort.visits ↔ ∃ m ∈ node.visits, m.sort = n := by
        have hbelow : FileNode.visitsAmong node.sort.childList = visits (sort node.childList) := by
          rw [childList_sort, visits]
        rw [FileNode.visits_eq, FileNode.visits_eq, kind_sort, hbelow]
        by_cases hkind : node.kind = .directory
        · rw [if_pos hkind, if_pos hkind, List.mem_cons, ihchildren]
          simp only [List.mem_cons, exists_eq_or_imp, eq_comm (a := n), visits]
        · rw [if_neg hkind, if_neg hkind]
          simp only [List.mem_singleton, exists_eq_left, eq_comm (a := n)]
      rw [mem_visits_sort_cons, hnode, ihnodes]
      simp only [mem_visits_cons, or_and_right, exists_or]

theorem exists_mem_visits_sort_iff (tree : Tree) (path : String) (kind : NodeKind) :
    (∃ n ∈ visits (sort tree), n.kind = kind ∧ n.path = path) ↔
      ∃ n ∈ visits tree, n.kind = kind ∧ n.path = path := by
  constructor
  · rintro ⟨n, hn, hkind, hpath⟩
    rcases mem_visits_sort.mp hn with ⟨m, hm, rfl⟩
    rw [kind_sort] at hkind
    rw [path_sort] at hpath
    exact ⟨m, hm, hkind, hpath⟩
  · rintro ⟨m, hm, hkind, hpath⟩
    refine ⟨m.sort, mem_visits_sort.mpr ⟨m, hm, rfl⟩, ?_, ?_⟩
    · rw [kind_sort, hkind]
    · rw [path_sort, hpath]

/-- The nodes on a level of a rooted tree have different names. -/
theorem nodup_names_of_mem_levels {tree level : Tree} (h : Rooted base tree)
    (hbase : Path.IsNormal base) (hlevel : level ∈ levels tree) :
    (level.map FileNode.name).Nodup := by
  rcases List.mem_cons.mp hlevel with rfl | hlevel
  · exact h.1
  · rcases List.mem_map.mp hlevel with ⟨n, hn, rfl⟩
    rcases exists_rooted_of_mem_visits h hbase hn with ⟨dir, -, hrooted, -⟩
    exact hrooted.childList.1

/-- Every level of a sorted tree was sorted. -/
theorem pairwise_before_of_mem_levels {tree level : Tree} (hlevel : level ∈ levels (sort tree)) :
    level.Pairwise fun a b => FileNode.before a b = true := by
  have hsorted : ∀ nodes : Tree, (sort nodes).Pairwise fun a b => FileNode.before a b = true := by
    intro nodes
    rw [sort_eq_sortBy]
    exact sortBy_pairwise FileNode.before_trans FileNode.before_total _
  rcases List.mem_cons.mp hlevel with rfl | hlevel
  · exact hsorted tree
  · rcases List.mem_map.mp hlevel with ⟨n, hn, rfl⟩
    rcases mem_visits_sort.mp hn with ⟨m, -, rfl⟩
    rw [childList_sort]
    exact hsorted m.childList

theorem precedes_of_before {a b : FileNode} (h : FileNode.before a b = true)
    (hname : a.name ≠ b.name) : a.Precedes b := by
  have hsmaller : a.name ≤ b.name → a.name < b.name := by
    intro hle
    exact String.not_le.mp fun hge => hname (String.le_antisymm hle hge)
  unfold FileNode.before FileNode.isDirectory at h
  by_cases hkind : a.kind = b.kind
  · rw [hkind, if_pos rfl, decide_eq_true_iff] at h
    exact Or.inr ⟨hkind, hsmaller h⟩
  · -- One of them is a directory, and it comes first.
    cases ha : a.kind with
    | directory =>
        cases hb : b.kind with
        | directory => exact absurd (ha.trans hb.symm) hkind
        | file => exact Or.inl ⟨ha, hb⟩
    | file =>
        cases hb : b.kind with
        | directory =>
            rw [ha, hb, if_neg (by decide)] at h
            exact absurd h (by decide)
        | file => exact absurd (ha.trans hb.symm) hkind

/-- The levels of a sorted tree are in order. -/
theorem pairwise_precedes_of_mem_levels {tree level : Tree} (h : Rooted "" tree)
    (hlevel : level ∈ levels (sort tree)) : level.Pairwise FileNode.Precedes := by
  -- Different names make the order strict.
  have hnames := nodup_names_of_mem_levels (rooted_sort h) Path.isNormal_empty hlevel
  rw [List.Nodup, List.pairwise_map] at hnames
  exact (pairwise_before_of_mem_levels hlevel).imp₂ (fun _ _ => precedes_of_before) hnames

end Order

/-- The files of a tree are those of its nodes that are files. -/
theorem mem_filesAmong_iff {tree : Tree} {file : FileNode} :
    file ∈ FileNode.filesAmong tree ↔ file ∈ visits tree ∧ file.kind = .file := by
  constructor
  · intro hfile
    exact ⟨mem_visits_of_mem_filesAmong hfile, kind_of_mem_filesAmong hfile⟩
  · rintro ⟨hvisit, hkind⟩
    induction tree using Tree.induction with
    | nil => exact absurd (visits_nil ▸ hvisit) List.not_mem_nil
    | cons node nodes ihchildren ihnodes =>
        rw [mem_visits_cons, FileNode.visits_eq, List.mem_cons] at hvisit
        rw [mem_filesAmong_cons, FileNode.files_eq]
        rcases hvisit with (rfl | hbelow) | hbeside
        · rw [if_pos hkind]
          exact Or.inl List.mem_cons_self
        · -- What has something below it is no file.
          by_cases hdirectory : node.kind = .directory
          · rw [if_pos hdirectory] at hbelow
            rw [if_neg (by rw [hdirectory]; decide)]
            exact Or.inl (ihchildren hbelow)
          · rw [if_neg hdirectory] at hbelow
            exact absurd hbelow List.not_mem_nil
        · exact Or.inr (ihnodes hbeside)

section Kinds

variable {files : List (List String)} {names : List String}

theorem kindAmong?_eq_directory_iff :
    kindAmong? files names = some .directory ↔ ∃ file ∈ files, Path.Extends file names := by
  unfold kindAmong?
  by_cases habove : ∃ file ∈ files, Path.Extends file names
  · simp only [habove, if_true]
  · by_cases hmem : names ∈ files
    · simp only [habove, hmem, if_true, if_false, Option.some.injEq, reduceCtorEq]
    · simp only [habove, hmem, if_false, reduceCtorEq]

theorem kindAmong?_eq_file_iff :
    kindAmong? files names = some .file ↔
      names ∈ files ∧ ¬ ∃ file ∈ files, Path.Extends file names := by
  unfold kindAmong?
  by_cases habove : ∃ file ∈ files, Path.Extends file names
  · simp only [habove, if_true, Option.some.injEq, reduceCtorEq, not_true_eq_false, and_false]
  · by_cases hmem : names ∈ files
    · simp only [habove, hmem, if_true, if_false, not_false_eq_true, and_self]
    · simp only [habove, hmem, if_false, false_and, reduceCtorEq]

end Kinds

/-- What stands where in a tree that was built. -/
theorem exists_mem_visits_build_iff (paths : List String) (path : String) (kind : NodeKind) :
    (∃ n ∈ visits (build paths), n.kind = kind ∧ n.path = path) ↔
      Path.IsNormal path ∧ path ≠ "" ∧
        kindAmong? (paths.map Path.normalSegments) (Path.normalSegments path) = some kind := by
  have hfiles : ∀ segs ∈ paths.map Path.normalSegments, ∀ name ∈ segs, Path.IsName name :=
    fun _ hsegs _ => Path.isName_of_mem_map_normalSegments hsegs
  -- The question is about the tree as it was before it was sorted.
  rw [build, exists_mem_visits_sort_iff, exists_mem_visits_iff (rooted_foldl_insert hfiles)]
  refine and_congr_right fun hnormal => and_congr_right fun hne => ?_
  have hplace : Path.normalSegments path ≠ [] := by
    rwa [ne_eq, hnormal.names_eq_nil_iff]
  rw [spans_foldl_insert hfiles _ hplace]

/-- The files of the tree of a list of paths are those of their normal forms that are no ancestors of
    others. -/
theorem mem_filePaths_build (paths : List String) (path : String) :
    path ∈ (build paths).filePaths ↔
      path ∈ Path.normals paths ∧ ∀ q ∈ Path.normals paths, ¬ Path.isBelow path q := by
  have hnodes : path ∈ (build paths).filePaths ↔
      ∃ n ∈ visits (build paths), n.kind = .file ∧ n.path = path := by
    simp only [mem_filePaths_iff, mem_filesAmong_iff, and_assoc]
  have hnone : (∀ q ∈ Path.normals paths, ¬ Path.isBelow path q) ↔
      ¬ ∃ q ∈ Path.normals paths, Path.isBelow path q = true := by
    simp only [not_exists, not_and]
  rw [hnodes, exists_mem_visits_build_iff, kindAmong?_eq_file_iff, hnone, Path.exists_isBelow_iff,
    Path.mem_normals_iff]
  -- Both sides speak of a path in normal form that is not the root.
  constructor
  · rintro ⟨hnormal, hne, hmem, hlast⟩
    exact ⟨⟨hnormal, hne, hmem⟩, fun h => hlast h.2.2⟩
  · rintro ⟨⟨hnormal, hne, hmem⟩, hlast⟩
    exact ⟨hnormal, hne, hmem, fun h => hlast ⟨hnormal, hne, h⟩⟩

/-- The tree of a list of paths shows their normal forms, apart from the root. -/
theorem isTreeOf_build (paths : List String) : (build paths).IsTreeOf (Path.normals paths) where
  valid := (rooted_build paths).isValid
  once := filePaths_nodup (rooted_build paths)
  files := mem_filePaths_build paths
  directories := by
    intro dir
    rw [mem_directoryPaths_iff, exists_mem_visits_build_iff, kindAmong?_eq_directory_iff,
      Path.exists_isBelow_iff]
  inOrder := by
    intro level hlevel
    refine pairwise_precedes_of_mem_levels (rooted_foldl_insert fun _ hsegs _ => ?_) hlevel
    exact Path.isName_of_mem_map_normalSegments hsegs

/-- A directory that is named as a file, and two spellings of one path. -/
example : (build ["lib/./a.ts", "lib", "b/../z.ts", "z.ts", "c/d"]).filePaths =
    ["c/d", "lib/a.ts", "z.ts"] := by
  decide +kernel

end Tree

end Replatform
