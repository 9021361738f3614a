import Mathlib.Data.List.Induction
import Replatform.Proofs.Graph.Lookup
import Replatform.Proofs.Path.Normal
import Replatform.Proofs.Table

/-!
# What a Built Graph Holds

A graph is built from a list of files in which a path may occur several times, in any spelling,
with or without content. `contentOf?` says what such a list holds for a path: the last content
given for it that is not blank. `lookup_buildWith` reduces the built graph to that, for any way
to find specifiers, and everything else about it is read off from there. Only the order of the files
needs a look of its own (`keys_buildWith`). `IsMadeOf` puts both together in terms of the list alone, and
a graph that is built in any way is made of its files.

A file is left out of its own imports by comparing paths. An import statement may leave out the
extension of the file or name the directory that it is the index of, and then the path it
denotes is another one. `ImportsItself` says that a file is imported by itself in such a
spelling; `mem_resolvedImports_self_iff` says that these are the files that are found among the
files they import.

## Main definitions

* `Graph.contentOf?`: What a list of files holds for a path.
* `Graph.IsMadeOf`: What a graph has of the files it is built from.
* `Graph.ImportsItself`: A file imports itself in a spelling other than its path.

## Theorems

* `lookup_buildWith`: The entries of a built graph.
* `keys_buildWith`: The files of a built graph, in their order.
* `isMadeOf_buildWith`: What a built graph has of its files.
* `contains_build_iff`: The files of a built graph are those with content.
* `mem_imports_build`: What a file imports.
* `mem_resolvedImports_self_iff`: When a file is among the files it imports.
-/

namespace Replatform

namespace Graph

/-- What a list of files holds for a path: the last content given for it that is not blank. -/
def contentOf? (files : List (String × String)) (path : String) : Option String :=
  ((files.filter fun f => Path.normalize f.1 = path ∧ ¬ Text.isBlankText f.2).getLast?).map Prod.snd

theorem lookup_set (path : String) (imports : List String) (edges : List (String × List String))
    (k : String) :
    List.lookup k (set path imports edges) =
      if k = path then some imports else List.lookup k edges := by
  induction edges with
  | nil =>
      rw [set, List.lookup_cons, List.lookup_nil]
      by_cases hk : k = path
      · rw [if_pos hk, hk, beq_self_eq_true]
      · rw [if_neg hk, beq_false_of_ne hk]
  | cons e es ih =>
      rw [set]
      by_cases he : e.1 = path
      · rw [if_pos he, List.lookup_cons, List.lookup_cons, he]
        by_cases hk : k = path
        · rw [if_pos hk, hk, beq_self_eq_true]
        · rw [if_neg hk, beq_false_of_ne hk]
      · rw [if_neg he, List.lookup_cons, List.lookup_cons, ih]
        by_cases hk : k = e.1
        · rw [hk, beq_self_eq_true]
          exact (if_neg he).symm
        · rw [beq_false_of_ne hk]

theorem contentOf?_concat (files : List (String × String)) (f : String × String) (path : String) :
    contentOf? (files ++ [f]) path =
      if Path.normalize f.1 = path ∧ ¬ Text.isBlankText f.2 then some f.2
      else contentOf? files path := by
  unfold contentOf?
  by_cases h : Path.normalize f.1 = path ∧ ¬ Text.isBlankText f.2
  · rw [if_pos h, List.filter_append, List.filter_cons, if_pos (decide_eq_true h), List.filter_nil,
      List.getLast?_concat, Option.map_some]
  · rw [if_neg h, List.filter_append, List.filter_cons, if_neg (by rwa [decide_eq_true_eq]),
      List.filter_nil, List.append_nil]

theorem exists_of_contentOf? {files : List (String × String)} {path text : String}
    (h : contentOf? files path = some text) : ∃ earlier spelling later,
      files = earlier ++ (spelling, text) :: later ∧ Path.normalize spelling = path ∧
        Text.isBlankText text = false ∧
        ∀ f ∈ later, Path.normalize f.1 = path → Text.isBlankText f.2 = true := by
  induction files using List.reverseRecOn with
  | nil => exact absurd h nofun
  | append_singleton files f ih =>
      rw [contentOf?_concat] at h
      by_cases hf : Path.normalize f.1 = path ∧ ¬ Text.isBlankText f.2
      · rw [if_pos hf, Option.some.injEq] at h
        subst h
        exact ⟨files, f.1, [], rfl, hf.1, Bool.eq_false_iff.mpr hf.2, List.forall_mem_nil _⟩
      · rw [if_neg hf] at h
        rcases ih h with ⟨earlier, spelling, later, rfl, hpath, htext, hlater⟩
        refine ⟨earlier, spelling, later ++ [f], List.append_assoc .., hpath, htext, ?_⟩
        rw [List.forall_mem_append]
        refine ⟨hlater, List.forall_mem_singleton.mpr fun hsame => ?_⟩
        exact Decidable.not_not.mp fun hblank => hf ⟨hsame, hblank⟩

theorem buildWith_concat (scanner : Scanner) (files : List (String × String))
    (f : String × String) :
    buildWith scanner (files ++ [f]) = add scanner (buildWith scanner files) f := by
  rw [buildWith, List.foldl_append, List.foldl_cons, List.foldl_nil, buildWith]

/-- A built graph has an entry for every path for which there is content, apart from the empty
    one, with the paths that this content imports. -/
theorem lookup_buildWith (scanner : Scanner) (files : List (String × String)) (path : String) :
    List.lookup path (buildWith scanner files).edges =
      if path = "" then none
      else (contentOf? files path).map fun text => targets path (scanner path text) := by
  induction files using List.reverseRecOn with
  | nil =>
      rw [buildWith, List.foldl_nil, List.lookup_nil, contentOf?, List.filter_nil,
        List.getLast?_nil, Option.map_none, Option.map_none, ite_self]
  | append_singleton files f ih =>
      rw [buildWith_concat, contentOf?_concat, add]
      by_cases hskip : Path.normalize f.1 = "" ∨ Text.isBlankText f.2
      · rw [if_pos hskip, ih]
        by_cases hpath : path = ""
        · rw [if_pos hpath, if_pos hpath]
        · -- What is left out is not content for this path either.
          have hnone : ¬ (Path.normalize f.1 = path ∧ ¬ Text.isBlankText f.2) := by
            rintro ⟨rfl, hblank⟩
            exact hskip.elim hpath hblank
          rw [if_neg hpath, if_neg hpath, if_neg hnone]
      · rw [if_neg hskip, lookup_set, ih]
        rw [not_or] at hskip
        by_cases hpath : path = Path.normalize f.1
        · have hsome : Path.normalize f.1 = path ∧ ¬ Text.isBlankText f.2 := ⟨hpath.symm, hskip.2⟩
          rw [if_pos hpath, if_neg (hpath ▸ hskip.1), if_pos hsome, Option.map_some, hpath]
        · have hnone : ¬ (Path.normalize f.1 = path ∧ ¬ Text.isBlankText f.2) :=
            fun h => hpath h.1.symm
          rw [if_neg hpath, if_neg hnone]

section Keys

/-- The paths, other than the empty one, for which some files have content. -/
def pathsWithContent (files : List (String × String)) : List String :=
  ((files.filter fun f => !Text.isBlankText f.2).map fun f => Path.normalize f.1).filter (· ≠ "")

theorem pathsWithContent_concat (files : List (String × String)) (f : String × String) :
    pathsWithContent (files ++ [f]) =
      if Path.normalize f.1 = "" ∨ Text.isBlankText f.2 then pathsWithContent files
      else pathsWithContent files ++ [Path.normalize f.1] := by
  simp only [pathsWithContent, List.filter_append, List.map_append]
  by_cases hblank : Text.isBlankText f.2
  · simp [hblank]
  · by_cases hpath : Path.normalize f.1 = "" <;> simp [hblank, hpath]

/-- A file that is there keeps its place, and a new one comes last. -/
theorem map_fst_set (path : String) (imports : List String) (edges : List (String × List String)) :
    (set path imports edges).map Prod.fst =
      if path ∈ edges.map Prod.fst then edges.map Prod.fst else edges.map Prod.fst ++ [path] := by
  induction edges with
  | nil => rfl
  | cons e es ih =>
      rw [set, List.map_cons]
      by_cases he : e.1 = path
      · rw [if_pos he, if_pos (List.mem_cons.mpr (Or.inl he.symm)), List.map_cons, he]
      · rw [if_neg he, List.map_cons, ih]
        by_cases hmem : path ∈ es.map Prod.fst
        · rw [if_pos hmem, if_pos (List.mem_cons_of_mem _ hmem)]
        · rw [if_neg hmem, if_neg fun h => (List.mem_cons.mp h).elim (Ne.symm he) hmem,
            List.cons_append]

/-- The files of a built graph are in the order in which content is first given for them. -/
theorem keys_buildWith (scanner : Scanner) (files : List (String × String)) :
    (buildWith scanner files).keys = (pathsWithContent files).eraseDups := by
  induction files using List.reverseRecOn with
  | nil => rfl
  | append_singleton files f ih =>
      rw [buildWith_concat, pathsWithContent_concat, add]
      by_cases hskip : Path.normalize f.1 = "" ∨ Text.isBlankText f.2
      · rw [if_pos hskip, if_pos hskip, ih]
      · have hkeys : (buildWith scanner files).edges.map Prod.fst =
            (pathsWithContent files).eraseDups := ih
        rw [if_neg hskip, if_neg hskip, eraseDups_concat, keys, map_fst_set]
        simp only [hkeys, List.mem_eraseDups]

/-- A graph is made of some files, where a way to find specifiers is given. -/
structure IsMadeOf (scanner : Scanner) (files : List (String × String)) (g : Graph) : Prop where
  /-- Its files are those with content, in the order in which this is first given. -/
  keys : FirstOccurrences (pathsWithContent files) g.keys
  /-- What a file imports is found in the last content given for it that is not blank, in whatever
      spelling of its path. -/
  imports : ∀ path ∈ g.keys, ∃ earlier spelling text later,
    files = earlier ++ (spelling, text) :: later ∧ Path.normalize spelling = path ∧
    Text.isBlankText text = false ∧
    (∀ f ∈ later, Path.normalize f.1 = path → Text.isBlankText f.2 = true) ∧
    FirstOccurrences ((((scanner path text).filter Path.isRelative).map (Path.resolve path)).filter
      fun target => target ≠ "" ∧ target ≠ path) (g.imports path)
  nodup : g.keys.Nodup ∧ ∀ path ∈ g.keys, (g.imports path).Nodup
  /-- What a file imports are other paths in their normal form. -/
  proper : ∀ path ∈ g.keys, ∀ target ∈ g.imports path, target ≠ "" ∧ target ≠ path ∧
    ∀ segment ∈ Path.segments target, segment ≠ "" ∧ segment ≠ "." ∧ segment ≠ ".."

/-- A file of a built graph imports what is found in the content for it. -/
theorem imports_of_mem_keys {scanner : Scanner} {files : List (String × String)} {path : String}
    (h : path ∈ (buildWith scanner files).keys) : ∃ text, contentOf? files path = some text ∧
      (buildWith scanner files).imports path = targets path (scanner path text) := by
  rcases List.mem_map.mp h with ⟨e, he, rfl⟩
  have hentry := List.lookup_isSome_iff.mpr ⟨e, he, beq_self_eq_true e.1⟩
  rw [lookup_buildWith] at hentry
  rw [imports, lookup_buildWith]
  by_cases hempty : e.1 = ""
  · rw [if_pos hempty] at hentry
    exact absurd hentry Bool.false_ne_true
  · rw [if_neg hempty, Option.isSome_map, Option.isSome_iff_exists] at hentry
    rcases hentry with ⟨text, htext⟩
    exact ⟨text, htext, by rw [if_neg hempty, htext, Option.map_some, Option.getD_some]⟩

/-- What is built from some files is made of them, whatever finds the specifiers. -/
theorem isMadeOf_buildWith (scanner : Scanner) (files : List (String × String)) :
    IsMadeOf scanner files (buildWith scanner files) := by
  have hkeys : FirstOccurrences (pathsWithContent files) (buildWith scanner files).keys :=
    keys_buildWith scanner files ▸ firstOccurrences_eraseDups _
  refine { keys := hkeys, imports := ?imports, nodup := ⟨hkeys.nodup, ?nodup⟩, proper := ?proper }
  case imports =>
    intro path hpath
    rcases imports_of_mem_keys hpath with ⟨text, htext, himports⟩
    rcases exists_of_contentOf? htext with ⟨earlier, spelling, later, hfiles, hspelling, hblank, hlater⟩
    refine ⟨earlier, spelling, text, later, hfiles, hspelling, hblank, hlater, ?_⟩
    rw [himports]
    exact firstOccurrences_eraseDups _
  case nodup =>
    intro path hpath
    rcases imports_of_mem_keys hpath with ⟨text, -, himports⟩
    rw [himports]
    exact nodup_eraseDups _
  case proper =>
    intro path hpath target htarget
    rcases imports_of_mem_keys hpath with ⟨text, -, himports⟩
    rw [himports, targets, List.mem_eraseDups, List.mem_filter, decide_eq_true_eq,
      List.mem_map] at htarget
    rcases htarget with ⟨⟨specifier, -, rfl⟩, hempty, hself⟩
    have hnormal : Path.IsNormal (Path.resolve path specifier) := by
      rw [Path.resolve_eq]
      exact Path.isNormal_ofSegments fun _ => Path.isName_of_mem_place
    refine ⟨hempty, hself, fun segment hsegment => ?_⟩
    exact (hnormal.isName_of_mem_segments hempty hsegment).1

end Keys

theorem contains_iff_lookup (g : Graph) (path : String) :
    g.contains path = true ↔ (List.lookup path g.edges).isSome = true := by
  rw [contains, List.lookup_isSome_iff, List.any_eq_true]
  exact exists_congr fun e => and_congr_right fun _ => by rw [beq_iff_eq, beq_iff_eq, eq_comm]

section Build

variable {files : List (String × String)} {path : String}

/-- The files of a built graph are those with content. -/
theorem contains_build_iff : (build files).contains path = true ↔
    path ≠ "" ∧ ∃ text, contentOf? files path = some text := by
  rw [contains_iff_lookup, build, lookup_buildWith]
  by_cases hpath : path = ""
  · rw [if_pos hpath, Option.isSome_none]
    exact iff_of_false Bool.false_ne_true fun h => h.1 hpath
  · rw [if_neg hpath, Option.isSome_map, Option.isSome_iff_exists]
    exact (and_iff_right hpath).symm

/-- What a file of a built graph imports. -/
theorem mem_imports_build {target : String} : target ∈ (build files).imports path ↔
    path ≠ "" ∧ target ≠ "" ∧ target ≠ path ∧ ∃ text, contentOf? files path = some text ∧
      ∃ specifier ∈ Imports.relative text, Path.resolve path specifier = target := by
  rw [imports, build, lookup_buildWith]
  by_cases hpath : path = ""
  · rw [if_pos hpath, Option.getD_none]
    exact iff_of_false List.not_mem_nil fun h => h.1 hpath
  · rw [if_neg hpath, and_iff_right hpath]
    cases contentOf? files path with
    | none =>
        simp only [Option.map_none, Option.getD_none, List.not_mem_nil, reduceCtorEq, false_and,
          exists_false, and_false]
    | some text =>
        rw [Option.map_some, Option.getD_some, targets, List.mem_eraseDups, List.mem_filter,
          decide_eq_true_eq, List.mem_map, and_comm, and_assoc]
        simp only [Option.some.injEq, exists_eq_left', Imports.relative]

end Build

/-- A file imports itself in a spelling other than its path. -/
def ImportsItself (files : List (String × String)) (path : String) : Prop :=
  ∃ text, contentOf? files path = some text ∧ ∃ specifier ∈ Imports.relative text,
    Path.resolve path specifier ≠ path ∧
      (build files).resolve? (Path.resolve path specifier) = some path

/-- A file is among the files it imports if it imports itself in another spelling. -/
theorem mem_resolvedImports_self_iff {files : List (String × String)} {path : String} :
    path ∈ (build files).resolvedImports path ↔ ImportsItself files path := by
  rw [mem_resolvedImports]
  constructor
  · rintro ⟨target, htarget, hcanonical⟩
    rcases mem_imports_build.mp htarget with ⟨-, -, hne, text, htext, specifier, hspecifier, rfl⟩
    refine ⟨text, htext, specifier, hspecifier, hne, ?_⟩
    cases h : (build files).resolve? (Path.resolve path specifier) with
    | none => exact absurd (canonical_of_resolve?_eq_none h ▸ hcanonical) hne
    | some file => rw [← hcanonical, canonical_of_resolve? h]
  · rintro ⟨text, htext, specifier, hspecifier, hne, hresolve⟩
    refine ⟨Path.resolve path specifier, mem_imports_build.mpr ⟨?_, ?_, hne, text, htext,
      specifier, hspecifier, rfl⟩, canonical_of_resolve? hresolve⟩
    · exact (isFile_iff.mp (isFile_of_resolve? hresolve)).1
    · exact (of_firstKnown?_eq_some hresolve).1

end Graph

end Replatform
