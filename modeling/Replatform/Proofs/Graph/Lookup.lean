import Mathlib.Data.List.Basic
import Replatform.Graph

/-!
# What a Path Stands For

A path stands for the first of its candidates that is a file. The candidates are looked at
here, and nowhere else: what the rest of the theory needs is which paths can be found at all,
and that finding is done once. The file that a path stands for stands for itself
(`isFile_of_resolve?`), so a path and the file it stands for are the same to every question
that is asked through `resolve?`.

The empty path is the exception. It stands for nothing, whatever the files are, so that a file
that imports the root directory imports no file by it.

## Main definitions

* `Graph.IsFile`: The path stands for itself.

## Theorems

* `mem_candidates`: What a path may stand for.
* `firstKnown?_eq_none_iff`: When a path stands for nothing.
* `isFile_iff`: Files are the paths with an entry, apart from the empty one.
* `isFile_of_resolve?`: What is found is a file.
* `resolve?_canonical`: A path stands for what its file stands for.
* `mem_resolvedImports`: What a file imports.
-/

namespace Replatform

namespace Graph

theorem mem_candidates {target path : String} : path ∈ candidates target ↔
    path = target ∨ (∃ e ∈ extensions, path = target ++ "." ++ e) ∨
      ∃ e ∈ extensions, path = target ++ "/index." ++ e := by
  simp only [candidates, List.mem_append, List.mem_cons, List.mem_map, or_assoc, eq_comm]

/-- A path stands for nothing if it is empty or no candidate is known. -/
theorem firstKnown?_eq_none_iff {known : String → Bool} {target : String} :
    firstKnown? known target = none ↔
      target = "" ∨ ∀ path ∈ candidates target, known path = false := by
  unfold firstKnown?
  by_cases h : target = ""
  · rw [if_pos h]
    exact iff_of_true rfl (Or.inl h)
  · rw [if_neg h, List.find?_eq_none, or_iff_right h]
    simp only [Bool.not_eq_true]

/-- What a path stands for is a known candidate of it. -/
theorem of_firstKnown?_eq_some {known : String → Bool} {target path : String}
    (h : firstKnown? known target = some path) :
    target ≠ "" ∧ path ∈ candidates target ∧ known path = true := by
  unfold firstKnown? at h
  by_cases hempty : target = ""
  · rw [if_pos hempty] at h
    exact absurd h (by simp only [reduceCtorEq, not_false_eq_true])
  · rw [if_neg hempty] at h
    exact ⟨hempty, List.mem_of_find?_eq_some h, List.find?_some h⟩

theorem ne_empty_of_mem_candidates {target path : String} (htarget : target ≠ "")
    (h : path ∈ candidates target) : path ≠ "" := by
  rcases mem_candidates.mp h with rfl | ⟨e, -, rfl⟩ | ⟨e, -, rfl⟩
  · exact htarget
  all_goals
    intro hempty
    have hlist := congrArg String.toList hempty
    simp only [String.toList_append, String.toList_empty, List.append_eq_nil_iff] at hlist
    exact htarget (String.toList_eq_nil_iff.mp hlist.1.1)

variable (g : Graph)

/-- The path is that of a file: it stands for itself. -/
def IsFile (path : String) : Prop :=
  g.resolve? path = some path

instance : DecidablePred g.IsFile := fun path =>
  inferInstanceAs (Decidable (g.resolve? path = some path))

variable {g}

/-- Files are the paths with an entry, apart from the empty one. -/
theorem isFile_iff {path : String} : g.IsFile path ↔ path ≠ "" ∧ g.contains path = true := by
  constructor
  · intro h
    have hfound := of_firstKnown?_eq_some h
    exact ⟨hfound.1, hfound.2.2⟩
  · rintro ⟨hne, hcontains⟩
    -- A path is the first of its own candidates.
    rw [IsFile, resolve?, firstKnown?, if_neg hne]
    exact List.find?_cons_of_pos hcontains

theorem IsFile.mem_keys {path : String} (h : g.IsFile path) : path ∈ g.keys := by
  have hcontains := (isFile_iff.mp h).2
  simp only [contains, List.any_eq_true, beq_iff_eq] at hcontains
  exact List.mem_map.mpr hcontains

/-- What a path stands for is a file. -/
theorem isFile_of_resolve? {target path : String} (h : g.resolve? target = some path) :
    g.IsFile path := by
  rcases of_firstKnown?_eq_some h with ⟨hne, hmem, hknown⟩
  exact isFile_iff.mpr ⟨ne_empty_of_mem_candidates hne hmem, hknown⟩

theorem canonical_of_resolve? {target path : String} (h : g.resolve? target = some path) :
    g.canonical target = path := by
  rw [canonical, h, Option.getD_some]

theorem canonical_of_resolve?_eq_none {target : String} (h : g.resolve? target = none) :
    g.canonical target = target := by
  rw [canonical, h, Option.getD_none]

/-- A path stands for the same file as the path that takes its place. -/
theorem resolve?_canonical (target : String) :
    g.resolve? (g.canonical target) = g.resolve? target := by
  cases h : g.resolve? target with
  | none => rw [canonical_of_resolve?_eq_none h, h]
  | some path =>
      rw [canonical_of_resolve? h]
      exact isFile_of_resolve? h

/-- The path that takes the place of another one keeps its own. -/
theorem canonical_canonical (target : String) :
    g.canonical (g.canonical target) = g.canonical target := by
  cases h : g.resolve? target with
  | none => rw [canonical_of_resolve?_eq_none h, canonical_of_resolve?_eq_none h]
  | some path =>
      rw [canonical_of_resolve? h]
      exact canonical_of_resolve? (isFile_of_resolve? h)

theorem isFile_canonical_iff (target : String) :
    g.IsFile (g.canonical target) ↔ (g.resolve? target).isSome = true := by
  rw [IsFile, resolve?_canonical]
  cases h : g.resolve? target with
  | none => simp only [reduceCtorEq, Option.isSome_none, Bool.false_eq_true]
  | some path => simp only [canonical_of_resolve? h, Option.isSome_some]

theorem mem_resolvedImports {file path : String} :
    path ∈ g.resolvedImports file ↔ ∃ target ∈ g.imports file, g.canonical target = path := by
  rw [resolvedImports, List.mem_eraseDups, List.mem_map]

end Graph

end Replatform
