import Replatform.Proofs.Migration.Settling
import Replatform.Proofs.Work.Calls

/-!
# What Is Left of a Generation

What somebody sees who looks at the tree, the outcome and the progress when a generation has
ended, and knows nothing of the results that its files came to.

A generation that ends with an outcome is `Complete`: the outcome divides the targets into two
lists, each in the order of the schedule, and the nodes of the tree say the same. A generation
that fails was cancelled at some target, and is `Cut` there: the targets before are settled, the
one at which it was cancelled is not in progress, and those behind are untouched. Whatever is no
target is the same in both cases.

The tree has to be rooted and to have a file for every target, as every tree has that is built
from the paths of the targets, and no two entries of the schedule may be the same, since a file
that is generated twice could fail after it was done.

## Main definitions

* `Generation.Complete`, `Generation.Cut`: What is left of a generation.

## Theorems

* `Settles.complete`, `Broken.cut`: What can be seen of the results.
* `complete_or_cut`: What is left of a generation, whichever way it ends.
-/

namespace Replatform

variable {σ : Type}

namespace Generation

open Tree (find?)

/-- The outcome divides the targets into those that were generated and those that failed, and so does
    the tree. -/
structure Complete (order : List String) (o : GenerationOutcome) (tree tree' : Tree) : Prop where
  generated : o.generated.Sublist order
  failed : o.failed.Sublist order
  disjoint : ∀ t ∈ o.generated, t ∉ o.failed
  covered : ∀ t ∈ order, t ∈ o.generated ∨ t ∈ o.failed
  done : ∀ t ∈ o.generated, ∃ node content, find? t tree' = some node ∧ node.status = .done ∧
    node.content = some content
  error : ∀ t ∈ o.failed, ∃ node, find? t tree' = some node ∧ node.status = .error
  others : Tree.RefilledAt order tree tree'
  counted : o.progress.current = order.length ∧ o.progress.total = order.length

/-- The targets before one of them are settled, that one is not in progress, and those behind it are
    untouched. -/
structure Cut (before : List String) (target : String) (later : List String) (tree tree' : Tree) :
    Prop where
  settled : ∀ t ∈ before, ∃ node, find? t tree' = some node ∧
    (node.status = .done ∨ node.status = .error)
  left : ∃ node, find? target tree' = some node ∧ node.status ≠ .inProgress
  untouched : ∀ t ∈ later, find? t tree' = find? t tree
  others : Tree.RefilledAt (before ++ [target]) tree tree'

section Results

variable {results : List (String × Option String)}

theorem mem_generatedOf (t : String) :
    t ∈ generatedOf results ↔ ∃ content, (t, some content) ∈ results := by
  rw [generatedOf, List.mem_map]
  constructor
  · rintro ⟨⟨path, result⟩, hmem, rfl⟩
    rcases List.mem_filter.mp hmem with ⟨hmem, hsome⟩
    rcases Option.isSome_iff_exists.mp hsome with ⟨content, hcontent⟩
    simp only [] at hcontent
    exact ⟨content, hcontent ▸ hmem⟩
  · rintro ⟨content, hmem⟩
    exact ⟨_, List.mem_filter.mpr ⟨hmem, rfl⟩, rfl⟩

theorem mem_failedOf (t : String) : t ∈ failedOf results ↔ (t, none) ∈ results := by
  rw [failedOf, List.mem_map]
  constructor
  · rintro ⟨⟨path, result⟩, hmem, rfl⟩
    rcases List.mem_filter.mp hmem with ⟨hmem, hnone⟩
    have hresult : result = none := Option.isNone_iff_eq_none.mp hnone
    exact hresult ▸ hmem
  · intro hmem
    exact ⟨_, List.mem_filter.mpr ⟨hmem, rfl⟩, rfl⟩

variable {base : String} {tree tree' : Tree}

/-- Results for all targets are a complete outcome. -/
theorem Settles.complete {order : List String} {o : GenerationOutcome}
    (h : Settles order results { progress := .start order.length } o tree tree')
    (htotal : o.progress.total = order.length) (hrooted : Tree.Rooted base tree)
    (hdistinct : order.Nodup) (htargets : ∀ t ∈ order, t ∈ tree.filePaths) :
    Complete order o tree tree' := by
  have hgenerated : o.generated = generatedOf results := h.generated.trans (List.nil_append _)
  have hfailed : o.failed = failedOf results := h.failed.trans (List.nil_append _)
  have hfiles : ∀ r ∈ results, r.1 ∈ tree.filePaths := fun r hr =>
    htargets r.1 (h.paths ▸ List.mem_map.mpr ⟨r, hr, rfl⟩)
  have hnodup : (results.map Prod.fst).Nodup := by
    rw [h.paths]
    exact hdistinct
  refine ⟨?_, ?_, fun t ht ht' => ?_, fun t ht => ?_, fun t ht => ?_, fun t ht => ?_, ?_, ?_⟩
  · rw [hgenerated, ← h.paths]
    exact List.filter_sublist.map Prod.fst
  · rw [hfailed, ← h.paths]
    exact List.filter_sublist.map Prod.fst
  · -- The node under a path shows one result, so that there are no two of them.
    rw [hgenerated, mem_generatedOf] at ht
    rw [hfailed, mem_failedOf] at ht'
    rcases ht with ⟨content, ht⟩
    rcases exists_settled hrooted hfiles hnodup ht with ⟨file, hfind⟩
    rcases exists_settled hrooted hfiles hnodup ht' with ⟨file', hfind'⟩
    have hsame := congrArg (Option.map FileNode.status) (hfind.symm.trans hfind')
    simp only [Option.map_some, fill, Option.some.injEq, reduceCtorEq] at hsame
  · rw [hgenerated, hfailed, mem_generatedOf, mem_failedOf]
    rw [← h.paths, List.mem_map] at ht
    rcases ht with ⟨⟨path, _ | content⟩, hmem, rfl⟩
    · exact Or.inr hmem
    · exact Or.inl ⟨content, hmem⟩
  · rw [hgenerated, mem_generatedOf] at ht
    rcases ht with ⟨content, hmem⟩
    rcases exists_settled hrooted hfiles hnodup hmem with ⟨file, hfind⟩
    rw [h.settled]
    exact ⟨_, content, hfind, rfl, rfl⟩
  · rw [hfailed, mem_failedOf] at ht
    rcases exists_settled hrooted hfiles hnodup ht with ⟨file, hfind⟩
    rw [h.settled]
    exact ⟨_, hfind, rfl⟩
  · rw [h.settled, ← h.paths]
    exact refilledAt_settle hrooted hfiles
  · refine ⟨?_, htotal⟩
    rw [h.current, Progress.start_current, Nat.zero_add]

/-- A generation that was cancelled is cut at some target. -/
theorem Broken.cut {order : List String} {stop : Stop MigrationError}
    (h : Broken order stop tree tree') (hstop : stop ≠ .dropped) (hrooted : Tree.Rooted base tree)
    (hdistinct : order.Nodup) (htargets : ∀ t ∈ order, t ∈ tree.filePaths)
    (hidle : ∀ file ∈ tree.files, file.status ≠ .inProgress) :
    stop = .failed .cancelled ∧ ∃ before target later, order = before ++ target :: later ∧
      Cut before target later tree tree' := by
  rcases h with ⟨results, target, later, rfl, h⟩
  rcases h.resolve_right fun hdropped => hstop hdropped.1 with ⟨hcancelled, htree⟩
  refine ⟨hcancelled, results.map Prod.fst, target, later, rfl, ?_⟩
  rcases List.nodup_append.mp hdistinct with ⟨hnodup, hrest, hdisjoint⟩
  have hfiles : ∀ r ∈ results, r.1 ∈ tree.filePaths := fun r hr =>
    htargets r.1 (List.mem_append_left _ (List.mem_map.mpr ⟨r, hr, rfl⟩))
  have htarget : target ∈ tree.filePaths :=
    htargets target (List.mem_append_right _ List.mem_cons_self)
  have hnot : target ∉ results.map Prod.fst := fun hin =>
    hdisjoint target hin target List.mem_cons_self rfl
  have hsettled := refilledAt_settle hrooted hfiles
  have hrooted' := hsettled.rooted hrooted
  have htarget' : target ∈ (settle results tree).filePaths := hsettled.filePaths_eq ▸ htarget
  rcases Tree.exists_find?_of_mem_filePaths hrooted htarget with ⟨file, hfile, hfind, -⟩
  have hfind' : find? target (settle results tree) = some file := by
    rw [hsettled.find?_eq hrooted htarget hnot, hfind]
  -- The target at which it was cancelled is as it was, or was set back to pending.
  have hlast : Tree.RefilledAt [target] (settle results tree) tree' ∧
      ∃ node, find? target tree' = some node ∧ node.status ≠ .inProgress := by
    rcases htree with htree | htree
    · rw [htree]
      exact ⟨.refl _ _, file, hfind', hidle file hfile⟩
    · rw [htree]
      refine ⟨Tree.refilledAt_modify (refills_status .pending) hrooted' htarget', ?_⟩
      rw [Tree.setStatus, Tree.find?_modify (refills_status .pending), hfind', Option.map_some]
      exact ⟨_, rfl, by simp only [ne_eq, reduceCtorEq, not_false_eq_true]⟩
  have hothers : Tree.RefilledAt (results.map Prod.fst ++ [target]) tree tree' := by
    refine (hsettled.mono fun t ht => ?_).trans (hlast.1.mono fun t ht => ?_)
    · exact List.mem_append_left _ ht
    · exact List.mem_append_right _ ht
  refine ⟨fun t ht => ?_, hlast.2, fun t ht => ?_, hothers⟩
  · rcases List.mem_map.mp ht with ⟨⟨path, result⟩, hmem, rfl⟩
    have hne : path ∉ [target] := fun hin => hnot (List.mem_singleton.mp hin ▸ ht)
    rcases exists_settled hrooted hfiles hnodup hmem with ⟨old, hold⟩
    refine ⟨fill result old, ?_, ?_⟩
    · rw [hlast.1.find?_eq hrooted' (hsettled.filePaths_eq ▸ hfiles _ hmem) hne]
      exact hold
    · cases result with
      | none => exact Or.inr rfl
      | some content => exact Or.inl rfl
  · have hin : t ∈ tree.filePaths :=
      htargets t (List.mem_append_right _ (List.mem_cons_of_mem target ht))
    refine hothers.find?_eq hrooted hin fun hmem => ?_
    rcases List.mem_append.mp hmem with hmem | hmem
    · exact hdisjoint t hmem t (List.mem_cons_of_mem target ht) rfl
    · rw [List.mem_singleton.mp hmem] at ht
      exact (List.nodup_cons.mp hrest).1 ht

end Results

/-- A generation that ends with an outcome has generated or failed every target, one that fails was
    cancelled and is cut at a target, and what is told of the progress only goes up. -/
theorem complete_or_cut (s : Service σ) (c : Config) (inputs : Inputs) (signal : SignalId)
    (w : World σ) {tree : Tree} (hrooted : Tree.Rooted "" tree)
    (hdistinct : inputs.schedule.order.Nodup)
    (htargets : ∀ t ∈ inputs.schedule.order, t ∈ tree.filePaths)
    (hidle : ∀ file ∈ tree.files, file.status ≠ .inProgress) :
    Ends (generateAll s c inputs signal) (w, tree)
      (fun o st => Complete inputs.schedule.order o tree st.2 ∧
        w.Climbs inputs.schedule.order.length st.1)
      (fun stop st =>
        (stop ≠ .dropped → stop = .failed .cancelled ∧ ∃ before target later,
          inputs.schedule.order = before ++ target :: later ∧ Cut before target later tree st.2) ∧
        w.Climbs inputs.schedule.order.length st.1) := by
  refine (ends_generateAll s c inputs signal w tree).mono (fun o st hst => ?_) (fun stop st hst => ?_)
  · rcases hst with ⟨hup, results, hresults⟩
    have htotal : o.progress.total = inputs.schedule.order.length := hup.total
    have hcurrent : o.progress.current = inputs.schedule.order.length := by
      rw [hresults.current, Progress.start_current, Nat.zero_add]
    exact ⟨hresults.complete htotal hrooted hdistinct htargets, hup.climbs (by omega)⟩
  · rcases hst with ⟨hbroken, q, hup, hq⟩
    exact ⟨fun hstop => hbroken.cut hstop hrooted hdistinct htargets hidle, hup.climbs hq⟩

/-- What three files are generated from if nothing is known of the legacy project. -/
def threeFiles : Inputs where
  analysis := {}
  sources := ∅
  graph := .build []
  matched := ∅
  schedule := { order := ["a.ts", "b.ts", "c.ts"] }

-- The worlds are irreducible so that nothing is run while the statements about them are read.

/-- Of three files the second one fails. -/
@[irreducible] def failing : World (List (Reply ServiceError Response)) :=
  { state := [⟨[], .ok (.ofText "1")⟩, ⟨[], .error (.other "no")⟩, ⟨[], .ok (.ofText "3")⟩] }

/-- Of three files the second one is cancelled. -/
@[irreducible] def cancelling : World (List (Reply ServiceError Response)) :=
  { state := [⟨[], .ok (.ofText "1")⟩, ⟨[.cancel 0, .wait 1], .ok (.ofText "2")⟩] }

/-- A generation of which one file fails is complete, and one that is cancelled is cut. -/
theorem complete_or_cut_three :
    Ends (generateAll .inStore {} threeFiles 0) (failing, Tree.build ["a.ts", "b.ts", "c.ts"])
        (fun o st => Complete threeFiles.schedule.order o (Tree.build ["a.ts", "b.ts", "c.ts"]) st.2 ∧
          o.generated = ["a.ts", "c.ts"])
        (fun _ _ => False) ∧
      Ends (generateAll .inStore {} threeFiles 0) (cancelling, Tree.build ["a.ts", "b.ts", "c.ts"])
        (fun _ _ => False)
        (fun stop st => stop = .failed .cancelled ∧ ∃ before target later,
          threeFiles.schedule.order = before ++ target :: later ∧
          Cut before target later (Tree.build ["a.ts", "b.ts", "c.ts"]) st.2) := by
  have hrooted := Tree.rooted_build ["a.ts", "b.ts", "c.ts"]
  have hdistinct : threeFiles.schedule.order.Nodup := by decide
  have htargets : ∀ t ∈ threeFiles.schedule.order,
      t ∈ (Tree.build ["a.ts", "b.ts", "c.ts"]).filePaths := by decide +kernel
  have hidle : ∀ file ∈ (Tree.build ["a.ts", "b.ts", "c.ts"]).files,
      file.status ≠ .inProgress := by decide +kernel
  constructor
  · have hrun : Ends (generateAll .inStore {} threeFiles 0)
        (failing, Tree.build ["a.ts", "b.ts", "c.ts"])
        (fun o _ => o.generated = ["a.ts", "c.ts"]) (fun _ _ => False) := by decide +kernel
    have hends := complete_or_cut .inStore {} threeFiles 0 failing hrooted hdistinct htargets hidle
    refine (hends.and hrun).mono (fun o st h => ?_) (fun stop st h => ?_)
    · exact ⟨h.1.1, h.2⟩
    · exact h.2
  · have hrun : Ends (generateAll .inStore {} threeFiles 0)
        (cancelling, Tree.build ["a.ts", "b.ts", "c.ts"])
        (fun _ _ => False) (fun stop _ => stop ≠ .dropped) := by decide +kernel
    have hends := complete_or_cut .inStore {} threeFiles 0 cancelling hrooted hdistinct htargets hidle
    refine (hends.and hrun).mono (fun o st h => ?_) (fun stop st h => ?_)
    · exact h.2
    · exact h.1.1 h.2

end Generation

end Replatform
