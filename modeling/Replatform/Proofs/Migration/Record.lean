import Replatform.Proofs.Migration.Coherence
import Replatform.Proofs.Migration.Marks
import Replatform.Proofs.Migration.Outcome

/-!
# What Is Recorded of a Generation

The outcome of a generation is kept in the run, and the report reads it from there. It divides the
targets into those that were generated and those that failed, and when the generation ends the files
have the same statuses in the tree.

What comes after the generation in a migration changes neither. A scaffold that is made has no outcome,
and a generation that comes to nothing leaves the one that there was.

## Main definitions

* `GenerationOutcome.recorded`: The status of a file as an outcome has it.
* `Run.Recorded`: The outcome of a run is about its targets and says which status each of them has.

## Theorems

* `Generation.Complete.perm`: A complete outcome has every target once.
* `Orchestrator.ends_recorded_generate`: A generation records what became of the files.
* `Orchestrator.ends_recorded`: The outcome agrees with the tree at the end of a migration.
-/

namespace Replatform

variable {σ : Type}

open WorkOn

/-- The status of a file as an outcome has it. -/
def GenerationOutcome.recorded (o : GenerationOutcome) (path : String) : FileStatus :=
  if path ∈ o.generated then .done else .error

namespace GenerationOutcome

variable {out : GenerationOutcome} {path : String}

theorem recorded_eq_done : out.recorded path = .done ↔ path ∈ out.generated := by
  rw [recorded]
  by_cases h : path ∈ out.generated
  · rw [if_pos h]
    exact ⟨fun _ => h, fun _ => rfl⟩
  · rw [if_neg h]
    exact ⟨nofun, fun h' => absurd h' h⟩

theorem recorded_eq_error : out.recorded path = .error ↔ path ∉ out.generated := by
  rw [recorded]
  by_cases h : path ∈ out.generated
  · rw [if_pos h]
    exact ⟨nofun, fun h' => absurd h h'⟩
  · rw [if_neg h]
    exact ⟨fun _ => h, fun _ => rfl⟩

end GenerationOutcome

/-- The outcome of the generation, if there is one, is about the targets, and every file has the status
    that is recorded for it. -/
def Run.Recorded (r : Run) : Prop :=
  ∀ out, r.generation = some out → (out.generated ++ out.failed).Perm r.targets ∧
    ∀ file ∈ r.tree.files, file.status = out.recorded file.path

theorem Run.recorded_of_none {r : Run} (h : r.generation = none) : r.Recorded :=
  fun _ hout => nomatch h.symm.trans hout

namespace Generation

variable {order : List String} {out : GenerationOutcome} {tree tree' : Tree}

/-- A complete outcome has every target once. -/
theorem Complete.perm (h : Complete order out tree tree') (hdistinct : order.Nodup) :
    (out.generated ++ out.failed).Perm order := by
  -- No target is in both lists, and none is missing.
  have hnodup : (out.generated ++ out.failed).Nodup := by
    refine List.nodup_append.mpr ⟨hdistinct.sublist h.generated, hdistinct.sublist h.failed, ?_⟩
    rintro t ht _ ht' rfl
    exact h.disjoint t ht ht'
  refine (List.perm_ext_iff_of_nodup hnodup hdistinct).mpr fun t => ?_
  rw [List.mem_append]
  exact ⟨fun ht => ht.elim (h.generated.subset ·) (h.failed.subset ·), h.covered t⟩

/-- The files of the tree have the statuses that are recorded. -/
theorem Complete.status_eq (h : Complete order out tree tree') (hrooted : Tree.Rooted "" tree')
    (hfiles : ∀ t ∈ tree'.filePaths, t ∈ order) :
    ∀ file ∈ tree'.files, file.status = out.recorded file.path := by
  intro file hfile
  have hfind := Tree.find?_of_mem_files hrooted hfile
  rw [GenerationOutcome.recorded]
  by_cases hgenerated : file.path ∈ out.generated
  · rw [if_pos hgenerated]
    rcases h.done _ hgenerated with ⟨node, content, hnode, hdone, -⟩
    rw [hfind, Option.some.injEq] at hnode
    exact hnode ▸ hdone
  · rw [if_neg hgenerated]
    have hfailed := (h.covered _ (hfiles _ (List.mem_map_of_mem hfile))).resolve_left hgenerated
    rcases h.error _ hfailed with ⟨node, hnode, herror⟩
    rw [hfind, Option.some.injEq] at hnode
    exact hnode ▸ herror

end Generation

/-- A verification keeps what is recorded. -/
theorem Run.Recorded.unmarked {w w' : World σ} {r r' : Run} (h : r.Recorded)
    (hrooted : Tree.Rooted "" r.tree) (hmirrors : Mirrors (w, r) (w', r'))
    (hunmarked : Unmarked (w, r) (w', r')) : r'.Recorded := by
  rcases hmirrors with ⟨htargets, told, hevents, htree⟩
  rcases hunmarked with ⟨⟨told', hevents', hnone⟩, hgeneration⟩
  have hsame : told' = told := List.append_cancel_left (hevents'.symm.trans hevents)
  intro out hout
  rcases h out (hgeneration.symm.trans hout) with ⟨hperm, hstatus⟩
  refine ⟨(show r'.targets = r.targets from htargets) ▸ hperm, ?_⟩
  have hfiles := Tree.status_replay hrooted hstatus told
  rw [← hsame, hnone, hsame, ← show r'.tree = r.tree.replay told from htree] at hfiles
  exact hfiles

namespace Orchestrator

variable (o : Orchestrator σ) (signal : SignalId)

/-- A generation records what became of the files. One that comes to nothing leaves what was recorded
    before. -/
theorem ends_recorded_generate (w : World σ) {r : Run} (h : r.InOrder) :
    Ends (o.generate signal) (w, r) (fun _ st => st.2.Recorded)
      (fun stop st => stop ≠ .dropped → st.2.generation = r.generation) := by
  rw [generate, ends_bind, ends_held]
  by_cases hready : (!r.isScaffolded) = true
  · rw [if_pos hready]
    exact fun _ => rfl
  · rw [if_neg hready, ends_bind, ends_ofWork]
    change Ends _ (w, r) _ _
    rw [ends_bind, ends_change, ends_bind, plan, ends_bind, ends_change, ends_bind, ends_held, ends_log,
      ends_bind, ends_held, ends_bind, onTree, ends_taking]
    generalize World.tell _ _ = w₁
    -- The order of the plan is one of the targets, which are the files of the tree.
    have hcleared := h.clearFiles
    have horder := o.order_withPlan_perm (r := r.clearFiles)
      (hcleared.tree.files ▸ Tree.filePaths_nodup hcleared.tree.rooted)
    have hrooted : Tree.Rooted "" (o.withPlan r.clearFiles).tree := hcleared.tree.rooted
    have hpaths : (o.withPlan r.clearFiles).tree.filePaths = r.targets := hcleared.tree.files
    have htargets : ∀ t ∈ (o.withPlan r.clearFiles).schedule.order,
        t ∈ (o.withPlan r.clearFiles).tree.filePaths := fun t ht =>
      hpaths ▸ horder.mem_iff.mp ht
    have hdistinct : (o.withPlan r.clearFiles).schedule.order.Nodup :=
      horder.nodup_iff.mpr (hpaths ▸ Tree.filePaths_nodup hrooted)
    refine (Generation.ends_generateAll o.service o.config (o.withPlan r.clearFiles).inputs signal w₁
      (o.withPlan r.clearFiles).tree).mono (fun out st hst => ?_) (fun stop st hst => ?_)
    · rcases st with ⟨w₂, tree'⟩
      -- Every target was settled, and no file has come or gone.
      rcases hst with ⟨hup, results, hsettles⟩
      have hcomplete := hsettles.complete hup.total hrooted hdistinct htargets
      have hrefilled := hcomplete.others
      have hfiles : ∀ t ∈ tree'.filePaths, t ∈ (o.withPlan r.clearFiles).schedule.order := by
        intro t ht
        rw [hrefilled.filePaths_eq, hpaths] at ht
        exact horder.mem_iff.mpr ht
      change Run.Recorded _
      intro out' hout
      have hsame : out' = out := (Option.some.inj hout).symm
      subst hsame
      refine ⟨(hcomplete.perm hdistinct).trans horder, ?_⟩
      exact hcomplete.status_eq (hrefilled.rooted hrooted) hfiles
    · cases stop with
      | failed e => exact fun _ => rfl
      | dropped => exact fun hnot => absurd rfl hnot

/-- A scaffold has no outcome, and if none is made the run goes on to have none. -/
theorem upholds_none_scaffold :
    Upholds (fun r => r.generation = none) (o.scaffold signal) := by
  have hadopt : ∀ sources request started,
      Upholds (fun r => r.generation = none) (o.adopt sources request signal started) := by
    intro sources request started
    refine Sustains.bind (sustains_change fun _ h => by exact h) fun _ => ?_
    refine (upholds_ofWork _).bind fun response => ?_
    generalize Answer.plan response.textOrEmpty = planned
    refine sustains_ite ((sustains_log _ _ _).bind fun _ => upholds_fail _) ?_
    refine Sustains.bind (sustains_change fun _ _ => by rfl) fun _ => ?_
    refine sustains_held.bind fun _ => (sustains_log _ _ _).bind fun _ => ?_
    exact (upholds_ofWork _).bind fun _ => sustains_change fun _ h => by exact h
  refine (upholds_ofWork _).bind fun _ => sustains_held.bind fun _ => ?_
  refine (sustains_log _ _ _).bind fun _ => (upholds_ofWork _).bind fun sources => ?_
  refine Sustains.bind (sustains_change fun _ h => by exact h) fun _ => ?_
  refine (sustains_log _ _ _).bind fun _ => ?_
  exact sustains_ite_bind (sustains_log _ _ _) fun _ => hadopt sources _ _

/-- At the end of a migration the outcome agrees with the tree, if there is one. -/
theorem ends_recorded (w : World σ) {r : Run} (h : r.InOrder) (hnone : r.generation = none) :
    Ends (do
      o.scaffold signal
      let _ ← o.generate signal
      o.verifyIfAny signal) (w, r) (fun _ st => st.2.Recorded)
      (fun stop st => stop ≠ .dropped → st.2.Recorded) := by
  have hscaffold := (Run.lasting_inOrder.upholds_scaffold o signal w r h).and
    (o.upholds_none_scaffold signal w r hnone)
  rw [ends_bind]
  refine hscaffold.mono (fun _ st hst => ?_) (fun _ st hst hnot => Run.recorded_of_none (hst.2 hnot))
  rcases st with ⟨w₁, r₁⟩
  have hgenerate := (o.ends_recorded_generate signal w₁ hst.1).and
    (Run.lasting_inOrder.upholds_generate o signal w₁ r₁ hst.1)
  rw [ends_bind]
  refine hgenerate.mono (fun _ st hst' => ?_) (fun _ st hst' hnot => ?_)
  · rcases st with ⟨w₂, r₂⟩
    -- A verification marks no file and leaves the outcome alone.
    have hverify := (o.moves_verifyIfAny signal mirrors_corrected (w₂, r₂)).and
      (o.moves_verifyIfAny signal unmarked_corrected (w₂, r₂))
    have hrooted := hst'.2.tree.rooted
    exact hverify.mono (fun _ _ h => hst'.1.unmarked hrooted h.1 h.2)
      (fun _ _ h hnot => hst'.1.unmarked hrooted (h.1 hnot) (h.2 hnot))
  · exact Run.recorded_of_none ((hst'.1 hnot).trans hst.2)

end Orchestrator

end Replatform
