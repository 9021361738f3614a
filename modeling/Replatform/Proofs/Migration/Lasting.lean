import Replatform.Proofs.Migration.History
import Replatform.Proofs.Migration.Settling

/-!
# What Lasts Through the Phases

A phase changes a run in a few ways only: it takes up a scaffold or a plan, clears the files,
settles them one after another, takes a file back, puts a correction in its place, and changes
parts that have nothing to do with the project. What survives each of these changes survives
every phase, in whatever way the phase ends, unless it is dropped and the tree is lost.

`Run.Lasting` lists the changes, so that a property of runs is looked at once for each of them and
never for each phase.

## Main definitions

* `Run.Lasting`: A property of runs that survives every change a phase makes.

## Theorems

* `Run.Lasting.upholds_onTree`: A task on the tree, in terms of the run that the tree is put back in.
* `PhaseCall.upholds_task`: What lasts is upheld by every phase.
-/

namespace Replatform

variable {σ : Type} {P : Run → Prop}

/-- A property of runs that survives every change a phase makes. -/
structure Run.Lasting (P : Run → Prop) : Prop where
  /-- Parts that have nothing to do with the project. -/
  others {r r' : Run} (h : P r) (htree : r'.tree = r.tree) (htargets : r'.targets = r.targets)
    (hmatched : r'.matched = r.matched) (hschedule : r'.schedule = r.schedule) : P r'
  withScaffold {r : Run} (h : P r) (planned : List String) : P (Orchestrator.withScaffold planned r)
  withPlan {σ : Type} {r : Run} (h : P r) (o : Orchestrator σ) : P (o.withPlan r)
  clearFiles {r : Run} (h : P r) : P r.clearFiles
  fill {r : Run} (h : P r) (path : String) (result : Option String) :
    P { r with tree := Tree.modify path (Generation.fill result) r.tree }
  setPending {r : Run} (h : P r) (path : String) :
    P { r with tree := Tree.setStatus path .pending r.tree }
  setContent {r : Run} (h : P r) (path content : String) :
    P { r with tree := Tree.setContent path content r.tree }

namespace Run.Lasting

open WorkOn

/-- A task on the tree of a run is a task on the run. -/
theorem upholds_onTree {α : Type} {task : WorkOn Tree σ MigrationError α}
    (h : ∀ r w, P r → Ends task (w, r.tree) (fun _ s => P { r with tree := s.2 })
      (fun stop s => stop ≠ .dropped → P { r with tree := s.2 })) :
    Upholds P (Orchestrator.onTree task) := by
  refine upholds_taking (fun r => rfl) fun r w tree hr => ?_
  exact h { r with tree } w hr

variable (hP : Run.Lasting P) (o : Orchestrator σ) (signal : SignalId)

include hP

theorem settle {r : Run} (h : P r) (results : List (String × Option String)) :
    P { r with tree := Generation.settle results r.tree } := by
  induction results generalizing r with
  | nil => exact h
  | cons result results ih => exact ih (hP.fill h result.1 result.2)

theorem upholds_generateAll (s : Service σ) (c : Config) (inputs : Generation.Inputs) :
    Upholds P (Orchestrator.onTree (Generation.generateAll s c inputs signal)) := by
  refine upholds_onTree fun r w h => ?_
  refine (Generation.ends_generateAll s c inputs signal w r.tree).mono (fun o st hst => ?_)
    (fun stop st hst hnot => ?_)
  · rcases hst.2 with ⟨results, hresults⟩
    rw [hresults.settled]
    exact hP.settle h results
  · -- What is cancelled is pending again or was not begun. What is dropped stays in progress.
    rcases hst.1 with ⟨results, target, -, -, ⟨-, htree | htree⟩ | ⟨hdropped, -⟩⟩
    · rw [htree]
      exact hP.settle h results
    · rw [htree]
      exact hP.setPending (hP.settle h results) target
    · exact absurd hdropped hnot

theorem upholds_regenerateFile (s : Service σ) (c : Config) (inputs : Generation.Inputs)
    (target : String) (instructions : Option String) :
    Upholds P
      (Orchestrator.onTree (Generation.regenerate s c inputs signal target instructions)) := by
  refine upholds_onTree fun r w h => ?_
  refine (Generation.ends_regenerate s c inputs signal target instructions w r.tree).mono ?_ ?_
  · rintro generated ⟨w', tree'⟩ ⟨-, result, -, rfl⟩
    exact hP.fill h target result
  · rintro stop ⟨w', tree'⟩ (⟨-, rfl⟩ | ⟨-, ⟨-, rfl | rfl⟩ | ⟨hdropped, -⟩⟩) hnot
    · exact h
    · exact h
    · exact hP.setPending h target
    · exact absurd hdropped hnot

theorem upholds_plan (phase : Phase) :
    Upholds P (o.plan phase : WorkOn Run σ MigrationError Unit) := by
  refine Sustains.bind (sustains_change fun _ h => ?_) fun _ => ?_
  · exact hP.withPlan h o
  exact sustains_held.bind fun _ => sustains_log _ _ _

theorem upholds_scaffold : Upholds P (o.scaffold signal) := by
  have hadopt : ∀ sources request started,
      Upholds P (o.adopt sources request signal started) := by
    intro sources request started
    refine Sustains.bind (sustains_change fun _ h => ?_) fun _ => ?_
    · exact hP.others h rfl rfl rfl rfl
    refine (upholds_ofWork _).bind fun response => ?_
    generalize Answer.plan response.textOrEmpty = planned
    refine sustains_ite ((sustains_log _ _ _).bind fun _ => upholds_fail _) ?_
    -- The tree, the targets and the plan are replaced in one step.
    refine Sustains.bind (sustains_change fun _ h => ?_) fun _ => ?_
    · exact hP.withScaffold h planned
    refine sustains_held.bind fun _ => (sustains_log _ _ _).bind fun _ => ?_
    refine (upholds_ofWork _).bind fun _ => ?_
    exact sustains_change fun _ h => hP.others h rfl rfl rfl rfl
  refine (upholds_ofWork _).bind fun _ => sustains_held.bind fun _ => ?_
  refine (sustains_log _ _ _).bind fun _ => (upholds_ofWork _).bind fun sources => ?_
  refine Sustains.bind (sustains_change fun _ h => ?_) fun _ => ?_
  · exact hP.others h rfl rfl rfl rfl
  refine (sustains_log _ _ _).bind fun _ => ?_
  exact sustains_ite_bind (sustains_log _ _ _) fun _ => hadopt sources _ _

theorem upholds_generate : Upholds P (o.generate signal) := by
  refine sustains_held.bind fun _ => sustains_ite (upholds_fail _) ?_
  refine (upholds_ofWork _).bind fun _ => ?_
  -- The old plan is still there when the files are cleared, and it is about the same targets.
  refine Sustains.bind (sustains_change fun _ h => ?_) fun _ => ?_
  · exact hP.clearFiles h
  refine (hP.upholds_plan o .generate).bind fun _ => sustains_held.bind fun r => ?_
  refine (hP.upholds_generateAll signal o.service o.config r.inputs).bind fun _ => ?_
  refine (upholds_ofWork _).bind fun _ => ?_
  refine Sustains.bind (sustains_change fun _ h => ?_) fun _ => ?_
  · exact hP.others h rfl rfl rfl rfl
  exact sustains_pure _

/-- A file that is put back has its content, whatever its status is. -/
theorem upholds_writeBack (files : ProjectFiles) (paths : List String) :
    Upholds P (Orchestrator.writeBack files paths : WorkOn Run σ MigrationError Unit) := by
  induction paths with
  | nil => exact sustains_pure ()
  | cons path paths ih =>
      refine sustains_held.bind fun r => ?_
      cases r.tree.find? path with
      | none => exact ih
      | some node =>
          cases files.get? path with
          | none => exact ih
          | some content =>
              refine (sustains_change fun r h => ?_).bind fun _ => (sustains_tell _).bind fun _ => ih
              exact hP.setContent h path content

theorem upholds_verify : Upholds P (o.verify signal) := by
  refine sustains_held.bind fun _ => sustains_ite (upholds_fail _) ?_
  refine (upholds_ofWork _).bind fun _ => (upholds_ofWork _).bind fun outcome => ?_
  refine (hP.upholds_writeBack _ _).bind fun _ => (upholds_ofWork _).bind fun _ => ?_
  refine Sustains.bind (sustains_change fun _ h => ?_) fun _ => ?_
  · exact hP.others h rfl rfl rfl rfl
  exact sustains_pure _

theorem upholds_regenerate (path : String) (instructions : Option String) :
    Upholds P (o.regenerate path instructions signal) := by
  have hplanned : ∀ started,
      Upholds P (o.regeneratePlanned path instructions signal started) := by
    intro started
    refine sustains_held.bind fun r => ?_
    refine (hP.upholds_regenerateFile signal o.service o.config r.inputs path instructions).bind
      fun _ => (upholds_ofWork _).bind fun _ => ?_
    refine Sustains.bind (sustains_change fun _ h => ?_) fun _ => ?_
    · exact hP.others h rfl rfl rfl rfl
    exact sustains_pure _
  refine sustains_held.bind fun _ => sustains_ite (upholds_fail _) ?_
  refine (upholds_ofWork _).bind fun started => sustains_held.bind fun _ => ?_
  exact sustains_ite_bind (hP.upholds_plan o .regenerate) fun _ => hplanned started

end Run.Lasting

/-- What lasts is upheld by every phase unless it is dropped. -/
theorem PhaseCall.upholds_task (hP : Run.Lasting P) (o : Orchestrator σ) (signal : SignalId)
    (call : PhaseCall) : WorkOn.Upholds P (call.task o signal) := by
  cases call with
  | scaffold => exact hP.upholds_scaffold o signal
  | generate => exact (hP.upholds_generate o signal).bind fun _ => WorkOn.sustains_pure ()
  | verify => exact (hP.upholds_verify o signal).bind fun _ => WorkOn.sustains_pure ()
  | regenerate path instructions =>
      exact (hP.upholds_regenerate o signal path instructions).bind fun _ => WorkOn.sustains_pure ()

namespace Run

/-- What lasts holds after one more call that is not dropped. -/
theorem Lasting.after (hP : Run.Lasting P) {r : Run} (h : P r) (o : Orchestrator σ)
    (signal : SignalId) (w : World σ) (call : PhaseCall)
    (hnot : call.stop? o signal w r ≠ some .dropped) : P (call.after o signal w r) := by
  have hends := call.upholds_task hP o signal w r h
  unfold Ends at hends
  unfold PhaseCall.stop? at hnot
  unfold PhaseCall.after
  cases htask : call.task o signal (w, r) with
  | ok a s =>
      rw [htask] at hends
      exact hends
  | error stop s =>
      rw [htask] at hends hnot
      exact hends fun hdropped => hnot (congrArg some hdropped)

end Run

end Replatform
