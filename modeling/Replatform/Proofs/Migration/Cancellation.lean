import Replatform.Proofs.Migration.Lasting
import Replatform.Proofs.Tree.Each
import Replatform.Proofs.Work.HeedingCalls

/-!
# Cancelling a Phase

A phase is cancelled from outside, at any moment and by anybody who can cancel its signal: by the
agenda while it waits for an answer, by a service before or after it answers, or before it is begun.
What is shown here is that no phase needs longer to notice than it takes to get to the next thing
that it would start.

The calls heed their signal already. What a phase adds to them are the places where the failure of a
call is not the failure of the phase: a file that fails is marked, a review that fails is an issue, an
architecture without a picture is an analysis all the same, and an introduction or a source that
cannot be read is left out. In each of them the failure that comes of a cancellation is told apart
from the others, and is passed on.

A file that was begun when its phase was cancelled is taken back, so that nothing in the tree looks
as if it was still being generated.

## Main definitions

* `Run.Idle`: Nothing in the tree of a run is being generated.

## Theorems

* `Generation.heeding_generateFile`, `Verification.heeding_review`, `Orchestrator.heeding_askDiagram`:
  Failures that are not passed on, unless they come of a cancellation.
* `Orchestrator.heeding_analyze`, `PhaseCall.heeding_task`: The phases heed their signal.
* `Run.lasting_idle`: No phase leaves a file in progress unless it is dropped.
* `Orchestrator.stopsPromptly_phases`: Cancellation is prompt in every phase.
-/

namespace Replatform

variable {σ ε : Type} (signal : SignalId)

open WorkOn

namespace Generation

theorem heeding_receive (target : String) (beats : List Beat) (text : String) :
    Heeding (S := World σ) signal .aborted (receive signal target beats text) := by
  induction beats generalizing text with
  | nil => exact heeding_pure text
  | cons beat beats ih =>
      cases beat with
      | act act => exact (Work.heeding_perform act).bind fun _ => ih text
      | chunk piece => exact (Work.heeding_tell _).bind fun _ => ih (text ++ piece)

variable (s : Service σ) (c : Config)

theorem heedingLive_stream (target prompt : String) :
    HeedingLive signal .aborted (stream s c signal target prompt) := by
  refine (s.heedingLive_openStream _).bind fun reply => ?_
  refine (heeding_receive signal target reply.beats "").bind fun text => ?_
  cases reply.failure with
  | none => exact heeding_pure text
  | some e => exact Work.heeding_fail e

theorem heeding_streamRetrying (target prompt : String) :
    Heeding signal .cancelled (streamRetrying s c signal target prompt) := by
  have hcall := Work.heeding_retrying c.retry (heedingLive_stream signal s c target prompt)
  exact (Work.heeding_asPhase hcall).bind fun text => heeding_pure _

theorem heeding_setStatus {cut : ε} (target : String) (status : FileStatus) :
    Heeding signal cut (setStatus target status : WorkOn Tree σ ε Unit) :=
  (heeding_change _).bind fun _ => heeding_tell _

theorem heeding_finish {cut : ε} (phase : Phase) (target content : String) :
    Heeding signal cut (finish phase target content : WorkOn Tree σ ε Unit) := by
  refine heeding_ite_bind (heeding_log _ _ _) fun _ => (heeding_tell _).bind fun _ => ?_
  exact (heeding_change _).bind fun _ => (heeding_setStatus signal _ _).bind fun _ => heeding_log _ _ _

/-- A file that fails is marked, but one that is cancelled ends the phase. -/
theorem heeding_generateFile (phase : Phase) (target prompt : String) :
    Heeding signal .cancelled (generateFile s c phase signal target prompt) := by
  refine (heeding_setStatus signal target .inProgress).bind fun _ => ?_
  have hstream : Heeding signal _ (WorkOn.ofWork (streamRetrying s c signal target prompt) :
      WorkOn Tree σ MigrationError String) :=
    heeding_ofWork (heeding_streamRetrying signal s c target prompt)
  refine fun st => (hstream st).attempt_bind (ofWork_attempt_eq _) (fun result => ?_) fun st' => ?_
  · cases result with
    | ok content => exact (heeding_finish signal phase target content).bind fun _ => heeding_pure true
    | error e =>
        refine heeding_ite ?_ ?_
        · exact (heeding_setStatus signal target .pending).bind fun _ => heeding_fail e
        · refine (heeding_setStatus signal target .error).bind fun _ => ?_
          exact (heeding_log _ _ _).bind fun _ => heeding_pure false
  · exact ⟨rfl, rfl, rfl⟩

theorem heeding_generateEach (inputs : Inputs) (targets : List String) (o : GenerationOutcome) :
    Heeding signal .cancelled (generateEach s c inputs signal targets o) := by
  induction targets generalizing o with
  | nil => exact heeding_pure o
  | cons target targets ih =>
      refine heeding_check.bind fun _ => (heeding_tell _).bind fun _ => heeding_held.bind fun _ => ?_
      refine (heeding_generateFile signal s c .generate target _).bind fun generated => ?_
      exact (heeding_tell _).bind fun _ => ih _

theorem heeding_generateAll (inputs : Inputs) :
    Heeding signal .cancelled (generateAll s c inputs signal) := by
  refine (heeding_log _ _ _).bind fun _ => ?_
  refine heeding_ite_bind (heeding_log _ _ _) fun _ => (heeding_tell _).bind fun _ => ?_
  refine (heeding_generateEach signal s c inputs _ _).bind fun o => ?_
  exact heeding_ite ((heeding_log _ _ _).bind fun _ => heeding_pure o)
    ((heeding_log _ _ _).bind fun _ => heeding_pure o)

theorem heeding_regenerate (inputs : Inputs) (target : String) (instructions : Option String) :
    Heeding signal .cancelled (regenerate s c inputs signal target instructions) := by
  refine heeding_held.bind fun tree => ?_
  refine heeding_ite_bind (heeding_fail _) fun _ => ?_
  refine (heeding_log _ _ _).bind fun _ => heeding_check.bind fun _ => ?_
  exact heeding_generateFile signal s c .regenerate target _

end Generation

namespace Verification

variable (s : Service σ) (c : Config)

theorem heeding_complain (issue : String) (r : Review) :
    Heeding (S := World σ) signal .cancelled (complain issue r) :=
  (Work.heeding_log _ _ _).bind fun _ => heeding_pure _

/-- A review that cannot be had is an issue, but one that is cancelled ends the phase. -/
theorem heeding_review (files : ProjectFiles) (issues : List String) (pass passes : Nat) :
    Heeding signal .cancelled (review s c signal files issues pass passes) := by
  have hcall : Heeding signal _ _ := s.heeding_callRetrying c.retry (request c files issues pass passes)
  refine fun w => (hcall w).attempt_bind (Work.attempt_eq _) (fun answer => ?_) fun w' => ?_
  · cases answer with
    | ok response =>
        simp only []
        generalize Answer.review response.textOrEmpty = r
        exact heeding_ite (heeding_complain signal _ _) (heeding_pure _)
    | error e => exact heeding_ite (Work.heeding_fail _) (heeding_complain signal _ _)
  · exact ⟨rfl, rfl, rfl⟩

theorem heeding_applyFixes (pass : Nat) (fixes : List Fix) (state : ProjectFiles × Names) :
    Heeding (S := World σ) signal .cancelled (applyFixes pass fixes state) := by
  induction fixes generalizing state with
  | nil => exact heeding_pure state
  | cons fix fixes ih =>
      exact heeding_ite ((Work.heeding_tell _).bind fun _ => ih _)
        ((Work.heeding_log _ _ _).bind fun _ => ih state)

theorem heeding_onePass (pass passes : Nat) (f : Findings) :
    Heeding signal .cancelled (onePass s c signal pass passes f) := by
  refine (Work.heeding_asPhase Work.heeding_check).bind fun _ => ?_
  refine (Work.heeding_log _ _ _).bind fun _ => (heeding_review signal s c _ _ _ _).bind fun r => ?_
  exact (heeding_applyFixes signal pass r.fixes _).bind fun state => heeding_pure _

theorem heeding_passesFrom (passes left pass : Nat) (f : Findings) :
    Heeding signal .cancelled (passesFrom s c signal passes left pass f) := by
  induction left generalizing pass f with
  | zero => exact heeding_pure f
  | succ left ih => exact (heeding_onePass signal s c pass passes f).bind fun f => ih (pass + 1) f

theorem heeding_run (files : ProjectFiles) :
    Heeding signal .cancelled (run s c signal files) := by
  refine (heeding_passesFrom signal s c _ _ _ _).bind fun f => ?_
  exact heeding_ite ((Work.heeding_log _ _ _).bind fun _ => (Work.heeding_tell _).bind fun _ => heeding_pure _)
    ((Work.heeding_log _ _ _).bind fun _ => (Work.heeding_tell _).bind fun _ => heeding_pure _)

end Verification

namespace Orchestrator

variable (o : Orchestrator σ)

theorem heeding_call (r : Request) : Heeding signal .cancelled (o.call signal r) :=
  Work.heeding_asPhase (o.service.heeding_callRetrying o.config.retry r)

theorem heeding_readSource (url path : String) :
    Heeding signal .cancelled (o.readSource url path signal) :=
  Work.heeding_asPhase (o.repository.heeding_fetchFile url path)

theorem heeding_survey (url : String) : Heeding signal .cancelled (o.survey url signal) := by
  refine (Work.heeding_log _ _ _).bind fun _ => ?_
  refine (Work.heeding_asPhase (o.repository.heeding_fetch url)).bind fun fetched => ?_
  cases fetched with
  | error e => exact Work.heeding_fail _
  | ok tree =>
      exact heeding_ite ((Work.heeding_log _ _ _).bind fun _ => Work.heeding_fail _)
        ((Work.heeding_log _ _ _).bind fun _ => heeding_pure _)

/-- An introduction that cannot be read is left out, but its reading can be cancelled. -/
theorem heeding_readReadme (run : Run) : Heeding signal .cancelled (o.readReadme signal run) := by
  unfold readReadme
  cases run.legacyTree.readme? with
  | none => exact heeding_pure none
  | some path =>
      refine (o.heeding_readSource signal run.repoUrl path).bind fun content? => ?_
      cases content? with
      | ok content => exact heeding_pure _
      | error e => exact (Work.heeding_log _ _ _).bind fun _ => heeding_pure none

theorem heeding_askAnalysis (run : Run) : Heeding signal .cancelled (o.askAnalysis signal run) :=
  (o.heeding_call signal _).bind fun _ => (Work.heeding_log _ _ _).bind fun _ => heeding_pure _

/-- To be left without a picture is not a failure, but to be cancelled is. -/
theorem heeding_askDiagram (a : Analysis) : Heeding signal .cancelled (o.askDiagram signal a) := by
  refine heeding_get_ite (fun _ => Iff.rfl) ((Work.heeding_log _ _ _).bind fun _ => heeding_pure none) fun w => ?_
  refine (o.heeding_call signal _ w).attempt_bind (Work.attempt_eq _) (fun answer => ?_) fun w' => ?_
  · cases answer with
    | ok response =>
        simp only []
        cases response.firstImage? with
        | some image => exact (Work.heeding_log _ _ _).bind fun _ => heeding_pure _
        | none => exact (Work.heeding_log _ _ _).bind fun _ => heeding_pure _
    | error e =>
        exact heeding_ite (Work.heeding_fail e)
          ((Work.heeding_log _ _ _).bind fun _ => heeding_pure none)
  · exact ⟨rfl, rfl, rfl⟩

/-- What is done to analyse a repository once there are files in scope. -/
theorem heeding_surveyed (run : Run) (started : Nat) : Heeding signal .cancelled (do
    let run := { run with readme := ← o.readReadme signal run }
    (Work.check signal).asPhase
    let run := { run with analysis := ← o.askAnalysis signal run }
    let run ← if o.config.generateDiagram then do
        pure { run with diagram := ← o.askDiagram signal run.analysis }
      else pure run
    return run.record .analyze started (← Work.now)) := by
  refine (o.heeding_readReadme signal run).bind fun readme => ?_
  refine (Work.heeding_asPhase Work.heeding_check).bind fun _ => ?_
  refine (o.heeding_askAnalysis signal _).bind fun analysis => ?_
  refine heeding_ite ?_ ?_
  · refine (o.heeding_askDiagram signal _).bind fun diagram => (heeding_pure _).bind fun _ => ?_
    exact Work.heeding_now.bind fun _ => heeding_pure _
  · exact (heeding_pure _).bind fun _ => Work.heeding_now.bind fun _ => heeding_pure _

theorem heeding_analyze (url : String) : Heeding signal .cancelled (o.analyze url signal) := by
  refine Work.heeding_now.bind fun started => (o.heeding_survey signal url).bind fun run => ?_
  exact o.heeding_surveyed signal run started

theorem heeding_readSources (url : String) (paths : List String) (sources : SourceFiles) :
    Heeding signal .cancelled (o.readSources url signal paths sources) := by
  induction paths generalizing sources with
  | nil => exact heeding_pure sources
  | cons path paths ih =>
      refine (Work.heeding_asPhase Work.heeding_check).bind fun _ => ?_
      refine (o.heeding_readSource signal url path).bind fun content? => ?_
      cases content? with
      | ok content => exact ih _
      | error e =>
          exact heeding_ite ((Work.heeding_log _ _ _).bind fun _ => Work.heeding_fail _)
            ((Work.heeding_log _ _ _).bind fun _ => ih sources)

theorem heeding_adopt (sources : SourceFiles) (request : Request) (started : Nat) :
    Heeding signal .cancelled (o.adopt sources request signal started) := by
  refine (heeding_change _).bind fun _ => ?_
  refine (heeding_ofWork (o.heeding_call signal request)).bind fun response => ?_
  generalize Answer.plan response.textOrEmpty = planned
  refine heeding_ite ((heeding_log _ _ _).bind fun _ => heeding_fail _) ?_
  refine (heeding_change _).bind fun _ => heeding_held.bind fun _ => (heeding_log _ _ _).bind fun _ => ?_
  exact (heeding_ofWork Work.heeding_now).bind fun _ => heeding_change _

theorem heeding_scaffold : Heeding signal .cancelled (o.scaffold signal) := by
  refine (heeding_ofWork Work.heeding_now).bind fun started => heeding_held.bind fun run => ?_
  refine (heeding_log _ _ _).bind fun _ => ?_
  refine (heeding_ofWork (o.heeding_readSources signal _ _ _)).bind fun sources => ?_
  refine (heeding_change _).bind fun _ => (heeding_log _ _ _).bind fun _ => ?_
  exact heeding_ite_bind (heeding_log _ _ _) fun _ => o.heeding_adopt signal sources _ started

theorem heeding_plan (phase : Phase) :
    Heeding signal .cancelled (o.plan phase : WorkOn Run σ MigrationError Unit) :=
  (heeding_change _).bind fun _ => heeding_held.bind fun _ => heeding_log _ _ _

theorem heeding_generate : Heeding signal .cancelled (o.generate signal) := by
  refine heeding_held.bind fun _ => heeding_ite (heeding_fail _) ?_
  refine (heeding_ofWork Work.heeding_now).bind fun started => (heeding_change _).bind fun _ => ?_
  refine (o.heeding_plan signal .generate).bind fun _ => heeding_held.bind fun run => ?_
  have hall := Generation.heeding_generateAll signal o.service o.config run.inputs
  refine (heeding_taking _ _ _ hall).bind fun outcome => ?_
  refine (heeding_ofWork Work.heeding_now).bind fun _ => (heeding_change _).bind fun _ => ?_
  exact heeding_pure outcome

theorem heeding_writeBack (files : ProjectFiles) (paths : List String) :
    Heeding signal .cancelled (writeBack files paths : WorkOn Run σ MigrationError Unit) := by
  induction paths with
  | nil => exact heeding_pure ()
  | cons path paths ih =>
      refine heeding_held.bind fun run => ?_
      cases run.tree.find? path with
      | none => exact ih
      | some node =>
          cases files.get? path with
          | none => exact ih
          | some content => exact (heeding_change _).bind fun _ => (heeding_tell _).bind fun _ => ih

theorem heeding_verify : Heeding signal .cancelled (o.verify signal) := by
  refine heeding_held.bind fun run => heeding_ite (heeding_fail _) ?_
  refine (heeding_ofWork Work.heeding_now).bind fun started => ?_
  have hpasses := Verification.heeding_run signal o.service o.config run.generatedFiles
  refine (heeding_ofWork hpasses).bind fun outcome => (heeding_writeBack signal _ _).bind fun _ => ?_
  refine (heeding_ofWork Work.heeding_now).bind fun _ => (heeding_change _).bind fun _ => ?_
  exact heeding_pure outcome.verdict

theorem heeding_verifyIfAny : Heeding signal .cancelled (o.verifyIfAny signal) := by
  refine heeding_held.bind fun run => heeding_ite (heeding_log _ _ _) ?_
  exact (o.heeding_verify signal).bind fun _ => heeding_pure ()

theorem heeding_regenerate (path : String) (instructions : Option String) :
    Heeding signal .cancelled (o.regenerate path instructions signal) := by
  have hplanned : ∀ started, Heeding signal .cancelled
      (o.regeneratePlanned path instructions signal started) := by
    intro started
    refine heeding_held.bind fun run => ?_
    have hfile := Generation.heeding_regenerate signal o.service o.config run.inputs path
      instructions
    refine (heeding_taking _ _ _ hfile).bind fun generated => ?_
    refine (heeding_ofWork Work.heeding_now).bind fun _ => (heeding_change _).bind fun _ => ?_
    exact heeding_pure generated
  refine heeding_held.bind fun _ => heeding_ite (heeding_fail _) ?_
  refine (heeding_ofWork Work.heeding_now).bind fun started => heeding_held.bind fun _ => ?_
  exact heeding_ite_bind (o.heeding_plan signal .regenerate) fun _ => hplanned started

end Orchestrator

/-- Every phase that is called on a run heeds its signal. -/
theorem PhaseCall.heeding_task (o : Orchestrator σ) (call : PhaseCall) :
    Heeding signal .cancelled (call.task o signal) := by
  cases call with
  | scaffold => exact o.heeding_scaffold signal
  | generate => exact (o.heeding_generate signal).bind fun _ => heeding_pure ()
  | verify => exact (o.heeding_verify signal).bind fun _ => heeding_pure ()
  | regenerate path instructions =>
      exact (o.heeding_regenerate signal path instructions).bind fun _ => heeding_pure ()

/-- Nothing in the tree is being generated. -/
def Run.Idle (r : Run) : Prop :=
  r.tree.Each fun status _ => status ≠ .inProgress

instance (r : Run) : Decidable r.Idle :=
  inferInstanceAs (Decidable (∀ entry ∈ r.tree.outline, entry.2.status ≠ .inProgress))

/-- Nothing is in progress in a tree that was just built, a file that comes to a result has it instead,
    and a file that is taken back is pending. -/
theorem Run.lasting_idle : Run.Lasting Run.Idle where
  others h htree _ _ _ := by
    rw [Run.Idle, htree]
    exact h
  withScaffold _ planned := (Tree.each_build planned).mono fun _ _ h => h.isSettled.1
  withPlan h _ := h
  clearFiles h := Tree.each_mapFiles refills_cleared (fun _ _ => FileStatus.noConfusion) h
  fill h path result := by
    refine Tree.each_modify (Generation.refills_fill result) (fun node _ => ?_) path h
    cases result with
    | none => exact FileStatus.noConfusion
    | some content => exact FileStatus.noConfusion
  setPending h path :=
    Tree.each_modify (refills_status .pending) (fun _ _ => FileStatus.noConfusion) path h
  setContent h path content :=
    Tree.each_modify (refills_content (some content)) (fun _ hnode => hnode) path h

namespace Orchestrator

/-- Once its signal is aborted no phase starts anything more. A phase that would have started something
    is cancelled instead, and any other ends as it would have anyway. Nothing is left in progress. -/
theorem stopsPromptly_phases (o : Orchestrator σ) (w : World σ) :
    (∀ url, StopsPromptly signal .cancelled (o.analyze url signal) w) ∧
      ∀ (r : Run) (call : PhaseCall), StopsPromptly signal .cancelled (call.task o signal) (w, r) ∧
        (r.Idle → call.stop? o signal w r ≠ some .dropped → (call.after o signal w r).Idle) := by
  refine ⟨fun url => (o.heeding_analyze signal url w).stopsPromptly, fun r call => ⟨?_, fun hidle hnot => ?_⟩⟩
  · exact (call.heeding_task signal o (w, r)).stopsPromptly
  · exact Run.lasting_idle.after hidle o signal w call hnot

/-- A project of two files that was planned. -/
def plannedRun : Run :=
  (Run.afterCalls Run.fromStore 0 "" [(.scaffold, { state := [⟨[], .ok (.ofText "[\"a.ts\", \"b.ts\"]")⟩] })]).2

/-- The signal is cancelled while the first file is answered. The file is finished, the second is not
    asked for, and the phase is cancelled. It would have asked for both. -/
theorem stopsPromptly_generate :
    let w : World (List (Reply ServiceError Response)) :=
      { state := [⟨[.cancel 0], .ok (.ofText "1")⟩, ⟨[], .ok (.ofText "2")⟩] }
    let task := PhaseCall.generate.task Run.fromStore 0
    stopOf? task (w, plannedRun) = some (.failed .cancelled) ∧
      (leaves task (w, plannedRun)).1.starts.length = 1 ∧
      (leaves task (spared 0 (w, plannedRun))).1.starts.length = 2 ∧
      plannedRun.Idle ∧ (PhaseCall.generate.after Run.fromStore 0 w plannedRun).Idle := by
  refine ⟨by decide +kernel, by decide +kernel, by decide +kernel, by decide +kernel, ?_⟩
  refine ((stopsPromptly_phases 0 Run.fromStore _).2 plannedRun .generate).2 ?_ ?_
  · decide +kernel
  · decide +kernel

end Orchestrator

end Replatform
