import Replatform.Migration.Orchestrator
import Replatform.Proofs.Work.InStep

/-!
# Phases in Step

A phase that is gone through in two worlds that are alike does the same in both, if the service and
the repository do. Most of it has no part in what the runs differ in: requests are made from the
files and from what was answered before. The signal goes down to the calls, and the clock is read
twice, at the beginning of a phase and at its end. What is kept of the two times is how far they
lie apart, and that is the same in both runs.

## Theorems

* `Run.record_alike`: A phase took as long in both runs.
* `Generation.inStep_generateFile`, `Verification.inStep_review`, `Orchestrator.inStep_askDiagram`:
  Failures that are not passed on.
* `Orchestrator.inStep_analyze`, `inStep_scaffold`, `inStep_generate`, `inStep_verifyIfAny`: The phases.
* `Orchestrator.inStep_runAll`: All of them in a row.
-/

namespace Replatform

variable {σ ε α : Type} {p : Pairing}

open WorkOn

/-- What is noted is how long a phase took, whatever time it was. -/
theorem Run.record_alike {started started' now now' : Nat} (hstarted : p.TimeAlike started started')
    (hnow : p.TimeAlike now now') (phase : Phase) :
    Run.record phase started' now' = Run.record phase started now := by
  funext r
  rw [record, record, hstarted.sub_eq hnow]

namespace Generation

theorem inStep_receive (target : String) {beats beats' : List Beat}
    (h : List.Forall₂ p.BeatAlike beats beats') (text : String) :
    InStep (S := World σ) p (receive p.here target beats text) (receive p.there target beats' text) := by
  induction h generalizing text with
  | nil => exact inStep_pure text
  | cons hbeat _ ih =>
      -- The acts between the pieces may cancel different signals. The pieces are the same.
      cases hbeat with
      | act hact => exact (Work.inStep_perform hact).bind fun _ => ih text
      | chunk piece => exact (Work.inStep_tell _).bind fun _ => ih (text ++ piece)

variable {s : Service σ} (hs : s.Impartial p) (c : Config)
include hs

theorem inStep_stream (target prompt : String) :
    InStep p (stream s c p.here target prompt) (stream s c p.there target prompt) := by
  refine hs.inStep_openStream_bind _ fun reply reply' hreply => ?_
  rw [hreply.failure]
  refine (inStep_receive target hreply.beats "").bind fun text => ?_
  cases reply.failure with
  | none => exact inStep_pure text
  | some e => exact Work.inStep_fail e

theorem inStep_streamRetrying (target prompt : String) :
    InStep p (streamRetrying s c p.here target prompt) (streamRetrying s c p.there target prompt) := by
  have hcall := Work.inStep_retrying c.retry (inStep_stream hs c target prompt)
  exact (Work.inStep_asPhase hcall).bind fun text => inStep_pure _

omit hs in
theorem inStep_setStatus (target : String) (status : FileStatus) :
    InStep p (setStatus target status : WorkOn Tree σ ε Unit) (setStatus target status) :=
  (inStep_change _).bind fun _ => inStep_tell _

omit hs in
theorem inStep_finish (phase : Phase) (target content : String) :
    InStep p (finish phase target content : WorkOn Tree σ ε Unit) (finish phase target content) := by
  refine inStep_ite_bind (inStep_log _ _ _) fun _ => (inStep_tell _).bind fun _ => ?_
  exact (inStep_change _).bind fun _ => (inStep_setStatus _ _).bind fun _ => inStep_log _ _ _

/-- The same failure is marked in the same file. -/
theorem inStep_generateFile (phase : Phase) (target prompt : String) :
    InStep p (generateFile s c phase p.here target prompt)
      (generateFile s c phase p.there target prompt) := by
  refine (inStep_setStatus target .inProgress).bind fun _ => ?_
  have hstream := Work.inStep_attempt (δ := MigrationError) (inStep_streamRetrying hs c target prompt)
  refine (inStep_ofWork hstream).bind fun result => ?_
  cases result with
  | ok content => exact (inStep_finish phase target content).bind fun _ => inStep_pure true
  | error e =>
      refine inStep_ite ?_ ?_
      · exact (inStep_setStatus target .pending).bind fun _ => inStep_fail e
      · refine (inStep_setStatus target .error).bind fun _ => ?_
        exact (inStep_log _ _ _).bind fun _ => inStep_pure false

theorem inStep_generateEach (inputs : Inputs) (targets : List String) (o : GenerationOutcome) :
    InStep p (generateEach s c inputs p.here targets o) (generateEach s c inputs p.there targets o) := by
  induction targets generalizing o with
  | nil => exact inStep_pure o
  | cons target targets ih =>
      refine inStep_check.bind fun _ => (inStep_tell _).bind fun _ => inStep_held.bind fun _ => ?_
      refine (inStep_generateFile hs c .generate target _).bind fun generated => ?_
      exact (inStep_tell _).bind fun _ => ih _

theorem inStep_generateAll (inputs : Inputs) :
    InStep p (generateAll s c inputs p.here) (generateAll s c inputs p.there) := by
  refine (inStep_log _ _ _).bind fun _ => ?_
  refine inStep_ite_bind (inStep_log _ _ _) fun _ => (inStep_tell _).bind fun _ => ?_
  refine (inStep_generateEach hs c inputs _ _).bind fun o => ?_
  exact inStep_ite ((inStep_log _ _ _).bind fun _ => inStep_pure o)
    ((inStep_log _ _ _).bind fun _ => inStep_pure o)

end Generation

namespace Verification

theorem inStep_complain (issue : String) (r : Review) :
    InStep (S := World σ) p (complain issue r) (complain issue r) :=
  (Work.inStep_log _ _ _).bind fun _ => inStep_pure _

theorem inStep_applyFixes (pass : Nat) (fixes : List Fix) (state : ProjectFiles × Names) :
    InStep (S := World σ) p (applyFixes pass fixes state) (applyFixes pass fixes state) := by
  induction fixes generalizing state with
  | nil => exact inStep_pure state
  | cons fix fixes ih =>
      exact inStep_ite ((Work.inStep_tell _).bind fun _ => ih _)
        ((Work.inStep_log _ _ _).bind fun _ => ih state)

variable {s : Service σ} (hs : s.Impartial p) (c : Config)
include hs

/-- The same review cannot be had in both runs. -/
theorem inStep_review (files : ProjectFiles) (issues : List String) (pass passes : Nat) :
    InStep p (review s c p.here files issues pass passes)
      (review s c p.there files issues pass passes) := by
  have hcall := hs.inStep_callRetrying c.retry (request c files issues pass passes)
  refine (Work.inStep_attempt hcall).bind fun answer => ?_
  cases answer with
  | ok response =>
      simp only []
      generalize Answer.review response.textOrEmpty = r
      exact inStep_ite (inStep_complain _ _) (inStep_pure _)
  | error e => exact inStep_ite (Work.inStep_fail _) (inStep_complain _ _)

theorem inStep_onePass (pass passes : Nat) (f : Findings) :
    InStep p (onePass s c p.here pass passes f) (onePass s c p.there pass passes f) := by
  refine (Work.inStep_asPhase Work.inStep_check).bind fun _ => ?_
  refine (Work.inStep_log _ _ _).bind fun _ => (inStep_review hs c _ _ _ _).bind fun r => ?_
  exact (inStep_applyFixes pass r.fixes _).bind fun state => inStep_pure _

theorem inStep_passesFrom (passes left pass : Nat) (f : Findings) :
    InStep p (passesFrom s c p.here passes left pass f) (passesFrom s c p.there passes left pass f) := by
  induction left generalizing pass f with
  | zero => exact inStep_pure f
  | succ left ih => exact (inStep_onePass hs c pass passes f).bind fun f => ih (pass + 1) f

theorem inStep_run (files : ProjectFiles) :
    InStep p (run s c p.here files) (run s c p.there files) := by
  refine (inStep_passesFrom hs c _ _ _ _).bind fun f => ?_
  exact inStep_ite ((Work.inStep_log _ _ _).bind fun _ => (Work.inStep_tell _).bind fun _ => inStep_pure _)
    ((Work.inStep_log _ _ _).bind fun _ => (Work.inStep_tell _).bind fun _ => inStep_pure _)

end Verification

/-- The service and the repository of a migration do not tell the runs apart. -/
structure Orchestrator.Impartial (o : Orchestrator σ) (p : Pairing) : Prop where
  service : o.service.Impartial p
  repository : o.repository.Impartial p

namespace Orchestrator

theorem inStep_plan (o : Orchestrator σ) (phase : Phase) :
    InStep p (o.plan phase : WorkOn Run σ MigrationError Unit) (o.plan phase) :=
  (inStep_change _).bind fun _ => inStep_held.bind fun _ => inStep_log _ _ _

theorem inStep_writeBack (files : ProjectFiles) (paths : List String) :
    InStep p (writeBack files paths : WorkOn Run σ MigrationError Unit) (writeBack files paths) := by
  induction paths with
  | nil => exact inStep_pure ()
  | cons path paths ih =>
      refine inStep_held.bind fun run => ?_
      cases run.tree.find? path with
      | none => exact ih
      | some node =>
          cases files.get? path with
          | none => exact ih
          | some content => exact (inStep_change _).bind fun _ => (inStep_tell _).bind fun _ => ih

variable {o : Orchestrator σ} (h : o.Impartial p)
include h

theorem inStep_call (r : Request) : InStep p (o.call p.here r) (o.call p.there r) :=
  Work.inStep_asPhase (h.service.inStep_callRetrying o.config.retry r)

theorem inStep_readSource (url path : String) :
    InStep p (o.readSource url path p.here) (o.readSource url path p.there) :=
  Work.inStep_asPhase (h.repository.inStep_fetchFile url path)

theorem inStep_survey (url : String) : InStep p (o.survey url p.here) (o.survey url p.there) := by
  refine (Work.inStep_log _ _ _).bind fun _ => ?_
  refine (Work.inStep_asPhase (h.repository.inStep_fetch url)).bind fun fetched => ?_
  cases fetched with
  | error e => exact Work.inStep_fail _
  | ok tree =>
      exact inStep_ite ((Work.inStep_log _ _ _).bind fun _ => Work.inStep_fail _)
        ((Work.inStep_log _ _ _).bind fun _ => inStep_pure _)

theorem inStep_readReadme (run : Run) :
    InStep p (o.readReadme p.here run) (o.readReadme p.there run) := by
  unfold readReadme
  cases run.legacyTree.readme? with
  | none => exact inStep_pure none
  | some path =>
      refine (inStep_readSource h run.repoUrl path).bind fun content? => ?_
      cases content? with
      | ok content => exact inStep_pure _
      | error e => exact (Work.inStep_log _ _ _).bind fun _ => inStep_pure none

theorem inStep_askAnalysis (run : Run) :
    InStep p (o.askAnalysis p.here run) (o.askAnalysis p.there run) :=
  (inStep_call h _).bind fun _ => (Work.inStep_log _ _ _).bind fun _ => inStep_pure _

/-- Both runs end up with the same picture or without one. -/
theorem inStep_askDiagram (a : Analysis) :
    InStep p (o.askDiagram p.here a) (o.askDiagram p.there a) := by
  refine inStep_get_bind fun w w' hw => ?_
  rw [(Work.alike_iff.mp hw).state]
  refine inStep_ite ((Work.inStep_log _ _ _).bind fun _ => inStep_pure none) ?_
  refine (Work.inStep_attempt (inStep_call h _)).bind fun answer => ?_
  cases answer with
  | ok response =>
      simp only []
      cases response.firstImage? with
      | some image => exact (Work.inStep_log _ _ _).bind fun _ => inStep_pure _
      | none => exact (Work.inStep_log _ _ _).bind fun _ => inStep_pure _
  | error e =>
      exact inStep_ite (Work.inStep_fail e) ((Work.inStep_log _ _ _).bind fun _ => inStep_pure none)

theorem inStep_analyze (url : String) : InStep p (o.analyze url p.here) (o.analyze url p.there) := by
  refine Work.inStep_now_bind fun started started' hstarted => (inStep_survey h url).bind fun run => ?_
  refine (inStep_readReadme h run).bind fun readme => ?_
  refine (Work.inStep_asPhase Work.inStep_check).bind fun _ => ?_
  refine (inStep_askAnalysis h _).bind fun analysis => ?_
  -- The two times are all in which the runs differ, and they end up as a difference.
  have hrecord : ∀ run : Run, InStep (S := World σ) p (ε := Stop MigrationError)
      (Work.now >>= fun now => pure (run.record .analyze started now))
      (Work.now >>= fun now => pure (run.record .analyze started' now)) := by
    refine fun run => Work.inStep_now_bind fun now now' hnow => ?_
    rw [Run.record_alike hstarted hnow]
    exact inStep_pure _
  refine inStep_ite ?_ ?_
  · refine (inStep_askDiagram h _).bind fun diagram => (inStep_pure _).bind fun run => hrecord run
  · exact (inStep_pure _).bind fun run => hrecord run

theorem inStep_readSources (url : String) (paths : List String) (sources : SourceFiles) :
    InStep p (o.readSources url p.here paths sources) (o.readSources url p.there paths sources) := by
  induction paths generalizing sources with
  | nil => exact inStep_pure sources
  | cons path paths ih =>
      refine (Work.inStep_asPhase Work.inStep_check).bind fun _ => ?_
      refine (inStep_readSource h url path).bind fun content? => ?_
      cases content? with
      | ok content => exact ih _
      | error e =>
          exact inStep_ite ((Work.inStep_log _ _ _).bind fun _ => Work.inStep_fail _)
            ((Work.inStep_log _ _ _).bind fun _ => ih sources)

omit h in
/-- The end of a phase that is noted in a run. -/
theorem inStep_record {started started' : Nat} (hstarted : p.TimeAlike started started')
    (phase : Phase) (change : Run → Run) (a : α) :
    InStep p (do
      let now ← WorkOn.ofWork Work.now
      WorkOn.change fun run => (change run).record phase started now
      return a : WorkOn Run σ MigrationError α) (do
      let now ← WorkOn.ofWork Work.now
      WorkOn.change fun run => (change run).record phase started' now
      return a) := by
  refine inStep_now_bind fun now now' hnow => ?_
  rw [Run.record_alike hstarted hnow]
  exact (inStep_change _).bind fun _ => inStep_pure a

theorem inStep_adopt (sources : SourceFiles) (request : Request) {started started' : Nat}
    (hstarted : p.TimeAlike started started') :
    InStep p (o.adopt sources request p.here started) (o.adopt sources request p.there started') := by
  refine (inStep_change _).bind fun _ => (inStep_ofWork (inStep_call h request)).bind fun response => ?_
  generalize Answer.plan response.textOrEmpty = planned
  refine inStep_ite ((inStep_log _ _ _).bind fun _ => inStep_fail _) ?_
  refine (inStep_change _).bind fun _ => inStep_held.bind fun _ => (inStep_log _ _ _).bind fun _ => ?_
  refine inStep_now_bind fun now now' hnow => ?_
  rw [Run.record_alike hstarted hnow]
  exact inStep_change _

theorem inStep_scaffold : InStep p (o.scaffold p.here) (o.scaffold p.there) := by
  refine inStep_now_bind fun started started' hstarted => inStep_held.bind fun run => ?_
  refine (inStep_log _ _ _).bind fun _ => ?_
  refine (inStep_ofWork (inStep_readSources h _ _ _)).bind fun sources => ?_
  refine (inStep_change _).bind fun _ => (inStep_log _ _ _).bind fun _ => ?_
  exact inStep_ite_bind (inStep_log _ _ _) fun _ => inStep_adopt h sources _ hstarted

theorem inStep_generate : InStep p (o.generate p.here) (o.generate p.there) := by
  refine inStep_held.bind fun _ => inStep_ite (inStep_fail _) ?_
  refine inStep_now_bind fun started started' hstarted => (inStep_change _).bind fun _ => ?_
  refine (o.inStep_plan .generate).bind fun _ => inStep_held.bind fun run => ?_
  have hall := Generation.inStep_generateAll h.service o.config run.inputs
  refine (inStep_taking _ _ _ hall).bind fun outcome => ?_
  exact inStep_record hstarted _ _ _

theorem inStep_verify : InStep p (o.verify p.here) (o.verify p.there) := by
  refine inStep_held.bind fun run => inStep_ite (inStep_fail _) ?_
  refine inStep_now_bind fun started started' hstarted => ?_
  have hpasses := Verification.inStep_run h.service o.config run.generatedFiles
  refine (inStep_ofWork hpasses).bind fun outcome => (inStep_writeBack _ _).bind fun _ => ?_
  exact inStep_record hstarted _ _ _

theorem inStep_verifyIfAny : InStep p (o.verifyIfAny p.here) (o.verifyIfAny p.there) := by
  refine inStep_held.bind fun run => inStep_ite (inStep_log _ _ _) ?_
  exact (inStep_verify h).bind fun _ => inStep_pure ()

theorem inStep_runAll (url : String) : InStep p (o.runAll url p.here) (o.runAll url p.there) := by
  refine (inStep_analyze h url).bind fun run => ?_
  refine InStep.bind (inStep_startingWith run ?_) fun _ => inStep_pure _
  exact (inStep_scaffold h).bind fun _ => (inStep_generate h).bind fun _ => inStep_verifyIfAny h

end Orchestrator

end Replatform
