import Mathlib.Data.List.Forall2
import Replatform.Proofs.Migration.Reads
import Replatform.Proofs.Work.HeedingCalls

/-!
# What Is in Scope

A scope says which legacy files are considered. The others may have any content: two repositories
that differ in nothing else are the same to whoever reads files in scope only.

All phases but the analysis read nothing but what the analysis has put in scope. They do therefore the
same over both repositories, one after another and however they end.

An analysis lists the repository, finds the files in scope, looks for an introduction to the project,
and asks for the analysis. Which of this is done depends on the signal and on the cache: nothing goes
on under a signal that is aborted, and what the cache has is not read. What is done first is shown as
what was done since a world in which it has just been noted. What comes after it is on top of that,
whatever it is.

## Main definitions

* `Repository.SameWithin`: Two repositories that differ in files out of scope only.
* `Orchestrator.upon`: The same orchestrator over another repository.
* `Run.InScope`: The files of a run are in scope.
* `Deed.ReadsWithin`, `Run.ReadsWithin`: What is read is in scope.
* `Orchestrator.callEach`: Phases that are called one after another.

## Theorems

* `Repository.fetchFile_eq`: A file that is not in scope makes no difference while it is not read.
* `PhaseCall.upon_task`: A phase does the same over both repositories.
* `Orchestrator.upon_callEach`: So do phases that are called one after another.
* `Orchestrator.callEach_reads`: They read files in scope.
* `Work.since_attempts`: Attempts at a task do what the first of them does.
* `Orchestrator.since_introduced`: The analysis is asked for first once the introduction was read.
* `Orchestrator.since_readReadme`, `since_readReadme_of_missing`: When an introduction is read.
* `Orchestrator.ends_survey`, `ends_introduced`, `ends_inScope`: The files of the run are in scope.
-/

namespace Replatform

variable {σ ε α β : Type}

/-- Two repositories that differ in nothing but the files that a scope rejects. -/
structure Repository.SameWithin (scope : Scope) (r r' : Repository σ) : Prop where
  list : r'.list = r.list
  read : ∀ (caller : Caller) (url path : String), scope.allows path = true →
    r'.read caller url path = r.read caller url path

/-- A deed that reads no legacy file but those in scope. -/
abbrev Deed.ReadsWithin (scope : Scope) : Deed → Prop :=
  ReadsOnly fun _ path => scope.allows path = true

/-- What is read between two moments of a run is in scope, and the files in scope are the same. -/
abbrev Run.ReadsWithin (scope : Scope) : World σ × Run → World σ × Run → Prop :=
  Run.Reads fun _ path => scope.allows path = true

/-- The files of a run are in scope. -/
def Run.InScope (scope : Scope) (r : Run) : Prop :=
  ∀ path ∈ r.scopedFiles, scope.allows path = true

/-- Tasks that begin alike and go on alike are alike. -/
theorem bind_congr_at {S : Type} {task task' : EStateM ε S α} {next next' : α → EStateM ε S β} {s : S}
    (h : task' s = task s) (hnext : ∀ a s', task s = .ok a s' → next' a s' = next a s') :
    (task' >>= next') s = (task >>= next) s := by
  cases htask : task s with
  | ok a s' => rw [bind_of_ok (h.trans htask), bind_of_ok htask, hnext a s' htask]
  | error e s' => rw [bind_of_error (h.trans htask), bind_of_error htask]

namespace Repository

variable {scope : Scope} {r r' : Repository σ} {signal : SignalId} {url path : String}

theorem SameWithin.refl (scope : Scope) (r : Repository σ) : r.SameWithin scope r :=
  ⟨rfl, fun _ _ _ _ => rfl⟩

theorem fetchFile_apply (r : Repository σ) (w : World σ) :
    r.fetchFile signal url path w =
      if w.signals.isAborted signal = true then .error (.failed .aborted) w
      else
        match w.cache.get? url path with
        | some content => .ok (.ok content) w
        | none => r.readFile signal url path w := by
  by_cases haborted : w.signals.isAborted signal = true
  · rw [if_pos haborted]
    exact bind_of_error (Work.check_of_aborted haborted)
  · rw [if_neg haborted]
    refine (bind_of_ok (Work.check_of_live (Bool.eq_false_iff.mpr haborted))).trans ?_
    rw [get_bind]
    cases w.cache.get? url path with
    | some content => rfl
    | none => rfl

theorem fetch_eq (h : r.SameWithin scope r') : r'.fetch signal url = r.fetch signal url := by
  rw [fetch, fetch, h.list]

theorem readFile_eq (h : r.SameWithin scope r') (hpath : scope.allows path = true) :
    r'.readFile signal url path = r.readFile signal url path := by
  have hread : (r'.read · url path) = (r.read · url path) :=
    funext fun caller => h.read caller url path hpath
  rw [readFile, readFile, hread]

/-- A file that is in scope, or that is not read since the signal is aborted or the cache has it. -/
theorem fetchFile_eq (h : r.SameWithin scope r') (w : World σ)
    (hpath : w.signals.isAborted signal = false → w.cache.get? url path = none →
      scope.allows path = true) :
    r'.fetchFile signal url path w = r.fetchFile signal url path w := by
  rw [fetchFile_apply, fetchFile_apply]
  by_cases haborted : w.signals.isAborted signal = true
  · rw [if_pos haborted, if_pos haborted]
  · rw [if_neg haborted, if_neg haborted]
    cases hcached : w.cache.get? url path with
    | some content => rfl
    | none =>
        have hallows := hpath (Bool.eq_false_iff.mpr haborted) hcached
        simp only [readFile_eq h hallows]

end Repository

namespace Orchestrator

/-- The same orchestrator over another repository. -/
def upon (r : Repository σ) (o : Orchestrator σ) : Orchestrator σ :=
  { o with repository := r }

/-- The worlds that phases leave which are called one after another on a run, each under a signal and in
    a world of its own, and the run in the end. -/
def callEach (o : Orchestrator σ) (run : Run) :
    List (PhaseCall × SignalId × World σ) → List (World σ) × Run
  | [] => ([], run)
  | (call, signal, w) :: calls =>
    let s := leaves (call.task o signal) (w, run)
    let later := o.callEach s.2 calls
    (s.1 :: later.1, later.2)

variable {o : Orchestrator σ} {r' : Repository σ} {signal : SignalId} {url path : String} {run : Run}

theorem upon_survey (h : o.repository.SameWithin o.config.scope r') :
    (o.upon r').survey url signal = o.survey url signal := by
  unfold survey
  rw [show (o.upon r').repository.fetch signal url = o.repository.fetch signal url from
    Repository.fetch_eq h]
  rfl

theorem upon_readSource (h : o.repository.SameWithin o.config.scope r') (w : World σ)
    (hpath : w.signals.isAborted signal = false → w.cache.get? url path = none →
      o.config.scope.allows path = true) :
    (o.upon r').readSource url path signal w = o.readSource url path signal w := by
  have hfetch : (o.upon r').repository.fetchFile signal url path w =
      o.repository.fetchFile signal url path w := Repository.fetchFile_eq h w hpath
  simp only [readSource, Work.asPhase, Work.mapError, hfetch]

theorem upon_readReadme (h : o.repository.SameWithin o.config.scope r') (w : World σ)
    (hpath : ∀ path, run.legacyTree.readme? = some path → w.signals.isAborted signal = false →
      w.cache.get? run.repoUrl path = none → o.config.scope.allows path = true) :
    (o.upon r').readReadme signal run w = o.readReadme signal run w := by
  unfold readReadme
  cases hreadme : run.legacyTree.readme? with
  | none => rfl
  | some path => exact bind_congr_at (upon_readSource h w (hpath path hreadme)) fun _ _ _ => rfl

theorem upon_readSources (h : o.repository.SameWithin o.config.scope r') {paths : List String}
    (hpaths : ∀ path ∈ paths, o.config.scope.allows path = true) (sources : SourceFiles) :
    (o.upon r').readSources url signal paths sources = o.readSources url signal paths sources := by
  induction paths generalizing sources with
  | nil => rfl
  | cons path paths ih =>
      rw [List.forall_mem_cons] at hpaths
      have hread : (o.upon r').readSource url path signal = o.readSource url path signal :=
        funext fun w => upon_readSource h w fun _ _ => hpaths.1
      simp only [readSources, hread, ih hpaths.2]

theorem upon_scaffold (h : o.repository.SameWithin o.config.scope r') (w : World σ)
    (hrun : run.InScope o.config.scope) :
    (o.upon r').scaffold signal (w, run) = o.scaffold signal (w, run) := by
  have hread : (o.upon r').readSources run.repoUrl signal
      (Priority.first run.scopedFiles o.config.scaffoldFileLimit) ∅ =
      o.readSources run.repoUrl signal
        (Priority.first run.scopedFiles o.config.scaffoldFileLimit) ∅ :=
    upon_readSources h (fun path hpath => hrun path (Priority.mem_of_mem_first hpath)) ∅
  refine bind_congr_at rfl fun started s hstarted => bind_congr_at rfl fun run' s' hheld => ?_
  obtain rfl : run = run' := by
    cases hstarted
    cases hheld
    rfl
  refine bind_congr_at rfl fun _ s₁ _ => bind_congr_at ?_ fun sources s₂ _ => rfl
  exact congrArg (fun task => WorkOn.ofWork task s₁) hread

end Orchestrator

namespace PhaseCall

variable {o : Orchestrator σ} {r' : Repository σ} {run : Run}

/-- A phase that is called on a run does the same over both repositories. -/
theorem upon_task (h : o.repository.SameWithin o.config.scope r') (signal : SignalId) (w : World σ)
    (hrun : run.InScope o.config.scope) (call : PhaseCall) :
    call.task (o.upon r') signal (w, run) = call.task o signal (w, run) := by
  cases call with
  | scaffold => exact Orchestrator.upon_scaffold h w hrun
  | generate => rfl
  | verify => rfl
  | regenerate path instructions => rfl

/-- A phase that is called on a run reads files in scope, and adds none to them. -/
theorem reads_leaves (o : Orchestrator σ) (signal : SignalId) (w : World σ)
    (hrun : run.InScope o.config.scope) (call : PhaseCall) :
    w.Since (Deed.ReadsWithin o.config.scope) (leaves (call.task o signal) (w, run)).1 ∧
      (leaves (call.task o signal) (w, run)).2.InScope o.config.scope := by
  have hreads : Run.ReadsWithin o.config.scope (w, run) (leaves (call.task o signal) (w, run)) :=
    ends_iff_leaves.mp (call.ends_reads o signal w hrun)
  refine ⟨hreads.since, ?_⟩
  rw [Run.InScope, hreads.scopedFiles]
  exact hrun

end PhaseCall

namespace Orchestrator

variable {o : Orchestrator σ} {r' : Repository σ}

/-- Phases that are called one after another do the same over both repositories. -/
theorem upon_callEach (h : o.repository.SameWithin o.config.scope r') {run : Run}
    (hrun : run.InScope o.config.scope) (calls : List (PhaseCall × SignalId × World σ)) :
    (o.upon r').callEach run calls = o.callEach run calls := by
  induction calls generalizing run with
  | nil => rfl
  | cons c calls ih =>
      rcases c with ⟨call, signal, w⟩
      have hleaves : leaves (call.task (o.upon r') signal) (w, run) =
          leaves (call.task o signal) (w, run) := by
        rw [leaves, leaves, call.upon_task h signal w hrun]
      simp only [callEach, hleaves, ih (call.reads_leaves o signal w hrun).2]

/-- Phases that are called one after another read files in scope, and add none to them. -/
theorem callEach_reads (o : Orchestrator σ) {run : Run} (hrun : run.InScope o.config.scope)
    (calls : List (PhaseCall × SignalId × World σ)) :
    List.Forall₂ (fun c w' => c.2.2.Since (Deed.ReadsWithin o.config.scope) w') calls
        (o.callEach run calls).1 ∧
      (o.callEach run calls).2.InScope o.config.scope := by
  induction calls generalizing run with
  | nil => exact ⟨.nil, hrun⟩
  | cons c calls ih =>
      rcases c with ⟨call, signal, w⟩
      have hcall := call.reads_leaves o signal w hrun
      have hlater := ih hcall.2
      exact ⟨.cons hcall.1 hlater.1, hlater.2⟩

end Orchestrator

variable {signal : SignalId}

section Attempts

variable {allowed : Deed → Prop} [Deed.HasRoom allowed] {w w₀ : World σ}

/-- Under a live signal, attempts at a task do what the first of them does before anything else. -/
theorem Work.since_attempts {α : Type} {task : Work σ ServiceError α} (policy : RetryPolicy)
    (hlive : w.signals.isAborted signal = false) (htask : Does allowed task)
    (hfirst : EndsSince allowed w₀ task w) (left number : Nat) :
    EndsSince allowed w₀ (attempts policy signal task left number) w := by
  cases left with
  | zero => exact (ends_of_eq (bind_of_ok (check_of_live hlive)) _ _).mpr hfirst
  | succ left =>
      refine (ends_of_eq (bind_of_ok (check_of_live hlive)) _ _).mpr ?_
      rw [ends_bind, ends_attempt]
      refine hfirst.mono (fun _ _ h => h) (fun stop w₁ h₁ => ?_)
      cases stop with
      | dropped => exact h₁
      | failed e =>
          -- Whether there is another attempt or not, it is only added to what was done by now.
          have hrest : Does allowed (do
              if e.isRetryable then
                pause policy signal number
                attempts policy signal task left (number + 1)
              else fail e) := by
            refine does_ite ?_ (does_fail e)
            refine (does_pause Deed.HasRoom.cancelled Deed.HasRoom.paused policy signal number).bind
              fun _ => ?_
            exact does_attempts Deed.HasRoom.cancelled Deed.HasRoom.paused policy signal htask _ _
          exact hrest.after h₁

end Attempts

namespace Orchestrator

variable {o : Orchestrator σ} {run : Run} {url path : String}

section Reading

variable {allowed : Deed → Prop} [Deed.HasRoom allowed] {w : World σ}

theorem since_call (hlive : w.signals.isAborted signal = false) (r : Request) :
    EndsSince allowed (w.note (.asked r)) (o.call signal r) w := by
  refine since_asPhase ?_
  exact Work.since_attempts _ hlive (o.service.aside_call signal r)
    (o.service.since_call signal r w) _ _

/-- Under a live signal the analysis is asked for first, once the introduction was read. -/
theorem since_introduced (hlive : w.signals.isAborted signal = false) (run : Run) (started : Nat) :
    EndsSince allowed (w.note (.asked (o.analysisRequest run))) (o.introduced signal run started) w := by
  have hcheck : (Work.check signal).asPhase w = .ok () w := by
    simp only [Work.asPhase, Work.mapError, Work.check_of_live hlive]
  refine (ends_of_eq (bind_of_ok hcheck) _ _).mpr ?_
  refine (EndsSince.bind ((since_call hlive _).bind fun response => ?_) fun analysis =>
    o.aside_drawn signal _ started)
  exact (aside_log _ _ _).bind fun _ => does_pure _

theorem readSource_apply (o : Orchestrator σ) (w : World σ) :
    o.readSource url path signal w =
      if w.signals.isAborted signal = true then .error (.failed .cancelled) w
      else
        match w.cache.get? url path with
        | some content => .ok (.ok content) w
        | none => (o.repository.readFile signal url path).asPhase w := by
  rw [readSource, Work.asPhase, Work.mapError, Repository.fetchFile_apply]
  by_cases haborted : w.signals.isAborted signal = true
  · rw [if_pos haborted, if_pos haborted]
    rfl
  · rw [if_neg haborted, if_neg haborted]
    cases w.cache.get? url path with
    | some content => rfl
    | none => rfl

/-- An introduction is read only under a live signal, and only if the cache does not have it. -/
theorem since_readReadme (o : Orchestrator σ) (run : Run) (w : World σ)
    (hread : ∀ path, run.legacyTree.readme? = some path → w.signals.isAborted signal = false →
      w.cache.get? run.repoUrl path = none → allowed (.read run.repoUrl path)) :
    EndsSince allowed w (o.readReadme signal run) w := by
  unfold readReadme
  cases hreadme : run.legacyTree.readme? with
  | none => exact .refl w
  | some path =>
      refine EndsSince.bind ?_ fun content? => ?_
      · by_cases hmissing : w.signals.isAborted signal = false ∧ w.cache.get? run.repoUrl path = none
        · exact o.does_readSource signal (hread path hreadme hmissing.1 hmissing.2) w
        · unfold EndsSince Ends
          rw [readSource_apply]
          by_cases haborted : w.signals.isAborted signal = true
          · rw [if_pos haborted]
            exact .refl w
          · rw [if_neg haborted]
            cases hcached : w.cache.get? run.repoUrl path with
            | some content => exact .refl w
            | none => exact absurd ⟨Bool.eq_false_iff.mpr haborted, hcached⟩ hmissing
      · cases content? with
        | ok content => exact does_pure _
        | error e => exact (aside_log _ _ _).bind fun _ => does_pure none

/-- An introduction that the cache does not have is read. -/
theorem since_readReadme_of_missing (hreadme : run.legacyTree.readme? = some path)
    (hlive : w.signals.isAborted signal = false) (hmissing : w.cache.get? run.repoUrl path = none) :
    EndsSince allowed (w.note (.read run.repoUrl path)) (o.readReadme signal run) w := by
  have hsource : o.readSource run.repoUrl path signal w =
      (o.repository.readFile signal run.repoUrl path).asPhase w := by
    rw [readSource_apply, if_neg (Bool.eq_false_iff.mp hlive), hmissing]
  rw [readReadme, hreadme]
  refine EndsSince.bind ?_ fun content? => ?_
  · refine (ends_of_eq hsource _ _).mpr ?_
    exact since_asPhase (o.repository.since_readFile signal w)
  · cases content? with
    | ok content => exact does_pure _
    | error e => exact (aside_log _ _ _).bind fun _ => does_pure none

/-- What a survey has done by the time at which it has come to a run. -/
theorem since_survey {w₁ : World σ} (hsurvey : o.survey url signal w = .ok run w₁) :
    w.Since allowed w₁ := by
  have hends : EndsSince allowed w (o.survey url signal) w := o.aside_survey signal url w
  exact hends.of_ok hsurvey

end Reading

/-- The files that a survey finds are in scope. -/
theorem ends_survey (o : Orchestrator σ) (url : String) (signal : SignalId) (w : World σ) :
    Ends (o.survey url signal) w (fun run _ => run.repoUrl = url ∧ run.InScope o.config.scope)
      (fun _ _ => True) := by
  rw [survey, ends_bind, Work.ends_log, ends_bind]
  refine (ends_any _ _).mono (fun fetched w _ => ?_) (fun _ _ _ => trivial)
  cases fetched with
  | error e => exact trivial
  | ok tree =>
      simp only []
      by_cases hempty : (tree.filePaths.filter o.config.scope.allows).isEmpty = true
      · rw [if_pos hempty]
        exact trivial
      · rw [if_neg hempty]
        exact ⟨rfl, fun path hpath => List.of_mem_filter hpath⟩

/-- What goes on once the introduction was read adds no files to those in scope. -/
theorem ends_introduced (o : Orchestrator σ) (signal : SignalId) (run : Run)
    (hrun : run.InScope o.config.scope) (started : Nat) (w : World σ) :
    Ends (o.introduced signal run started) w (fun run' _ => run'.InScope o.config.scope)
      (fun _ _ => True) := by
  rw [introduced, ends_bind]
  refine (ends_any _ _).mono (fun _ w _ => ?_) (fun _ _ _ => trivial)
  rw [ends_bind]
  refine (ends_any _ _).mono (fun analysis w _ => ?_) (fun _ _ _ => trivial)
  by_cases hdiagram : o.config.generateDiagram = true
  · rw [if_pos hdiagram, ends_bind]
    exact (ends_any _ _).mono (fun _ _ _ => hrun) (fun _ _ _ => trivial)
  · rw [if_neg hdiagram]
    exact hrun

/-- The files of a run that an analysis comes to are in scope. -/
theorem ends_inScope (o : Orchestrator σ) (url : String) (signal : SignalId) (w : World σ) :
    Ends (o.analyze url signal) w (fun run _ => run.InScope o.config.scope) (fun _ _ => True) := by
  rw [analyze, ends_bind]
  refine (ends_any _ _).mono (fun started w _ => ?_) (fun _ _ _ => trivial)
  rw [ends_bind]
  refine (o.ends_survey url signal w).mono (fun run w hrun => ?_) (fun _ _ _ => trivial)
  rw [ends_bind]
  refine (ends_any _ _).mono (fun readme w _ => ?_) (fun _ _ _ => trivial)
  exact o.ends_introduced signal { run with readme } hrun.2 started w

end Orchestrator

end Replatform
