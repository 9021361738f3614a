import Replatform.Proofs.Migration.Coherence
import Replatform.Proofs.Migration.Mirror
import Replatform.Proofs.Session.State

/-!
# What a Session Tells

What the calls of a session do to its run. A migration begins with a run that has nothing of a project
yet, and a call on the run goes on with the one that there is. Both keep the run in whatever way the
phases end, so that what can be said of the phases can be said of the session. What survives every change
that a phase makes holds of the run of every session between calls. In particular the parts of such a run
belong together.

Whoever watches a session has to know the targets of a migration and what was told since it was run. The
project is then the tree of the targets with the events replayed onto it, whatever calls followed and
however they ended: each new status was told, each content when it was complete, and nothing else that
was told changes the tree.

A call to run a migration begins with a tree of its own, so that what was told before does not matter.
Every other call goes on with the tree that there is, or leaves none.

## Main definitions

* `SessionCall.isRun`: The call is to run a migration.
* `toldSinceRun`: What was told since a migration was last run.
* `Session.Continues`: The run of a session goes on from the one before.

## Theorems

* `Session.ends_run`, `Session.ends_followUp_run`: The run after a call, in terms of the phases.
* `Session.Reached.lasting`: What lasts holds of the run of every session.
* `Session.Reached.inOrder`: The parts of the run of a session belong together.
* `Session.recounts_run`, `Session.continues_task`: What each call tells of the project.
* `Session.tree_eq_replay_of_reached`: The project is what was told of it.
-/

namespace Replatform

variable {σ α : Type}

section Lasting

theorem Stop.Fails.imp {ε : Type} {stop : Stop ε} {P Q : ε → Prop} (h : stop.Fails P)
    (hPQ : ∀ e, P e → Q e) : stop.Fails Q := by
  cases stop with
  | failed e => exact hPQ e h
  | dropped => exact trivial

theorem Stop.fails_of_ne_dropped {ε : Type} {stop : Stop ε} {P : Prop} (h : stop ≠ .dropped → P) :
    stop.Fails fun _ => P := by
  cases stop with
  | failed e => exact h (Stop.failed_ne_dropped e)
  | dropped => exact trivial

namespace Session

variable {w : World σ} {s : Session}

/-- There is a run after a migration only if the analysis has come to one, and it is what the phases
    leave that come after the analysis. -/
theorem ends_run (o : Orchestrator σ) (url : String) (h : Sound w s) {P : World σ → Run → Prop}
    (hphases : ∀ signal, Ends (o.analyze url signal) (launched w s).1
      (fun r w₁ => Ends (onward o signal) (w₁, r) (fun _ st => P st.1 st.2)
        (fun stop st => stop ≠ .dropped → P st.1 st.2)) (fun _ _ => True)) :
    Ends ((SessionCall.run url).task o) (w, s) (fun _ st => ∀ r, st.2.run = some r → P st.1 r)
      (fun stop st => stop.Fails fun _ => ∀ r, st.2.run = some r → P st.1 r) := by
  have hnone := (launched_run h).1
  rw [SessionCall.task, ends_bind, ends_runMigration]
  rcases hst : launched w s with ⟨w₁, s₁⟩
  rw [hst] at hphases hnone
  have hkept : ∀ (st : World σ × Run) (state : SessionState), P st.1 st.2 →
      ∀ r, (s₁.keeping st.2 state).run = some r → P st.1 r := by
    intro st state hst r hr
    rw [keeping, Option.some.injEq] at hr
    exact hr ▸ hst
  refine ends_settle_phases o url _ (fun _ => trivial) ?_
  refine (hphases s₁.signal).mono (fun r w₂ h₂ => ?_) (fun stop w₂ _ => .of_forall fun e r hr => ?_)
  · refine h₂.mono (fun _ st hst => hkept st _ hst) (fun stop st hst => ?_)
    cases stop with
    | failed e => exact hkept st _ (hst (Stop.failed_ne_dropped e))
    | dropped => exact trivial
  · -- The analysis came to nothing, and the run before is gone.
    exact absurd (hr.symm.trans hnone) (Option.some_ne_none r)

/-- If there is a run after a call on the run, it is what the task has left of the one before. -/
theorem ends_followUp_run {phase : Phase} {reason : String}
    {task : SignalId → WorkOn Run σ MigrationError α} {good : α → Run → World σ × Run → Prop}
    {bad : MigrationError → Run → World σ × Run → Prop}
    (h : ∀ r signal, s.run = some r → Ends (task signal) ((readied w s).1, r) (fun a st => good a r st)
      (fun stop st => stop.Fails fun e => bad e r st)) :
    Ends (followUp phase reason task) (w, s)
      (fun a st => ∀ r', st.2.run = some r' → ∃ r, s.run = some r ∧ good a r (st.1, r'))
      (fun stop st => stop.Fails fun e =>
        ∀ r', st.2.run = some r' → ∃ r, s.run = some r ∧ bad e r (st.1, r')) := by
  cases hr : s.run with
  | none =>
      rw [ends_followUp_none hr]
      exact fun r hr' => absurd (hr'.symm.trans ((readied_run w s).trans hr)) (Option.some_ne_none r)
  | some r =>
      rw [ends_followUp hr]
      refine (h r _ hr).mono (fun a st hst r' hr' => ?_) (fun stop st hst => ?_)
      · exact ⟨r, rfl, Option.some.inj hr' ▸ hst⟩
      · cases stop with
        | failed e => exact fun r' hr' => ⟨r, rfl, Option.some.inj hr' ▸ hst⟩
        | dropped => exact trivial

variable {P : Run → Prop}

theorem lasting_run (hP : Run.Lasting P) (hblank : ∀ r : Run, r.IsBlank → P r) (o : Orchestrator σ)
    (url : String) (h : Sound w s) :
    Ends ((SessionCall.run url).task o) (w, s) (fun _ st => ∀ r, st.2.run = some r → P r)
      (fun stop st => stop.Fails fun _ => ∀ r, st.2.run = some r → P r) := by
  refine ends_run o url h (P := fun _ r => P r) fun signal => ?_
  refine (o.ends_analyze url signal _).mono (fun r w₁ hr => ?_) (fun _ _ _ => trivial)
  have hverify : WorkOn.Upholds P (o.verifyIfAny signal) := by
    refine WorkOn.sustains_held.bind fun run => WorkOn.sustains_ite (WorkOn.sustains_log _ _ _) ?_
    exact (hP.upholds_verify o signal).bind fun _ => WorkOn.sustains_pure ()
  have honward : WorkOn.Upholds P (onward o signal) :=
    (hP.upholds_scaffold o signal).bind fun _ => (hP.upholds_generate o signal).bind fun _ => hverify
  exact honward w₁ r (hblank r hr.1)

theorem lasting_followUp {phase : Phase} {reason : String}
    {task : SignalId → WorkOn Run σ MigrationError α} (htask : ∀ signal, WorkOn.Upholds P (task signal))
    (hrun : ∀ r, s.run = some r → P r) :
    Ends (followUp phase reason task) (w, s) (fun _ st => ∀ r, st.2.run = some r → P r)
      (fun stop st => stop.Fails fun _ => ∀ r, st.2.run = some r → P r) := by
  have htasks : ∀ r signal, s.run = some r → Ends (task signal) ((readied w s).1, r)
      (fun _ st => P st.2) (fun stop st => stop.Fails fun _ => P st.2) := fun r signal hr =>
    (htask signal _ r (hrun r hr)).mono (fun _ _ h => h) fun _ _ h => Stop.fails_of_ne_dropped h
  refine (ends_followUp_run htasks).mono (fun _ st hst r hr => ?_) (fun stop st hst => ?_)
  · rcases hst r hr with ⟨-, -, h⟩
    exact h
  · refine hst.imp fun _ hst r hr => ?_
    rcases hst r hr with ⟨-, -, h⟩
    exact h

variable {o : Orchestrator σ} {history : List SessionTurn}

/-- What survives every change that a phase makes, and holds before anything is done, holds of the run
    of every session that calls lead to. -/
theorem Reached.lasting (hP : Run.Lasting P) (hblank : ∀ r : Run, r.IsBlank → P r)
    (h : Reached o history w s) : ∀ r, s.run = some r → P r := by
  induction h with
  | start w => exact fun r hr => absurd hr.symm (Option.some_ne_none r)
  | meanwhile h hw ih => exact ih
  | @called history w w' s s' result h call hend ih =>
      refine WorkOn.holds_of_attempt (P := fun st => ∀ r, st.2.run = some r → P r) ?_ hend
      cases call with
      | begin =>
          rw [SessionCall.task, ends_bind, ends_beginRun, ends_pure]
          exact fun r hr => absurd hr.symm (Option.some_ne_none r)
      | cancel =>
          rw [SessionCall.task, ends_bind, ends_cancel, ends_pure]
          exact ih
      | run url => exact lasting_run hP hblank o url h.sound.1
      | verify =>
          rw [SessionCall.task, verify_eq, ends_bind]
          exact lasting_followUp (hP.upholds_verify o) ih
      | regenerate path instructions =>
          rw [SessionCall.task, regenerate_eq, ends_bind]
          exact lasting_followUp (fun signal => hP.upholds_regenerate o signal path instructions) ih

/-- The parts of the run of a session belong together. -/
theorem Reached.inOrder (h : Reached o history w s) {r : Run} (hr : s.run = some r) : r.InOrder :=
  h.lasting Run.lasting_inOrder (fun _ => Run.IsBlank.inOrder) r hr

end Session

end Lasting

/-- The call is to run a migration. -/
def SessionCall.isRun : SessionCall → Bool
  | .run _ => true
  | _ => false

/-- What was told since a migration was last run, where the latest turn comes first. -/
def toldSinceRun : List SessionTurn → List Event
  | [] => []
  | turn :: earlier => (if turn.call.isRun then [] else toldSinceRun earlier) ++ turn.told

namespace Session

variable {w w' : World σ} {s s' : Session}

theorem since_cancel (w : World σ) (id : SignalId) : w.Since Deed.IsAside (w.cancel id) :=
  World.since_note { w with signals := w.signals.cancel id } trivial

theorem since_readied (w : World σ) (s : Session) : w.Since Deed.IsAside (readied w s).1 := by
  rw [readied]
  by_cases h : w.signals.isAborted s.signal = true
  · rw [if_pos h]
    exact .of_deeds_eq rfl
  · rw [if_neg h]
    exact .refl w

theorem since_launched (w : World σ) (s : Session) : w.Since Deed.IsAside (launched w s).1 := by
  rw [launched]
  by_cases h : s.armed = true ∧ w.signals.isAborted s.signal = false
  · rw [if_pos h]
    exact .refl w
  · rw [if_neg h]
    exact (since_cancel w s.signal).trans (.of_deeds_eq rfl)

/-- If there is a run, there was one before, and what was told in between is what happened to it. -/
def Continues (st st' : World σ × Session) : Prop :=
  ∀ r', st'.2.run = some r' → ∃ r, st.2.run = some r ∧ Run.Mirrors (st.1, r) (st'.1, r')

/-- A migration that is run tells of everything that it does to its project. -/
theorem recounts_run (o : Orchestrator σ) (url : String) (h : Sound w s) :
    Ends ((SessionCall.run url).task o) (w, s)
      (fun _ st => ∀ r, st.2.run = some r → Run.Recounts w (st.1, r))
      (fun stop st => stop.Fails fun _ => ∀ r, st.2.run = some r → Run.Recounts w (st.1, r)) := by
  refine ends_run o url h (P := fun w' r => Run.Recounts w (w', r)) fun signal => ?_
  refine ((o.aside_analyze signal url _).and (o.ends_analyze url signal _)).mono (fun r w₁ h₁ => ?_)
    (fun _ _ _ => trivial)
  -- There is nothing of the project yet, and no targets.
  have hblank : r.tree = Tree.build r.targets := by
    rcases h₁.2.1 with ⟨htree, -, htargets, -⟩
    rw [htree, htargets]
    rfl
  exact o.ends_recounts hblank ((since_launched w s).trans h₁.1)

/-- A call on the run tells of everything that it does to the project. -/
theorem continues_followUp {phase : Phase} {reason : String}
    {task : SignalId → WorkOn Run σ MigrationError α} (htask : ∀ signal, Moves Run.Mirrors (task signal)) :
    Ends (followUp phase reason task) (w, s) (fun _ st => Continues (w, s) st)
      (fun stop st => stop.Fails fun _ => Continues (w, s) st) := by
  have hready : ∀ r, Run.Mirrors (w, r) ((readied w s).1, r) := fun r =>
    ⟨rfl, .of_since (since_readied w s) r.tree⟩
  have htasks : ∀ r signal, s.run = some r → Ends (task signal) ((readied w s).1, r)
      (fun _ st => Run.Mirrors (w, r) st) (fun stop st => stop.Fails fun _ => Run.Mirrors (w, r) st) :=
    fun r signal _ => ((htask signal).after (hready r)).mono (fun _ _ h => h)
      fun _ _ h => Stop.fails_of_ne_dropped h
  exact (ends_followUp_run htasks :)

theorem continues_task (o : Orchestrator σ) {call : SessionCall} (hcall : call.isRun = false) :
    Ends (call.task o) (w, s) (fun _ st => Continues (w, s) st)
      (fun stop st => stop.Fails fun _ => Continues (w, s) st) := by
  cases call with
  | begin =>
      rw [SessionCall.task, ends_bind, ends_beginRun, ends_pure]
      exact fun r hr => absurd hr.symm (Option.some_ne_none r)
  | cancel =>
      rw [SessionCall.task, ends_bind, ends_cancel, ends_pure]
      exact fun r hr => ⟨r, hr, rfl, .of_since (since_cancel w s.signal) r.tree⟩
  | run url => exact absurd hcall.symm Bool.false_ne_true
  | verify =>
      rw [SessionCall.task, verify_eq, ends_bind]
      exact continues_followUp fun signal => o.moves_verify signal Orchestrator.mirrors_corrected
  | regenerate path instructions =>
      rw [SessionCall.task, regenerate_eq, ends_bind]
      exact continues_followUp fun signal => o.mirrors_regenerate signal path instructions

variable {o : Orchestrator σ} {history : List SessionTurn}

/-- In every session with a run, the project is that of the targets with everything replayed that was
    told since the migration was run. -/
theorem tree_eq_replay_of_reached (h : Reached o history w s) {r : Run} (hr : s.run = some r) :
    (Tree.build r.targets).replay (toldSinceRun history) = r.tree := by
  induction h generalizing r with
  | start w => exact absurd hr.symm (Option.some_ne_none r)
  | meanwhile h hw ih => exact ih hr
  | @called history w w' s s' result h call hend ih =>
      have htold : ∀ told, w'.events = w.events ++ told →
          w'.events.drop w.events.length = told := by
        intro told hevents
        rw [hevents, List.drop_left]
      rw [toldSinceRun]
      cases hcall : call.isRun with
      | true =>
          cases call with
          | run url =>
              have hrecounts := WorkOn.holds_of_attempt (recounts_run o url h.sound.1) hend
              rcases hrecounts r hr with ⟨told, hevents, htree⟩
              rw [if_pos rfl, List.nil_append, htold told hevents]
              exact htree.symm
          | _ => exact absurd hcall Bool.false_ne_true
      | false =>
          have hcontinues := WorkOn.holds_of_attempt (continues_task o hcall) hend
          rcases hcontinues r hr with ⟨r₀, hr₀, htargets, told, hevents, htree⟩
          rw [if_neg Bool.false_ne_true, Tree.replay_append, htold told hevents]
          -- What was told before this call led to the tree that it began with.
          have hbefore := ih hr₀
          rw [← show r.targets = r₀.targets from htargets] at hbefore
          rw [hbefore]
          exact htree.symm

/-- A migration is run, its project is verified once more, and a file is generated again. The calls are
    irreducible so that nothing is run while the statement about them is read. -/
@[irreducible] def threeCalls : List (SessionCall × List (Reply ServiceError Response)) :=
  [(.regenerate "a.ts" none, texts ["2"]), (.verify, texts ["\x7b\x7d"]),
    (.run "r", texts ["\x7b\x7d", "[\"a.ts\", \"b.ts\"]", "1", "import './a'", "\x7b\x7d"])]

theorem tree_eq_replay_of_reached_three :
    ∃ r, (follow fromShelf { state := [] } threeCalls).2.2.run = some r ∧
      (Tree.build r.targets).replay
        (toldSinceRun (follow fromShelf { state := [] } threeCalls).1) = r.tree ∧
      r.tree.files.map FileNode.content = [some "2", some "import './a'"] := by
  have hcontent : ((follow fromShelf { state := [] } threeCalls).2.2.run.map fun r =>
      r.tree.files.map FileNode.content) = some [some "2", some "import './a'"] := by decide +kernel
  rcases Option.map_eq_some_iff.mp hcontent with ⟨r, hr, hfiles⟩
  exact ⟨r, hr, tree_eq_replay_of_reached (reached_follow _ _ _) hr, hfiles⟩

end Session

end Replatform
