import Replatform.Migration.Session
import Replatform.Proofs.Migration.History
import Replatform.Proofs.Work.Heeding

/-!
# The History of a Session

A session is called by somebody, one call after another. Between two calls anything may happen in
the world: time passes, services forget, and whoever holds a signal cancels it. The only thing that
cannot happen is that a signal becomes live again. `Session.Reached` are the sessions that come
about in this way, with the list of what they have been through.

A call is driven to its end here. One that is dropped has no result, and what it leaves is not
a session between calls.

What the calls of a session do besides running phases is to exchange signals and to settle what a
result means. Each of these operations has an equation of its own.

## Main definitions

* `SessionCall`, `SessionAnswer`: What a session is called for, and what it answers.
* `SessionTurn`: What a call did.
* `Session.Reached`: The sessions that calls lead to, with their histories.
* `Session.follow`: Make calls one after another.

## Theorems

* `WorkOn.ends_of_attempt`: What became of a task that was driven to its end.
* `Session.ends_settle`, `Session.ends_onRun`: What a session makes of the end of a phase.
* `Session.reached_follow`: Calls that are made lead to sessions that are reached.
-/

namespace Replatform

variable {σ ε δ τ υ α : Type}

/-- What holds of the failure of a task, if it was not dropped. -/
def Stop.Fails (stop : Stop ε) (P : ε → Prop) : Prop :=
  match stop with
  | .failed e => P e
  | .dropped => True

theorem Stop.Fails.of_forall {stop : Stop ε} {P : ε → Prop} (h : ∀ e, P e) : stop.Fails P := by
  cases stop with
  | failed e => exact h e
  | dropped => exact trivial

namespace WorkOn

/-- What became of a task whose failure was had as a value. -/
theorem ends_of_attempt {task : WorkOn τ σ ε α} {s s' : World σ × τ} {result : Except ε α}
    {good : α → World σ × τ → Prop} {bad : Stop ε → World σ × τ → Prop}
    (h : Ends task s good bad)
    (hend : (attempt task : WorkOn τ σ δ _) s = .ok result s') :
    match result with
    | .ok a => good a s'
    | .error e => bad (.failed e) s' := by
  unfold Ends at h
  rw [attempt] at hend
  cases htask : task s with
  | ok a s₁ =>
      rw [htask] at h hend
      cases hend
      exact h
  | error stop s₁ =>
      rw [htask] at h hend
      cases stop with
      | failed e =>
          cases hend
          exact h
      | dropped => cases hend

/-- What holds of a task however it ends, unless it is dropped, holds when its failure was had as a
    value. -/
theorem holds_of_attempt {task : WorkOn τ σ ε α} {s s' : World σ × τ} {result : Except ε α}
    {P : World σ × τ → Prop}
    (h : Ends task s (fun _ s' => P s') (fun stop s' => stop.Fails fun _ => P s'))
    (hend : (attempt task : WorkOn τ σ δ _) s = .ok result s') : P s' := by
  have hends := ends_of_attempt h hend
  cases result with
  | ok a => exact hends
  | error e => exact hends

/-- To have failures as values is to go on after them, but not after being dropped. -/
theorem ends_attempt (task : WorkOn τ σ ε α) (s : World σ × τ)
    (good : Except ε α → World σ × τ → Prop) (bad : Stop δ → World σ × τ → Prop) :
    Ends (attempt task) s good bad ↔
      Ends task s (fun a => good (.ok a))
        (fun stop s' => match stop with
          | .failed e => good (.error e) s'
          | .dropped => bad .dropped s') := by
  unfold Ends attempt
  cases task s with
  | ok a s' => exact Iff.rfl
  | error stop s' => cases stop <;> exact Iff.rfl

/-- A part that is worked on in its place is put back in any case. -/
theorem ends_within (part : τ → υ) (put : υ → τ → τ) (task : WorkOn υ σ ε α) (w : World σ) (t : τ)
    (good : α → World σ × τ → Prop) (bad : Stop ε → World σ × τ → Prop) :
    Ends (within part put task) (w, t) good bad ↔
      Ends task (w, part t) (fun a s => good a (s.1, put s.2 t))
        (fun stop s => bad stop (s.1, put s.2 t)) := by
  simp only [Ends, within]
  cases task (w, part t) with
  | ok a s => exact Iff.rfl
  | error stop s => exact Iff.rfl

end WorkOn

/-- What a session is called for. -/
inductive SessionCall where
  | begin
  | cancel
  | run (url : String)
  | verify
  | regenerate (path : String) (instructions : Option String)
deriving DecidableEq

/-- What a session answers when it is not a failure. -/
inductive SessionAnswer where
  /-- A migration was begun, and this is the signal to cancel it. -/
  | begun (signal : SignalId)
  | done
  | verified (verdict : Verdict)
  | regenerated (generated : Bool)
deriving DecidableEq

/-- A call as a task. -/
def SessionCall.task (o : Orchestrator σ) : SessionCall → WorkOn Session σ MigrationError SessionAnswer
  | .begin => do
    return .begun (← Session.beginRun)
  | .cancel => do
    Session.cancel
    return .done
  | .run url => do
    Session.runMigration o url
    return .done
  | .verify => do
    return .verified (← Session.verify o)
  | .regenerate path instructions => do
    return .regenerated (← Session.regenerate o path instructions)

/-- A call that is driven to its end, with its failure as a value. -/
def SessionCall.driven (o : Orchestrator σ) (call : SessionCall) :
    WorkOn Session σ MigrationError (Except MigrationError SessionAnswer) :=
  WorkOn.attempt (call.task o)

/-- What a call did: what was answered, what was told, and the session before and after. -/
structure SessionTurn where
  call : SessionCall
  result : Except MigrationError SessionAnswer
  told : List Event
  before : Session
  after : Session

/-- The state that follows from a failure. -/
def SessionState.afterFailure (e : MigrationError) : SessionState :=
  if e.isCancelled then .idle else .failed e.message

namespace Session

/-- The sessions that calls lead to, with the worlds they are in and what they have been through, the
    latest call first. -/
inductive Reached (o : Orchestrator σ) : List SessionTurn → World σ → Session → Prop where
  | start (w : World σ) : Reached o [] (start w).1 (start w).2
  /-- Anything happens between two calls. -/
  | meanwhile {history : List SessionTurn} {w w' : World σ} {s : Session}
      (h : Reached o history w s) (hw : w.signals.Precede w'.signals) : Reached o history w' s
  | called {history : List SessionTurn} {w w' : World σ} {s s' : Session}
      {result : Except MigrationError SessionAnswer} (h : Reached o history w s) (call : SessionCall)
      (hend : call.driven o (w, s) = .ok result (w', s')) :
      Reached o (⟨call, result, w'.events.drop w.events.length, s, s'⟩ :: history) w' s'

/-- A session after calls, the latest call first, with what it has been through. For each call the
    services remember what is given with it. A call that is dropped is left out. -/
def follow (o : Orchestrator σ) (w : World σ) :
    List (SessionCall × σ) → List SessionTurn × World σ × Session
  | [] => ([], start w)
  | (call, state) :: calls =>
    let (history, w, s) := follow o w calls
    match call.driven o ({ w with state }, s) with
    | .ok result (w', s') =>
      (⟨call, result, w'.events.drop w.events.length, s, s'⟩ :: history, w', s')
    | .error _ _ => (history, w, s)

theorem reached_follow (o : Orchestrator σ) (w : World σ) (calls : List (SessionCall × σ)) :
    Reached o (follow o w calls).1 (follow o w calls).2.1 (follow o w calls).2.2 := by
  induction calls with
  | nil => exact .start w
  | cons c calls ih =>
      rcases c with ⟨call, state⟩
      rw [follow]
      rcases hcalls : follow o w calls with ⟨history, w₁, s⟩
      rw [hcalls] at ih
      simp only []
      cases hend : call.driven o ({ w₁ with state }, s) with
      | ok result st =>
          have hready : Reached o history { w₁ with state } s := ih.meanwhile (.refl _)
          exact hready.called call hend
      | error stop st => exact ih

/-- The replies of a service that answers with texts. -/
def texts (replies : List String) : List (Reply ServiceError Response) :=
  replies.map fun text => ⟨[], .ok (.ofText text)⟩

/-- A repository with one file in it, and a service that gives the replies that it has in store. -/
def fromShelf : Orchestrator (List (Reply ServiceError Response)) :=
  { Run.fromStore with
    repository :=
      { list := fun _ _ replies => (⟨[], .ok (Tree.build ["main.js"])⟩, replies)
        read := fun _ _ _ replies => (⟨[], .ok "1"⟩, replies) }
    config := { verificationPasses := 1, generateDiagram := false } }

variable {s : Session} {w : World σ}

/-- Beginning a migration cancels the signal before it and leaves a new one. -/
theorem ends_beginRun (good : SignalId → World σ × Session → Prop)
    (bad : Stop ε → World σ × Session → Prop) :
    Ends beginRun (w, s) good bad ↔
      good (w.cancel s.signal).freshSignal.1 ((w.cancel s.signal).freshSignal.2,
        { s with
          signal := (w.cancel s.signal).freshSignal.1
          runId := some (s.runId.getD 0 + 1), armed := true, run := none, state := .idle }) :=
  Iff.rfl

theorem ends_cancel (good : Unit → World σ × Session → Prop)
    (bad : Stop ε → World σ × Session → Prop) :
    Ends cancel (w, s) good bad ↔ good () (w.cancel s.signal, { s with state := .idle }) :=
  Iff.rfl

/-- A session with a signal for what follows, which is a new one if its own is aborted. -/
def readied (w : World σ) (s : Session) : World σ × Session :=
  if w.signals.isAborted s.signal then (w.freshSignal.2, { s with signal := w.freshSignal.1 })
  else (w, s)

theorem ends_isAborted (signal : SignalId) (good : Bool → World σ × Session → Prop)
    (bad : Stop ε → World σ × Session → Prop) :
    Ends (WorkOn.ofWork (Work.isAborted signal)) (w, s) good bad ↔
      good (w.signals.isAborted signal) (w, s) :=
  Iff.rfl

theorem ends_followUpSignal (good : SignalId → World σ × Session → Prop)
    (bad : Stop ε → World σ × Session → Prop) :
    Ends followUpSignal (w, s) good bad ↔ good (readied w s).2.signal (readied w s) := by
  rw [followUpSignal, ends_bind, WorkOn.ends_held, ends_bind, ends_isAborted, readied]
  by_cases h : w.signals.isAborted s.signal = true
  · rw [if_pos h, if_pos h]
    exact Iff.rfl
  · rw [if_neg h, if_neg h]
    exact Iff.rfl

/-- Only the signal of a session may be another then. -/
theorem readied_eq (w : World σ) (s : Session) :
    (readied w s).2 = { s with signal := (readied w s).2.signal } := by
  rw [readied]
  by_cases h : w.signals.isAborted s.signal = true
  · rw [if_pos h]
  · rw [if_neg h]

theorem readied_run (w : World σ) (s : Session) : (readied w s).2.run = s.run := by
  rw [readied_eq]

/-- A session that runs a migration, under the signal of one that was begun ahead unless that is
    aborted. -/
def launched (w : World σ) (s : Session) : World σ × Session :=
  if s.armed = true ∧ w.signals.isAborted s.signal = false then (w, { s with armed := false })
  else
    ((w.cancel s.signal).freshSignal.2,
      { s with
        signal := (w.cancel s.signal).freshSignal.1
        runId := some (s.runId.getD 0 + 1), armed := false, run := none, state := .idle })

theorem launch_bind (w : World σ) (s : Session) (next : SignalId → WorkOn Session σ ε α) :
    (do
      let signal ← runSignal
      WorkOn.change fun s => { s with armed := false }
      next signal) (w, s) = next (launched w s).2.signal (launched w s) := by
  have hsignal : (runSignal : WorkOn Session σ ε SignalId) (w, s) =
      (if (s.armed && !w.signals.isAborted s.signal) = true then pure s.signal else beginRun) (w, s) :=
    rfl
  by_cases h : s.armed = true ∧ w.signals.isAborted s.signal = false
  · have hcond : (s.armed && !w.signals.isAborted s.signal) = true := by
      rw [h.1, h.2]
      rfl
    rw [if_pos hcond] at hsignal
    rw [launched, if_pos h]
    exact bind_of_ok hsignal
  · have hcond : ¬ (s.armed && !w.signals.isAborted s.signal) = true := fun hcond =>
      h (by rwa [Bool.and_eq_true, Bool.not_eq_true'] at hcond)
    rw [if_neg hcond] at hsignal
    rw [launched, if_neg h]
    exact bind_of_ok hsignal

/-- What a session makes of the end of a task. A task that is dropped is not settled. -/
theorem ends_settle (task : WorkOn Session σ MigrationError α) (st : World σ × Session)
    (good : α → World σ × Session → Prop) (bad : Stop MigrationError → World σ × Session → Prop) :
    Ends (settle task) st good bad ↔
      Ends task st (fun a st' => good a (st'.1, { st'.2 with state := .completed }))
        (fun stop st' => match stop with
          | .failed e => bad (.failed e) (st'.1, { st'.2 with state := .afterFailure e })
          | .dropped => bad .dropped st') := by
  rw [settle, ends_bind, WorkOn.ends_attempt]
  constructor
  · refine fun h => h.mono (fun _ _ h => h) (fun stop st' h => ?_)
    cases stop with
    | failed e => exact h
    | dropped => exact h
  · refine fun h => h.mono (fun _ _ h => h) (fun stop st' h => ?_)
    cases stop with
    | failed e => exact h
    | dropped => exact h

/-- A session with a run and a state. -/
def keeping (s : Session) (r : Run) (state : SessionState) : Session :=
  { s with run := some r, state }

theorem ends_enter {r : Run} {state : SessionState} (phase : Phase)
    (good : Unit → World σ × Session → Prop) (bad : Stop MigrationError → World σ × Session → Prop) :
    Ends (enter phase) (w, s.keeping r state) good bad ↔
      good () (w, s.keeping r (.running phase)) :=
  Iff.rfl

/-- Work on the run of a session is work on the run. -/
theorem ends_onRun {r : Run} {state : SessionState} (task : WorkOn Run σ MigrationError α)
    (good : α → World σ × Session → Prop) (bad : Stop MigrationError → World σ × Session → Prop) :
    Ends (onRun task) (w, s.keeping r state) good bad ↔
      Ends task (w, r) (fun a st => good a (st.1, s.keeping st.2 state))
        (fun stop st => bad stop (st.1, s.keeping st.2 state)) := by
  rw [onRun, WorkOn.ends_within]
  exact Iff.rfl

/-- The phases after the analysis, on the run that it has come to. -/
def onward (o : Orchestrator σ) (signal : SignalId) : WorkOn Run σ MigrationError Unit := do
  o.scaffold signal
  let _ ← o.generate signal
  o.verifyIfAny signal

/-- What a session makes of the phases of a migration. There is a run as soon as the analysis has come
    to one, and it is kept whichever way the phases after it end. A session that is dropped is left in
    the state of some phase. -/
theorem ends_settle_phases_or_dropped (o : Orchestrator σ) (url : String) (signal : SignalId)
    {good : Unit → World σ × Session → Prop} {bad : Stop MigrationError → World σ × Session → Prop}
    (h : Ends (o.analyze url signal) w
      (fun r w₁ => Ends (onward o signal) (w₁, r) (fun _ st => good () (st.1, s.keeping st.2 .completed))
        (fun stop st => match stop with
          | .failed e => bad (.failed e) (st.1, s.keeping st.2 (.afterFailure e))
          | .dropped => ∀ state, bad .dropped (st.1, s.keeping st.2 state)))
      (fun stop w₁ => match stop with
        | .failed e => bad (.failed e) (w₁, { s with state := .afterFailure e })
        | .dropped => ∀ state, bad .dropped (w₁, { s with state }))) :
    Ends (settle (phases o url signal)) (w, s) good bad := by
  -- Whatever state a phase has entered, its failure replaces it.
  have hbad : ∀ (state : SessionState) (stop : Stop MigrationError) (st : World σ × Run),
      (match stop with
        | .failed e => bad (.failed e) (st.1, s.keeping st.2 (.afterFailure e))
        | .dropped => ∀ state, bad .dropped (st.1, s.keeping st.2 state)) →
      match stop with
      | .failed e => bad (.failed e) (st.1, { s.keeping st.2 state with state := .afterFailure e })
      | .dropped => bad .dropped (st.1, s.keeping st.2 state) := by
    intro state stop st h
    cases stop with
    | failed e => exact h
    | dropped => exact h state
  rw [ends_settle, phases, ends_bind, enter, WorkOn.ends_change, ends_bind, WorkOn.ends_ofWork]
  refine h.mono (fun r w₁ h => ?_) (fun stop w₁ h => ?_)
  · -- From here on there is a run, and the phases work on it in its place.
    rw [ends_bind, WorkOn.ends_change]
    change Ends _ (w₁, s.keeping r (.running .analyze)) _ _
    rw [onward, ends_bind] at h
    rw [ends_bind, ends_enter, ends_bind, ends_onRun]
    refine h.mono (fun _ st h => ?_) (fun stop st => hbad _ stop st)
    rw [ends_bind] at h
    rw [ends_bind, ends_enter, ends_bind, ends_onRun]
    refine h.mono (fun _ st h => ?_) (fun stop st => hbad _ stop st)
    rw [ends_bind, ends_enter, ends_onRun]
    exact h.mono (fun _ st h => h) (fun stop st => hbad _ stop st)
  · cases stop with
    | failed e => exact h
    | dropped => exact h _

/-- What a session makes of the phases of a migration, if nothing is asked of one that is dropped. -/
theorem ends_settle_phases (o : Orchestrator σ) (url : String) (signal : SignalId)
    {good : Unit → World σ × Session → Prop} {bad : Stop MigrationError → World σ × Session → Prop}
    (hdropped : ∀ st, bad .dropped st)
    (h : Ends (o.analyze url signal) w
      (fun r w₁ => Ends (onward o signal) (w₁, r) (fun _ st => good () (st.1, s.keeping st.2 .completed))
        (fun stop st => stop.Fails fun e =>
          bad (.failed e) (st.1, s.keeping st.2 (.afterFailure e))))
      (fun stop w₁ => stop.Fails fun e =>
        bad (.failed e) (w₁, { s with state := .afterFailure e }))) :
    Ends (settle (phases o url signal)) (w, s) good bad := by
  refine ends_settle_phases_or_dropped o url signal (h.mono (fun r w₁ h => ?_) fun stop w₁ h => ?_)
  · refine h.mono (fun _ _ h => h) fun stop st h => ?_
    cases stop with
    | failed e => exact h
    | dropped => exact fun _ => hdropped _
  · cases stop with
    | failed e => exact h
    | dropped => exact fun _ => hdropped _

theorem ends_runMigration (o : Orchestrator σ) (url : String)
    (good : Unit → World σ × Session → Prop) (bad : Stop MigrationError → World σ × Session → Prop) :
    Ends (runMigration o url) (w, s) good bad ↔
      Ends (settle (phases o url (launched w s).2.signal)) (launched w s) good bad := by
  have hrun := launch_bind w s fun signal => settle (phases o url signal)
  unfold Ends
  rw [runMigration, hrun]

/-- What is done on the run of a session after the migration was run, if there is a run. -/
def followUp (phase : Phase) (reason : String) (task : SignalId → WorkOn Run σ MigrationError α) :
    WorkOn Session σ MigrationError α := do
  let signal ← followUpSignal
  if (← WorkOn.held).run.isNone then WorkOn.fail (.invalidState reason)
  else
    enter phase
    settle (onRun (task signal))

theorem verify_eq (o : Orchestrator σ) : verify o = followUp .verify "no run to verify" o.verify :=
  rfl

theorem regenerate_eq (o : Orchestrator σ) (path : String) (instructions : Option String) :
    regenerate o path instructions =
      followUp .regenerate "no run to regenerate in" (o.regenerate path instructions) :=
  rfl

section FollowUp

variable {phase : Phase} {reason : String} {task : SignalId → WorkOn Run σ MigrationError α}
  {good : α → World σ × Session → Prop} {bad : Stop MigrationError → World σ × Session → Prop}

theorem ends_followUp_none (hr : s.run = none) :
    Ends (followUp phase reason task) (w, s) good bad ↔
      bad (.failed (.invalidState reason)) (readied w s) := by
  rw [followUp, ends_bind, ends_followUpSignal, ends_bind, WorkOn.ends_held,
    readied_run, hr, if_pos Option.isNone_none]
  exact Iff.rfl

/-- The run is kept whichever way the task ends, and the state says which way it was. -/
theorem ends_followUp {r : Run} (hr : s.run = some r) :
    Ends (followUp phase reason task) (w, s) good bad ↔
      Ends (task (readied w s).2.signal) ((readied w s).1, r)
        (fun a st => good a (st.1, (readied w s).2.keeping st.2 .completed))
        (fun stop st => match stop with
          | .failed e => bad (.failed e) (st.1, (readied w s).2.keeping st.2 (.afterFailure e))
          | .dropped => bad .dropped (st.1, (readied w s).2.keeping st.2 (.running phase))) := by
  have hrun : (readied w s).2.run = some r := (readied_run w s).trans hr
  have hready : (readied w s).2 = (readied w s).2.keeping r (readied w s).2.state := by
    rw [keeping, ← hrun]
  rw [followUp, ends_bind, ends_followUpSignal, ends_bind, WorkOn.ends_held, hrun,
    if_neg (by rw [Option.isNone_some]; exact Bool.false_ne_true), ends_bind]
  generalize task (readied w s).2.signal = work
  rw [hready, ends_enter, ends_settle, ends_onRun]
  constructor
  · refine fun h => h.mono (fun _ _ h => h) (fun stop st h => ?_)
    cases stop with
    | failed e => exact h
    | dropped => exact h
  · refine fun h => h.mono (fun _ _ h => h) (fun stop st h => ?_)
    cases stop with
    | failed e => exact h
    | dropped => exact h

end FollowUp

end Session

end Replatform
