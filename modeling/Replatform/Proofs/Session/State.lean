import Replatform.Proofs.Migration.Cancellation
import Replatform.Proofs.Session.History

/-!
# The State of a Session

What a session says about itself between two calls: its state, its signal and its run. Three things
can happen to the state. A phase is entered, which is over by the time somebody can ask; a result is
settled; or the session is put at rest because a migration is begun or cancelled.

The signal is exchanged in two places, and in both the old one is aborted by then. When a migration is
begun the old signal is cancelled first, and a call on the run only takes a new signal when the old
one is aborted. Since nothing makes a signal live again, one signal at most is live at any time,
however often signals are handed out and whoever cancels them.

A run is there as soon as the analysis has come to one. A migration that was begun ahead has no run
yet, which is why a session that runs it need not forget the one before.

## Main definitions

* `SessionState.Shows`: A state says how a call ended.
* `Session.Sound`: What holds of a session between calls.
* `Session.Passes`: What becomes of its signal.
* `Session.Answers`: What a call answers, and in which state it leaves the session.
* `Session.Steady`: What can be said of a session between calls.

## Theorems

* `Session.settles_run`, `Session.settles_followUp`, `Session.settles_task`: What each call leaves.
* `Session.Reached.sound`: What holds between any calls.
* `Session.steady_of_reached`: What can be said of every session between calls.
-/

namespace Replatform

variable {σ ε α β : Type}

/-- A state says how a call ended. -/
structure SessionState.Shows (state : SessionState) (result : Except MigrationError α) : Prop where
  completed : state = .completed ↔ ∃ a, result = .ok a
  idle : state = .idle ↔ result = .error .cancelled
  failed : ∀ message, state = .failed message ↔
    ∃ e, result = .error e ∧ e ≠ .cancelled ∧ e.message = message

theorem SessionState.shows_ok (a : α) : SessionState.Shows .completed (.ok a) where
  completed := ⟨fun _ => ⟨a, rfl⟩, fun _ => rfl⟩
  idle := ⟨nofun, nofun⟩
  failed _ := ⟨nofun, fun ⟨_, h, _⟩ => nomatch h⟩

theorem MigrationError.isCancelled_iff (e : MigrationError) :
    e.isCancelled = true ↔ e = .cancelled := by
  cases e with
  | cancelled => exact ⟨fun _ => rfl, fun _ => rfl⟩
  | _ => exact ⟨nofun, nofun⟩

theorem SessionState.shows_error (e : MigrationError) :
    SessionState.Shows (.afterFailure e) (.error e : Except MigrationError α) := by
  rw [afterFailure]
  by_cases he : e = .cancelled
  · rw [he, if_pos (MigrationError.isCancelled_iff _ |>.mpr rfl)]
    refine ⟨⟨nofun, fun ⟨_, h⟩ => nomatch h⟩, ⟨fun _ => rfl, fun _ => rfl⟩, fun message => ⟨nofun, ?_⟩⟩
    rintro ⟨e', he', hne, -⟩
    rw [Except.error.injEq] at he'
    exact absurd he'.symm hne
  · rw [if_neg fun h => he (e.isCancelled_iff.mp h)]
    refine ⟨⟨nofun, fun ⟨_, h⟩ => nomatch h⟩, ⟨nofun, fun h => ?_⟩, fun message => ⟨fun h => ?_, ?_⟩⟩
    · rw [Except.error.injEq] at h
      exact absurd h he
    · rw [SessionState.failed.injEq] at h
      exact ⟨e, rfl, he, h⟩
    · rintro ⟨e', he', -, hmessage⟩
      rw [Except.error.injEq] at he'
      rw [he', hmessage]

namespace Session

/-- The first phase of a migration, up to the result of the analysis. -/
def analysis (o : Orchestrator σ) (url : String) : WorkOn Session σ MigrationError Run := do
  let signal ← runSignal
  WorkOn.change fun s => { s with armed := false }
  enter .analyze
  WorkOn.ofWork (o.analyze url signal)

/-- What a call answers, and in which state it leaves the session. -/
def Answers (o : Orchestrator σ) (w : World σ) (s : Session)
    (result : Except MigrationError SessionAnswer) (s' : Session) : SessionCall → Prop
  | .begin => result = .ok (.begun s'.signal) ∧ s'.state = .idle ∧ s'.run = none
  | .cancel => result = .ok .done ∧ s'.state = .idle ∧ s'.run = s.run
  | .run url =>
    s'.state.Shows result ∧ (s'.run = none ↔ stopOf? (analysis o url) (w, s) ≠ none)
  | .verify | .regenerate _ _ =>
    (s.run ≠ none → s'.state.Shows result ∧ s'.run ≠ none) ∧
      (s.run = none → s'.state = s.state ∧ s'.run = none)

/-- What holds of a session between calls. -/
structure Sound (w : World σ) (s : Session) : Prop where
  resting : s.state.isRunning = false
  /-- The signal is aborted when it is cancelled. -/
  cancellable : s.signal ∈ w.signals.lineage s.signal
  /-- A migration that was begun and not run has come to nothing yet. -/
  armed : s.armed = true → s.run = none

/-- From one session to another no signal became live again, and one that was exchanged is aborted. -/
structure Passes (w w' : World σ) (s s' : Session) : Prop where
  signals : w.signals.Precede w'.signals
  superseded : s'.signal = s.signal ∨ w'.signals.isAborted s.signal = true
  cancellable : s.signal ∈ w.signals.lineage s.signal → s'.signal ∈ w'.signals.lineage s'.signal

namespace Passes

variable {w w' w'' : World σ} {s s' s'' : Session}

/-- A session that keeps its signal. -/
theorem of_precede (h : w.signals.Precede w'.signals) (hsignal : s'.signal = s.signal) :
    Passes w w' s s' :=
  ⟨h, Or.inl hsignal, fun hmem => hsignal ▸ h.lineage _ hmem⟩

theorem trans (h : Passes w w' s s') (h' : Passes w' w'' s' s'') : Passes w w'' s s'' := by
  refine ⟨h.signals.trans h'.signals, ?_, fun hmem => h'.cancellable (h.cancellable hmem)⟩
  rcases h.superseded with hsame | haborted
  · rcases h'.superseded with hsame' | haborted'
    · exact Or.inl (hsame'.trans hsame)
    · exact Or.inr (hsame ▸ haborted')
  · exact Or.inr (h'.signals.aborted _ haborted)

end Passes

variable {w : World σ} {s : Session}

theorem mem_lineage_fresh (w : World σ) :
    w.freshSignal.1 ∈ w.freshSignal.2.signals.lineage w.freshSignal.1 := by
  change w.signals.next ∈ w.signals.fresh.2.lineage w.signals.next
  rw [Signals.lineage_fresh]
  exact w.signals.mem_lineage_next

/-- A session whose signal is aborted goes on under a new one. -/
theorem passes_readied (w : World σ) (s : Session) :
    Passes w (readied w s).1 s (readied w s).2 := by
  rw [readied]
  by_cases h : w.signals.isAborted s.signal = true
  · rw [if_pos h]
    have hfresh := w.signals.precede_fresh
    exact ⟨hfresh, Or.inr (hfresh.aborted _ h), fun _ => mem_lineage_fresh w⟩
  · rw [if_neg h]
    exact .of_precede (.refl _) rfl

/-- A signal that is exchanged when a migration is begun is cancelled before. -/
theorem passes_begun {s' : Session} (h : s.signal ∈ w.signals.lineage s.signal)
    (hsignal : s'.signal = (w.cancel s.signal).freshSignal.1) :
    Passes w (w.cancel s.signal).freshSignal.2 s s' := by
  have hcancel := w.signals.precede_cancel s.signal
  have hfresh := (w.cancel s.signal).signals.precede_fresh
  refine ⟨hcancel.trans hfresh, Or.inr (hfresh.aborted _ (Signals.isAborted_cancel_self h)), ?_⟩
  rw [hsignal]
  exact fun _ => mem_lineage_fresh _

theorem passes_launched (h : Sound w s) : Passes w (launched w s).1 s (launched w s).2 := by
  rw [launched]
  by_cases hready : s.armed = true ∧ w.signals.isAborted s.signal = false
  · rw [if_pos hready]
    exact .of_precede (.refl _) rfl
  · rw [if_neg hready]
    exact passes_begun h.cancellable rfl

/-- Whatever there was of a migration before is gone when one is run. -/
theorem launched_run (h : Sound w s) :
    (launched w s).2.run = none ∧ (launched w s).2.armed = false := by
  rw [launched]
  by_cases hready : s.armed = true ∧ w.signals.isAborted s.signal = false
  · rw [if_pos hready]
    exact ⟨h.armed hready.1, rfl⟩
  · rw [if_neg hready]
    exact ⟨rfl, rfl⟩

theorem stopOf?_analysis (o : Orchestrator σ) (url : String) (w : World σ) (s : Session) :
    stopOf? (analysis o url) (w, s) =
      stopOf? (o.analyze url (launched w s).2.signal) (launched w s).1 := by
  have hrun := launch_bind w s fun signal => do
    enter .analyze
    WorkOn.ofWork (o.analyze url signal)
  have hanalyze : ∀ (task : Work σ MigrationError Run) (st : World σ × Session),
      stopOf? (do
        enter .analyze
        WorkOn.ofWork task) st = stopOf? task st.1 := by
    intro task st
    change stopOf? (WorkOn.ofWork task) (st.1, { st.2 with state := SessionState.running .analyze }) = _
    simp only [stopOf?, WorkOn.ofWork]
    cases task st.1 with
    | ok r w' => rfl
    | error stop w' => rfl
  rw [← hanalyze]
  unfold stopOf?
  rw [analysis, hrun]

/-- What a call leaves that was driven to its end. -/
structure Settles (o : Orchestrator σ) (w : World σ) (s : Session) (call : SessionCall)
    (result : Except MigrationError SessionAnswer) (w' : World σ) (s' : Session) : Prop where
  sound : Sound w' s'
  passes : Passes w w' s s'
  /-- A signal that is handed out is that of the session. -/
  handed : ∀ id, result = .ok (.begun id) → id = s'.signal
  answers : Answers o w s result s' call

theorem heeding_onward (o : Orchestrator σ) (signal : SignalId) :
    Heeding signal .cancelled (onward o signal) := by
  refine (o.heeding_scaffold signal).bind fun _ => (o.heeding_generate signal).bind fun _ => ?_
  exact o.heeding_verifyIfAny signal

theorem resting_afterFailure (e : MigrationError) :
    (SessionState.afterFailure e).isRunning = false := by
  rw [SessionState.afterFailure]
  by_cases he : e.isCancelled = true
  · rw [if_pos he]
    rfl
  · rw [if_neg he]
    rfl

/-- A run that is settled belongs to no migration that was begun ahead. -/
theorem Sound.keeping {w' : World σ} (h : s.signal ∈ w'.signals.lineage s.signal)
    (harmed : s.armed = false) (r : Run) {state : SessionState} (hstate : state.isRunning = false) :
    Sound w' (s.keeping r state) :=
  ⟨hstate, h, fun harmed' => absurd (harmed.symm.trans harmed') Bool.false_ne_true⟩

theorem settles_run (o : Orchestrator σ) (url : String) (h : Sound w s) :
    Ends ((SessionCall.run url).task o) (w, s)
      (fun a st => Settles o w s (.run url) (.ok a) st.1 st.2)
      (fun stop st => stop.Fails fun e => Settles o w s (.run url) (.error e) st.1 st.2) := by
  have hlaunched := passes_launched h
  rcases launched_run h with ⟨hnone, harmed⟩
  have hanalysis := stopOf?_analysis o url w s
  rw [SessionCall.task, ends_bind, ends_runMigration]
  rcases hst : launched w s with ⟨w₁, s₁⟩
  rw [hst] at hlaunched hnone harmed hanalysis
  refine ends_settle_phases o url _ (fun _ => trivial) ?_
  -- What is known of the session after any more work under its signal.
  have hpasses : ∀ (w' : World σ) (r : Run) (state : SessionState),
      w₁.signals.Precede w'.signals → Passes w w' s (s₁.keeping r state) :=
    fun w' r state hw' => hlaunched.trans (.of_precede hw' rfl)
  have hmem := hlaunched.cancellable h.cancellable
  have hends := ((o.heeding_analyze s₁.signal url).precede w₁).and
    (Ends.self (o.analyze url s₁.signal) w₁)
  refine hends.mono (fun r w₂ h₂ => ?_) (fun stop w₂ h₂ => ?_)
  · -- The analysis came to a run, which is kept from here on.
    have hanalyzed : stopOf? (analysis o url) (w, s) = none := by
      rw [hanalysis, stopOf?, h₂.2]
    have hkept : ∀ (st : World σ × Run) (state : SessionState)
        (result : Except MigrationError SessionAnswer), w₂.signals.Precede st.1.signals →
        state.isRunning = false → state.Shows result → (∀ id, result ≠ .ok (.begun id)) →
        Settles o w s (.run url) result st.1 (s₁.keeping st.2 state) := by
      intro st state result hst hresting hshows hresult
      have hw := h₂.1.trans hst
      exact ⟨.keeping (hw.lineage _ hmem) harmed _ hresting, hpasses _ _ _ hw,
        fun id h => absurd h (hresult id), hshows, nofun, fun hne => absurd hanalyzed hne⟩
    refine ((heeding_onward o s₁.signal).precede (w₂, r)).mono (fun _ st hst => ?_)
      (fun stop st hst => .of_forall fun e => ?_)
    · exact hkept st _ _ hst rfl (SessionState.shows_ok _) nofun
    · exact hkept st _ _ hst (resting_afterFailure e) (SessionState.shows_error e) nofun
  · have hstopped : stopOf? (analysis o url) (w, s) ≠ none := by
      rw [hanalysis, stopOf?, h₂.2]
      exact nofun
    have hnothing : ∀ e, Settles o w s (.run url) (.error e) w₂
        { s₁ with state := .afterFailure e } := fun e =>
      ⟨⟨resting_afterFailure e, h₂.1.lineage _ hmem, fun _ => hnone⟩,
        hlaunched.trans (.of_precede h₂.1 rfl), nofun, SessionState.shows_error e,
        fun _ => hstopped, fun _ => hnone⟩
    exact .of_forall hnothing

/-- What a call on the run leaves. Without a run it leaves the session as it was, except that it may
    have a new signal. -/
theorem settles_followUp (o : Orchestrator σ) (answer : α → SessionAnswer) {phase : Phase}
    {reason : String} {task : SignalId → WorkOn Run σ MigrationError α}
    (htask : ∀ signal, Heeding signal .cancelled (task signal)) {call : SessionCall}
    (hanswer : ∀ a id, answer a ≠ .begun id)
    (hcall : ∀ result s', Answers o w s result s' call ↔
      (s.run ≠ none → s'.state.Shows result ∧ s'.run ≠ none) ∧
        (s.run = none → s'.state = s.state ∧ s'.run = none)) (h : Sound w s) :
    Ends (followUp phase reason task) (w, s)
      (fun a st => Settles o w s call (.ok (answer a)) st.1 st.2)
      (fun stop st => stop.Fails fun e => Settles o w s call (.error e) st.1 st.2) := by
  have hready := passes_readied w s
  have hmem := hready.cancellable h.cancellable
  cases hr : s.run with
  | none =>
      rw [ends_followUp_none hr]
      have hsame : (readied w s).2.state = s.state ∧ (readied w s).2.run = none :=
        ⟨by rw [readied_eq], (readied_run w s).trans hr⟩
      refine ⟨⟨?_, hmem, fun _ => hsame.2⟩, hready, nofun, (hcall _ _).mpr ⟨?_, fun _ => hsame⟩⟩
      · rw [hsame.1]
        exact h.resting
      · exact fun hne => absurd hr hne
  | some r =>
      have hnot : s.armed = false := by
        by_cases harmed : s.armed = true
        · exact absurd ((h.armed harmed).symm.trans hr) nofun
        · exact Bool.eq_false_iff.mpr harmed
      have hkept : ∀ (st : World σ × Run) (state : SessionState)
          (result : Except MigrationError SessionAnswer),
          (readied w s).1.signals.Precede st.1.signals → state.isRunning = false →
          state.Shows result → (∀ id, result ≠ .ok (.begun id)) →
          Settles o w s call result st.1 ((readied w s).2.keeping st.2 state) := by
        intro st state result hst hresting hshows hresult
        have harmed : (readied w s).2.armed = false := by
          rw [readied_eq]
          exact hnot
        refine ⟨.keeping (hst.lineage _ hmem) harmed _ hresting,
          hready.trans (.of_precede hst rfl), fun id h => absurd h (hresult id), ?_⟩
        refine (hcall _ _).mpr ⟨fun _ => ⟨hshows, nofun⟩, fun hnone => ?_⟩
        exact absurd (hnone.symm.trans hr) nofun
      rw [ends_followUp hr]
      refine ((htask _).precede ((readied w s).1, r)).mono (fun a st hst => ?_)
        (fun stop st hst => ?_)
      · refine hkept st _ _ hst rfl (SessionState.shows_ok _) fun id hid => ?_
        rw [Except.ok.injEq] at hid
        exact hanswer a id hid
      · cases stop with
        | failed e => exact hkept st _ _ hst (resting_afterFailure e) (SessionState.shows_error e) nofun
        | dropped => exact trivial

/-- What any call leaves. -/
theorem settles_task (o : Orchestrator σ) (call : SessionCall) (h : Sound w s) :
    Ends (call.task o) (w, s) (fun a st => Settles o w s call (.ok a) st.1 st.2)
      (fun stop st => stop.Fails fun e => Settles o w s call (.error e) st.1 st.2) := by
  cases call with
  | begin =>
      rw [SessionCall.task, ends_bind, ends_beginRun, ends_pure]
      have hpasses : Passes w _ s { s with
          signal := (w.cancel s.signal).freshSignal.1, runId := some (s.runId.getD 0 + 1)
          armed := true, run := none, state := .idle } := passes_begun h.cancellable rfl
      refine ⟨⟨rfl, hpasses.cancellable h.cancellable, fun _ => rfl⟩, hpasses, fun id hid => ?_, ?_⟩
      · rw [Except.ok.injEq, SessionAnswer.begun.injEq] at hid
        exact hid.symm
      · exact ⟨rfl, rfl, rfl⟩
  | cancel =>
      rw [SessionCall.task, ends_bind, ends_cancel, ends_pure]
      have hcancel := w.signals.precede_cancel s.signal
      exact ⟨⟨rfl, hcancel.lineage _ h.cancellable, h.armed⟩, .of_precede hcancel rfl, nofun,
        rfl, rfl, rfl⟩
  | run url => exact settles_run o url h
  | verify =>
      rw [SessionCall.task, verify_eq, ends_bind]
      exact settles_followUp o .verified (fun signal => o.heeding_verify signal) nofun
        (fun _ _ => Iff.rfl) h
  | regenerate path instructions =>
      rw [SessionCall.task, regenerate_eq, ends_bind]
      exact settles_followUp o .regenerated
        (fun signal => o.heeding_regenerate signal path instructions) nofun (fun _ _ => Iff.rfl) h

theorem settles_of_driven {o : Orchestrator σ} {call : SessionCall} {w' : World σ} {s' : Session}
    {result : Except MigrationError SessionAnswer} (h : Sound w s)
    (hend : call.driven o (w, s) = .ok result (w', s')) : Settles o w s call result w' s' := by
  have hends := WorkOn.ends_of_attempt (settles_task o call h) hend
  cases result with
  | ok a => exact hends
  | error e => exact hends

end Session

/-- A signal was installed in a session by the end of a turn, or was handed out in it. -/
def SessionTurn.Installs (turn : SessionTurn) (id : SignalId) : Prop :=
  id = turn.before.signal ∨ id = turn.after.signal ∨ turn.result = .ok (.begun id)

namespace Session

variable {o : Orchestrator σ} {history : List SessionTurn} {w : World σ} {s : Session}

/-- In every session between calls, all signals but its own are aborted. -/
theorem Reached.sound (h : Reached o history w s) :
    Sound w s ∧ ∀ turn ∈ history, ∀ id, turn.Installs id → id ≠ s.signal →
      w.signals.isAborted id = true := by
  induction h with
  | start w =>
      refine ⟨⟨rfl, mem_lineage_fresh w, fun _ => rfl⟩, fun turn hturn => ?_⟩
      exact absurd hturn List.not_mem_nil
  | meanwhile h hw ih =>
      rcases ih with ⟨hsound, hold⟩
      exact ⟨⟨hsound.resting, hw.lineage _ hsound.cancellable, hsound.armed⟩,
        fun turn hturn id hid hne => hw.aborted id (hold turn hturn id hid hne)⟩
  | @called history w w' s s' result h call hend ih =>
      rcases ih with ⟨hsound, hold⟩
      have hsettles := settles_of_driven hsound hend
      -- The signal before the call is the one after it, or was aborted when it was exchanged.
      have hbefore : ∀ id, id = s.signal → id ≠ s'.signal → w'.signals.isAborted id = true := by
        rintro id rfl hne
        rcases hsettles.passes.superseded with hsame | haborted
        · exact absurd hsame.symm hne
        · exact haborted
      refine ⟨hsettles.sound, List.forall_mem_cons.mpr ⟨fun id hid hne => ?_, ?_⟩⟩
      · rcases hid with hid | hid | hid
        · exact hbefore id hid hne
        · exact absurd hid hne
        · exact absurd (hsettles.handed id hid) hne
      · intro turn hturn id hid hne
        by_cases hsame : id = s.signal
        · exact hbefore id hsame hne
        · exact hsettles.passes.signals.aborted id (hold turn hturn id hid hsame)

/-- What can be said of a session between calls. -/
structure Steady (o : Orchestrator σ) (history : List SessionTurn) (w : World σ) (s : Session) :
    Prop where
  /-- No phase is going on. -/
  resting : s.state.isRunning = false
  /-- Every signal that the session ever had is aborted, except for its own. -/
  superseded : ∀ turn ∈ history, ∀ id, turn.Installs id → id ≠ s.signal →
    w.signals.isAborted id = true
  /-- At most one of the signals that were handed out is live. -/
  single : ∀ turn ∈ history, ∀ turn' ∈ history, ∀ id id', turn.result = .ok (.begun id) →
    turn'.result = .ok (.begun id') → w.signals.isAborted id = false →
    w.signals.isAborted id' = false → id = id'
  /-- What the next call answers, whichever it is. -/
  answers : ∀ call result w' s', call.driven o (w, s) = .ok result (w', s') →
    Answers o w s result s' call

/-- Whatever calls were made on a session and whatever signals were cancelled in between: no phase is
    going on, no signal is live but the present one, and the next call leaves a state that says how it
    ended. -/
theorem steady_of_reached (h : Reached o history w s) : Steady o history w s := by
  rcases h.sound with ⟨hsound, hold⟩
  -- A signal that was handed out and is live is the signal of the session.
  have hlive : ∀ turn ∈ history, ∀ id, turn.result = .ok (.begun id) →
      w.signals.isAborted id = false → id = s.signal := by
    intro turn hturn id hid hlive
    by_cases hsame : id = s.signal
    · exact hsame
    · rw [hold turn hturn id (Or.inr (Or.inr hid)) hsame] at hlive
      exact absurd hlive nofun
  exact
    { resting := hsound.resting
      superseded := hold
      single := fun turn hturn turn' hturn' id id' hid hid' hl hl' =>
        (hlive turn hturn id hid hl).trans (hlive turn' hturn' id' hid' hl').symm
      answers := fun call result w' s' hend => (settles_of_driven hsound hend).answers }

/-- Two migrations are begun, of which the second is run and fails in the analysis. There is no run,
    and the signal of the first is aborted. -/
theorem steady_of_reached_failed :
    let reached := follow fromShelf { state := [] }
      [(.run "r", [⟨[], .error (.other "no")⟩]), (.begin, []), (.begin, [])]
    Steady fromShelf reached.1 reached.2.1 reached.2.2 ∧
      reached.2.2.state = .failed "remote call failed: no" ∧ reached.2.2.run.isNone = true ∧
      reached.2.1.signals.isAborted 1 = true := by
  refine ⟨steady_of_reached (reached_follow _ _ _), ?_⟩
  decide +kernel

end Session

end Replatform
