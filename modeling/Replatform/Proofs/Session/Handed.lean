import Replatform.Proofs.Session.State

/-!
# Signals That Were Handed Out

A migration can be begun ahead of being run, and whoever has its signal can cancel it before it is run.
Such a cancellation is lost. To run a migration whose signal is aborted is to begin another one, under
a signal that nobody else has, and that one goes ahead.

It would be enough to use the signal that was handed out. The first thing that the phases of a
migration start is the listing of the repository, and it is not started under an aborted signal: the
phases give up at once. `LedBy` says both of a task, and the laws for it follow the task down to the
place where the signal is asked.

From the moment at which it is run, a migration heeds its signal like every phase does.

## Main definitions

* `GivesUp`, `StartsWith`, `LedBy`: What a task starts first, under signals that are aborted or live.
* `Session.GoesAhead`: What becomes of a migration whatever was cancelled before it is run.

## Theorems

* `LedBy.bind`, `ledBy_after`, `Work.ledBy_check_bind`: Tasks that are led by what they start.
* `Session.ledBy_phases`: The phases of a migration are led by the listing of the repository.
* `Session.isAborted_launched`, `launched_signal_iff`: The signal that a migration is run under.
* `Session.goesAhead_of_reached`: A migration that is run goes ahead.
-/

namespace Replatform

open InWorld

section Laws

variable {S σ ε α β : Type} [InWorld S σ]

/-- A task is cut without having started anything. -/
def GivesUp (cut : ε) (task : EStateM (Stop ε) S α) (s : S) : Prop :=
  ∃ s', task s = .error (.failed cut) s' ∧ (world s').starts = (world s).starts

/-- A task starts something before it starts anything else, and does start it. -/
def StartsWith (d : Deed) (task : EStateM (Stop ε) S α) (s : S) : Prop :=
  d :: (world s).starts <:+ (world (leaves task s)).starts

/-- Under a live signal a task starts something, before which it starts nothing. Under an aborted one it
    gives up. -/
structure LedBy (signal : SignalId) (cut : ε) (d : Deed) (task : EStateM (Stop ε) S α) : Prop where
  givesUp : ∀ s, (world s).signals.isAborted signal = true → GivesUp cut task s
  startsWith : ∀ s, (world s).signals.isAborted signal = false → StartsWith d task s

variable {signal : SignalId} {cut : ε} {d : Deed}

theorem leaves_bind_of_ok {task : EStateM (Stop ε) S α} {next : α → EStateM (Stop ε) S β} {s s' : S}
    {a : α} (h : task s = .ok a s') : leaves (task >>= next) s = leaves (next a) s' := by
  rw [leaves, leaves, bind_of_ok h]

theorem LedBy.bind {task : EStateM (Stop ε) S α} {next : α → EStateM (Stop ε) S β}
    (h : LedBy signal cut d task) (hnext : ∀ a, Heeding signal cut (next a)) :
    LedBy signal cut d (task >>= next) := by
  refine ⟨fun s haborted => ?_, fun s hlive => (h.startsWith s hlive).trans (starts_bind s hnext)⟩
  rcases h.givesUp s haborted with ⟨s', hend, hstarts⟩
  exact ⟨s', bind_of_error hend, hstarts⟩

/-- What comes before may tell something, but neither starts anything nor touches the signals. -/
theorem ledBy_after {first : EStateM (Stop ε) S α} {next : α → EStateM (Stop ε) S β}
    (hfirst : ∀ s, ∃ a s', first s = .ok a s' ∧ (world s').signals = (world s).signals ∧
      (world s').starts = (world s).starts)
    (h : ∀ a, LedBy signal cut d (next a)) : LedBy signal cut d (first >>= next) := by
  refine ⟨fun s haborted => ?_, fun s hlive => ?_⟩
  · rcases hfirst s with ⟨a, s', hend, hsignals, hstarts⟩
    rcases (h a).givesUp s' (hsignals ▸ haborted) with ⟨s'', hend', hstarts'⟩
    exact ⟨s'', (bind_of_ok hend).trans hend', hstarts'.trans hstarts⟩
  · rcases hfirst s with ⟨a, s', hend, hsignals, hstarts⟩
    rw [StartsWith, leaves_bind_of_ok hend, ← hstarts]
    exact (h a).startsWith s' (hsignals ▸ hlive)

end Laws

variable {σ ε δ τ υ α : Type} {signal : SignalId} {cut : ε} {d : Deed}

namespace Work

/-- The signal is asked before something is started. -/
theorem ledBy_check_bind (hd : d.isStart = true) {next : Work σ ServiceError α}
    (hnext : HeedingLive signal .aborted next) :
    LedBy signal .aborted d (do
      check signal
      note d
      next) := by
  refine ⟨fun w haborted => ⟨w, bind_of_error (check_of_aborted haborted), rfl⟩, fun w hlive => ?_⟩
  have hnote : (w.note d).starts = d :: w.starts := List.filter_cons_of_pos hd
  have hleaves : leaves (do
      check signal
      note d
      next) w = leaves next (w.note d) := leaves_bind_of_ok (check_of_live hlive)
  rw [StartsWith, hleaves]
  exact hnote ▸ (hnext (w.note d) hlive).heeds.starts

theorem ledBy_mapError (f : ε → δ) {task : Work σ ε α} (h : LedBy signal cut d task) :
    LedBy signal (f cut) d (mapError f task) := by
  refine ⟨fun w haborted => ?_, fun w hlive => ?_⟩
  · rcases h.givesUp w haborted with ⟨w', hend, hstarts⟩
    exact ⟨w', mapError_of_failed f hend, hstarts⟩
  · rw [StartsWith, leaves_mapError]
    exact h.startsWith w hlive

end Work

namespace WorkOn

theorem within_of_ok {part : τ → υ} {put : υ → τ → τ} {task : WorkOn υ σ ε α} {w : World σ} {t : τ}
    {a : α} {s : World σ × υ} (h : task (w, part t) = .ok a s) :
    within part put task (w, t) = .ok a (s.1, put s.2 t) := by
  simp only [within, h]

theorem within_of_error {part : τ → υ} {put : υ → τ → τ} {task : WorkOn υ σ ε α} {w : World σ} {t : τ}
    {stop : Stop ε} {s : World σ × υ} (h : task (w, part t) = .error stop s) :
    within part put task (w, t) = .error stop (s.1, put s.2 t) := by
  simp only [within, h]

/-- A part that is worked on in its place is put back in both runs alike. -/
theorem heeding_within (part : τ → υ) (put : υ → τ → τ) {task : WorkOn υ σ ε α}
    (h : Heeding signal cut task) : Heeding signal cut (within part put task) := by
  rintro ⟨w, t⟩
  have hleaves : ∀ w, (leaves (within part put task) (w, t)).1 = (leaves task (w, part t)).1 := by
    intro w
    simp only [leaves, within]
    cases task (w, part t) with
    | ok a s => rfl
    | error stop s => rfl
  rw [HeedsAt, ends_within]
  refine Ends.mono (h (w, part t)) ?_ ?_
  · rintro a s ⟨hheeds, hspared⟩
    change task (w.sparing signal, part t) = _ at hspared
    exact ⟨hheeds, within_of_ok hspared⟩
  · rintro stop s ⟨hheeds, hspared | ⟨hstop, haborted, hstarts⟩⟩
    · change task (w.sparing signal, part t) = _ at hspared
      exact ⟨hheeds, Or.inl (within_of_error hspared)⟩
    · refine ⟨hheeds, Or.inr ⟨hstop, haborted, hstarts.trans ?_⟩⟩
      exact (congrArg World.starts (hleaves (w.sparing signal))).symm ▸ List.suffix_refl _

theorem ledBy_ofWork {task : Work σ ε α} (h : LedBy signal cut d task) :
    LedBy signal cut d (ofWork task : WorkOn τ σ ε α) := by
  refine ⟨fun ⟨w, t⟩ haborted => ?_, fun ⟨w, t⟩ hlive => ?_⟩
  · rcases h.givesUp w haborted with ⟨w', hend, hstarts⟩
    exact ⟨(w', t), ofWork_of_error hend, hstarts⟩
  · rw [StartsWith, leaves_ofWork]
    exact h.startsWith w hlive

end WorkOn

/-- The listing of a repository is what its fetching begins with. -/
theorem Repository.ledBy_fetch (r : Repository σ) (url : String) :
    LedBy signal .aborted (.listed url) (r.fetch signal url) := by
  refine Work.ledBy_check_bind rfl ?_
  refine (Work.heedingLive_consult _).bind fun reply => ?_
  exact (Work.heeding_performAll reply.acts).bind fun _ => heeding_pure reply.result

namespace Orchestrator

variable (o : Orchestrator σ)

theorem ledBy_survey (url : String) :
    LedBy signal .cancelled (.listed url) (o.survey url signal) := by
  refine ledBy_after (fun w => ⟨_, _, rfl, rfl, rfl⟩) fun _ => ?_
  have hfetch : LedBy signal .cancelled (.listed url) (o.repository.fetch signal url).asPhase :=
    Work.ledBy_mapError MigrationError.ofService (o.repository.ledBy_fetch url)
  refine hfetch.bind fun fetched => ?_
  cases fetched with
  | error e => exact Work.heeding_fail _
  | ok tree =>
      exact heeding_ite ((Work.heeding_log _ _ _).bind fun _ => Work.heeding_fail _)
        ((Work.heeding_log _ _ _).bind fun _ => heeding_pure _)

theorem ledBy_analyze (url : String) :
    LedBy signal .cancelled (.listed url) (o.analyze url signal) := by
  refine ledBy_after (fun w => ⟨_, _, rfl, rfl, rfl⟩) fun started => ?_
  exact (o.ledBy_survey url).bind fun run => o.heeding_surveyed signal run started

end Orchestrator

namespace Session

variable {o : Orchestrator σ} {w : World σ} {s : Session}

theorem heeding_onRun {task : WorkOn Run σ MigrationError α}
    (h : Heeding signal .cancelled task) : Heeding signal .cancelled (onRun task) :=
  WorkOn.heeding_within _ _ h

theorem ledBy_phases (o : Orchestrator σ) (url : String) :
    LedBy signal .cancelled (.listed url) (phases o url signal) := by
  refine ledBy_after (fun st => ⟨_, _, rfl, rfl, rfl⟩) fun _ => ?_
  refine (WorkOn.ledBy_ofWork (o.ledBy_analyze url)).bind fun run => ?_
  refine (WorkOn.heeding_change _).bind fun _ => (WorkOn.heeding_change _).bind fun _ => ?_
  refine (heeding_onRun (o.heeding_scaffold signal)).bind fun _ => ?_
  refine (WorkOn.heeding_change _).bind fun _ => ?_
  refine (heeding_onRun (o.heeding_generate signal)).bind fun _ => ?_
  exact (WorkOn.heeding_change _).bind fun _ => heeding_onRun (o.heeding_verifyIfAny signal)

theorem settle_of_failed {task : WorkOn Session σ MigrationError α} {st st' : World σ × Session}
    {e : MigrationError} (h : task st = .error (.failed e) st') :
    settle task st = .error (.failed e) (st'.1, { st'.2 with state := .ofResult (.error e : Except _ α) }) := by
  have hattempt : (WorkOn.attempt task : WorkOn Session σ MigrationError _) st = .ok (.error e) st' := by
    simp only [WorkOn.attempt, h]
  rw [settle, bind_of_ok hattempt]
  rfl

/-- To settle a result is to do nothing in the world. -/
theorem leaves_settle (task : WorkOn Session σ MigrationError α) (st : World σ × Session) :
    (leaves (settle task) st).1 = (leaves task st).1 := by
  have hends := (ends_settle task st (fun _ st' => st'.1 = (leaves task st).1)
    (fun _ st' => st'.1 = (leaves task st).1)).mpr ?_
  · unfold Ends at hends
    unfold leaves at hends ⊢
    cases hsettle : settle task st with
    | ok a st' => rwa [hsettle] at hends
    | error stop st' => rwa [hsettle] at hends
  · unfold Ends leaves
    cases task st with
    | ok a st' => rfl
    | error stop st' => cases stop <;> rfl

theorem ledBy_settle {task : WorkOn Session σ MigrationError α} {d : Deed}
    (h : LedBy signal .cancelled d task) : LedBy signal .cancelled d (settle task) := by
  refine ⟨fun st haborted => ?_, fun st hlive => ?_⟩
  · rcases h.givesUp st haborted with ⟨st', hend, hstarts⟩
    exact ⟨_, settle_of_failed hend, hstarts⟩
  · have hstarts := h.startsWith st hlive
    rw [StartsWith] at hstarts ⊢
    exact (congrArg World.starts (leaves_settle task st)).symm ▸ hstarts

/-- Only signals that were made are cancelled, and the session has one of them. -/
structure Issued (w : World σ) (s : Session) : Prop where
  signal : s.signal < w.signals.next
  cancelled : ∀ id ∈ w.signals.cancelled, id < w.signals.next

theorem Issued.isAborted_next (h : Issued w s) : w.signals.isAborted w.signals.next = false := by
  have hlineage : w.signals.lineage w.signals.next = [w.signals.next] := by
    rw [Signals.lineage, Signals.next, List.getD_eq_getElem?_getD,
      List.getElem?_eq_none (Nat.le_refl _)]
    rfl
  rw [Signals.isAborted, hlineage, List.any_cons, List.any_nil, Bool.or_false]
  refine Bool.eq_false_iff.mpr fun hcancelled => ?_
  exact Nat.lt_irrefl _ (h.cancelled _ (List.contains_iff_mem.mp hcancelled))

theorem Issued.cancel (h : Issued w s) : Issued (w.cancel s.signal) s :=
  ⟨h.signal, List.forall_mem_cons.mpr ⟨h.signal, h.cancelled⟩⟩

/-- The signal that a migration is run under is live. -/
theorem isAborted_launched (h : Issued w s) :
    (launched w s).1.signals.isAborted (launched w s).2.signal = false := by
  rw [launched]
  by_cases hready : s.armed = true ∧ w.signals.isAborted s.signal = false
  · rw [if_pos hready]
    exact hready.2
  · rw [if_neg hready]
    have hnext := h.cancel.isAborted_next
    rwa [Signals.isAborted, ← Signals.lineage_fresh] at hnext

theorem starts_launched (w : World σ) (s : Session) : (launched w s).1.starts = w.starts := by
  rw [launched]
  by_cases hready : s.armed = true ∧ w.signals.isAborted s.signal = false
  · rw [if_pos hready]
  · rw [if_neg hready]
    rfl

theorem runMigration_eq (o : Orchestrator σ) (url : String) (w : World σ) (s : Session) :
    runMigration o url (w, s) =
      settle (phases o url (launched w s).2.signal) (launched w s) :=
  launch_bind w s fun signal => settle (phases o url signal)

/-- A session in which a migration was begun. -/
def begun (w : World σ) (s : Session) : World σ × Session :=
  ((w.cancel s.signal).freshSignal.2,
    { s with
      signal := (w.cancel s.signal).freshSignal.1
      runId := some (s.runId.getD 0 + 1), armed := true, run := none, state := .idle })

theorem launched_of_aborted (haborted : w.signals.isAborted s.signal = true) :
    launched w s = ((begun w s).1, { (begun w s).2 with armed := false }) := by
  have hnot : ¬ (s.armed = true ∧ w.signals.isAborted s.signal = false) := fun hready =>
    absurd (haborted.symm.trans hready.2) nofun
  rw [launched, if_neg hnot]
  rfl

/-- To run a migration under a signal that is aborted is to begin another one first. -/
theorem runMigration_of_aborted (o : Orchestrator σ) (url : String) (h : Issued w s)
    (haborted : w.signals.isAborted s.signal = true) :
    runMigration o url (w, s) =
      (do
        let _ ← beginRun
        runMigration o url) (w, s) := by
  have hlaunched := launched_of_aborted haborted
  -- The migration that is begun has a live signal, and is run under it.
  have hlive := isAborted_launched h
  rw [hlaunched] at hlive
  have hagain : launched (begun w s).1 (begun w s).2 = launched w s := by
    rw [hlaunched, launched, if_pos ⟨rfl, hlive⟩]
  have hbegun : (do
      let _ ← beginRun
      runMigration o url) (w, s) = runMigration o url (begun w s) := rfl
  rw [hbegun, runMigration_eq, runMigration_eq, hagain]

/-- Of the signals that are aborted unless they are that of the session, a migration is run under the one
    that was begun ahead and is live. -/
theorem launched_signal_iff (h : Issued w s) {id : SignalId}
    (hold : id ≠ s.signal → w.signals.isAborted id = true) :
    (launched w s).2.signal = id ↔ s.armed = true ∧ w.signals.isAborted id = false := by
  rw [launched]
  by_cases hready : s.armed = true ∧ w.signals.isAborted s.signal = false
  · rw [if_pos hready]
    refine ⟨fun hsame => ⟨hready.1, hsame ▸ hready.2⟩, fun hid => ?_⟩
    by_cases hsame : id = s.signal
    · exact hsame.symm
    · exact absurd (hold hsame) (hid.2 ▸ Bool.false_ne_true)
  · rw [if_neg hready]
    refine ⟨fun hsame => ?_, fun hid => ?_⟩
    · -- The signal is a new one, which is neither that of the session nor aborted.
      have hnext : id = w.signals.next := hsame.symm
      by_cases hown : id = s.signal
      · exact absurd (hown.symm.trans hnext) (Nat.ne_of_lt h.signal)
      · have haborted := hold hown
        rw [hnext, h.isAborted_next] at haborted
        exact absurd haborted Bool.false_ne_true
    · by_cases hown : id = s.signal
      · exact absurd ⟨hid.1, hown ▸ hid.2⟩ hready
      · exact absurd (hold hown) (hid.2 ▸ Bool.false_ne_true)

/-- What becomes of a migration, whatever was cancelled before it is run. -/
structure GoesAhead (o : Orchestrator σ) (url : String) (history : List SessionTurn) (w : World σ)
    (s : Session) : Prop where
  /-- Under a signal that is aborted the phases would give up at once. -/
  refused : ∀ signal, w.signals.isAborted signal = true →
    GivesUp .cancelled (settle (phases o url signal)) (w, s)
  /-- They are gone through under one that is live. -/
  runs : runMigration o url (w, s) = settle (phases o url (launched w s).2.signal) (launched w s)
  live : (launched w s).1.signals.isAborted (launched w s).2.signal = false
  /-- The repository is listed. -/
  lists : StartsWith (.listed url) (runMigration o url) (w, s)
  /-- A signal that was handed out is used if the migration that was begun with it has not been run
      and the signal is live. -/
  handed : ∀ turn ∈ history, ∀ id, turn.result = .ok (.begun id) →
    ((launched w s).2.signal = id ↔ s.armed = true ∧ w.signals.isAborted id = false)
  /-- Otherwise another migration is begun. -/
  anew : w.signals.isAborted s.signal = true →
    runMigration o url (w, s) =
      (do
        let _ ← beginRun
        runMigration o url) (w, s)

/-- A migration that is run goes ahead. If the signal that was handed out for it was cancelled before,
    this is lost. -/
theorem goesAhead_of_reached {history : List SessionTurn} (h : Reached o history w s)
    (hissued : Issued w s) (url : String) : GoesAhead o url history w s := by
  have hlive := isAborted_launched hissued
  have hruns := runMigration_eq o url w s
  refine ⟨fun signal => (ledBy_settle (ledBy_phases o url)).givesUp (w, s), hruns, hlive, ?_,
    fun turn hturn id hid => ?_, runMigration_of_aborted o url hissued⟩
  · have hbefore : (world (launched w s)).starts = w.starts := starts_launched w s
    have hstarts := (ledBy_settle (ledBy_phases o url)).startsWith (launched w s) hlive
    unfold StartsWith leaves at hstarts ⊢
    rw [hbefore] at hstarts
    rwa [hruns]
  · -- A signal that was handed out and is not that of the session is aborted.
    exact launched_signal_iff hissued (h.sound.2 turn hturn id (Or.inr (Or.inr hid)))

/-- A session that has begun a migration. -/
def begunAhead : List SessionTurn × World (List (Reply ServiceError Response)) × Session :=
  follow fromShelf { state := [] } [(.begin, [])]

/-- Its world after the signal was cancelled by whom it was handed out to. -/
def cancelledAhead : World (List (Reply ServiceError Response)) :=
  { begunAhead.2.1.cancel begunAhead.2.2.signal with
    state := texts ["\x7b\x7d", "[\"a.ts\"]", "1", "\x7b\x7d"] }

theorem reached_cancelledAhead : Reached fromShelf begunAhead.1 cancelledAhead begunAhead.2.2 :=
  (reached_follow fromShelf { state := [] } [(.begin, [])]).meanwhile (Signals.precede_cancel _ _)

theorem goesAhead_of_cancelledAhead :
    GoesAhead fromShelf "r" begunAhead.1 cancelledAhead begunAhead.2.2 ∧
      cancelledAhead.signals.isAborted begunAhead.2.2.signal = true := by
  refine ⟨goesAhead_of_reached reached_cancelledAhead ⟨?_, ?_⟩ "r", ?_⟩
  · decide +kernel
  · decide +kernel
  · decide +kernel

/-- The signal was handed out and is aborted, and the migration is run to its end all the same: the
    repository is listed, a file is read, and the service is asked for everything. -/
theorem not_givesUp_cancelledAhead :
    ∃ turn id, begunAhead.1 = [turn] ∧ turn.result = .ok (.begun id) ∧
      Reached fromShelf [turn] cancelledAhead begunAhead.2.2 ∧
      cancelledAhead.signals.isAborted id = true ∧
      ¬ GivesUp .cancelled (runMigration fromShelf "r") (cancelledAhead, begunAhead.2.2) ∧
      (leaves (runMigration fromShelf "r") (cancelledAhead, begunAhead.2.2)).1.starts.length = 6 := by
  have hends : stopOf? (runMigration fromShelf "r") (cancelledAhead, begunAhead.2.2) = none := by
    decide +kernel
  refine ⟨_, _, rfl, rfl, reached_cancelledAhead, by decide +kernel, ?_, by decide +kernel⟩
  rintro ⟨s', hcut, -⟩
  rw [stopOf?, hcut] at hends
  cases hends

end Session

end Replatform
