import Replatform.Proofs.Work.Deeds
import Replatform.Proofs.Work.HeedingCalls

/-!
# Waiting on the Clock

When a signal is aborted from outside is known beforehand: it is the moment of the first entry of the
agenda that cancels the signal or one that it depends on. A wait under the signal either lasts as long
as it was meant to, or up to that very moment.

The entries that are left after a wait lie in the future, because those up to its end have happened.
`Awaits` is what holds of a world between waits, and a wait that is not cut short restores it.

## Main definitions

* `abortTime?`: The moment at which a signal is aborted from outside.
* `Before`: A moment comes before that.
* `Awaits`: A signal is live, and what happens outside lies in the future.
* `Lasts`: A task does nothing but wait, and watches a signal meanwhile.

## Theorems

* `Plans.struck`: What is planned for a signal after another was cancelled.
* `lasts_elapse`, `lasts_wait`: How long a wait lasts.
-/

namespace Replatform

variable {σ : Type}

/-- The moment at which the agenda aborts a signal with some lineage. -/
def abortTime? (lineage : List SignalId) : List (Nat × Outside) → Option Nat
  | [] => none
  | (moment, .cancel id) :: rest => if id ∈ lineage then some moment else abortTime? lineage rest
  | (_, .drop) :: rest => abortTime? lineage rest

/-- A moment comes before the one at which a signal is aborted, if it is. -/
def Before (abort : Option Nat) (time : Nat) : Prop :=
  ∀ moment, abort = some moment → time < moment

/-- A signal is live, and an agenda without an end of the task aborts it at some moment or never. -/
structure Plans (signal : SignalId) (abort : Option Nat) (signals : Signals)
    (agenda : List (Nat × Outside)) : Prop where
  live : signals.isAborted signal = false
  own : signal ∈ signals.lineage signal
  sorted : agenda.Pairwise (·.1 ≤ ·.1)
  undropped : ∀ e ∈ agenda, e.2 ≠ .drop
  abort : abortTime? (signals.lineage signal) agenda = abort

/-- What happens outside lies in the future. -/
structure Awaits (signal : SignalId) (abort : Option Nat) (w : World σ) : Prop where
  plans : Plans signal abort w.signals w.agenda
  ahead : ∀ e ∈ w.agenda, w.now < e.1

/-- The length of a pause. -/
def pauseOf? : Deed → Option Nat
  | .paused ms => some ms
  | _ => none

/-- Nothing is done from one world to another but to let time pass. -/
structure Unmoved (w w' : World σ) : Prop where
  state : w'.state = w.state
  dice : w'.dice = w.dice
  thrown : w'.thrown = w.thrown
  pauses : w'.seen pauseOf? = w.seen pauseOf?

/-- A task waits up to some time, but no longer than a signal lives. -/
structure Lasts (signal : SignalId) (abort : Option Nat) (time : Nat)
    (task : Work σ ServiceError Unit) (w : World σ) : Prop where
  through : Before abort time →
    ∃ w', task w = .ok () w' ∧ w'.now = time ∧ Awaits signal abort w' ∧ Unmoved w w'
  cut : ∀ moment, abort = some moment → moment ≤ time →
    ∃ w', task w = .error (.failed .aborted) w' ∧ w'.now = moment ∧ Unmoved w w'

namespace Unmoved

theorem refl (w : World σ) : Unmoved w w :=
  ⟨rfl, rfl, rfl, rfl⟩

theorem trans {w w' w'' : World σ} (h : Unmoved w w') (h' : Unmoved w' w'') : Unmoved w w'' :=
  ⟨h'.state.trans h.state, h'.dice.trans h.dice, h'.thrown.trans h.thrown, h'.pauses.trans h.pauses⟩

end Unmoved

theorem exists_of_abortTime? {lineage : List SignalId} {agenda : List (Nat × Outside)} {moment : Nat}
    (h : abortTime? lineage agenda = some moment) : ∃ e ∈ agenda, e.1 = moment := by
  induction agenda with
  | nil => exact absurd h nofun
  | cons entry rest ih =>
      have hrest : abortTime? lineage rest = some moment → ∃ e ∈ entry :: rest, e.1 = moment := by
        intro h
        rcases ih h with ⟨e, he, hmoment⟩
        exact ⟨e, List.mem_cons_of_mem _ he, hmoment⟩
      rcases entry with ⟨time, what⟩
      cases what with
      | drop => exact hrest h
      | cancel id =>
          rw [abortTime?] at h
          by_cases hid : id ∈ lineage
          · rw [if_pos hid] at h
            exact ⟨_, List.mem_cons_self, Option.some.inj h⟩
          · rw [if_neg hid] at h
            exact hrest h

/-- A signal that will be aborted is not aborted yet. -/
theorem Awaits.before {signal : SignalId} {abort : Option Nat} {w : World σ}
    (h : Awaits signal abort w) : Before abort w.now := by
  intro moment hmoment
  rcases exists_of_abortTime? (h.plans.abort.trans hmoment) with ⟨e, he, rfl⟩
  exact h.ahead e he

variable {signal : SignalId} {abort : Option Nat}

/-- Something is done at once before a wait. -/
theorem Lasts.after {time : Nat} {task task' : Work σ ServiceError Unit} {w w₁ : World σ}
    (h : Lasts signal abort time task' w₁) (hstep : task w = task' w₁) (hmoved : Unmoved w w₁) :
    Lasts signal abort time task w := by
  refine ⟨fun hbefore => ?_, fun moment hmoment hle => ?_⟩
  · rcases h.through hbefore with ⟨w', hend, hnow, hawaits, hmoved'⟩
    exact ⟨w', hstep.trans hend, hnow, hawaits, hmoved.trans hmoved'⟩
  · rcases h.cut moment hmoment hle with ⟨w', hend, hnow, hmoved'⟩
    exact ⟨w', hstep.trans hend, hnow, hmoved.trans hmoved'⟩

/-- The world at the moment at which the agenda has cancelled a signal. -/
def struck (w : World σ) (moment : Nat) (id : SignalId) (rest : List (Nat × Outside)) : World σ :=
  World.cancel { w with now := max w.now moment, agenda := rest } id

theorem unmoved_struck (w : World σ) (moment : Nat) (id : SignalId) (rest : List (Nat × Outside)) :
    Unmoved w (struck w moment id rest) :=
  ⟨rfl, rfl, rfl, (World.seen_note pauseOf? _ _).trans (List.append_nil _)⟩

theorem elapse_struck (watch : SignalId) (time : Nat) {moment : Nat} (id : SignalId)
    (rest : List (Nat × Outside)) (w : World σ) (hlate : ¬ time < moment) :
    Work.elapse watch time ((moment, .cancel id) :: rest) w =
      (do
        Work.check watch
        Work.elapse watch time rest) (struck w moment id rest) := by
  rw [Work.elapse_cons, if_neg hlate]
  rfl

/-- A signal of which the cancelled one is no root goes on to live as it was planned to. -/
theorem Plans.struck {w : World σ} {moment : Nat} {id : SignalId} {rest : List (Nat × Outside)}
    (h : Plans signal abort w.signals ((moment, .cancel id) :: rest))
    (hid : id ∉ w.signals.lineage signal) :
    Plans signal abort (struck w moment id rest).signals rest := by
  have habort := h.abort
  rw [abortTime?, if_neg hid] at habort
  refine ⟨?_, h.own, (List.pairwise_cons.mp h.sorted).2, (List.forall_mem_cons.mp h.undropped).2, habort⟩
  exact (Signals.isAborted_cancel_of_not_mem hid).trans h.live

/-- Time passes up to the moment at which a signal is aborted, if that comes. -/
theorem lasts_elapse {agenda : List (Nat × Outside)} {w : World σ} {time : Nat}
    (h : Plans signal abort w.signals agenda) (hahead : ∀ e ∈ agenda, w.now ≤ e.1) :
    Lasts signal abort time (Work.elapse signal time agenda) w := by
  induction agenda generalizing w with
  | nil =>
      have hnever : abort = none := h.abort.symm
      refine ⟨fun _ => ⟨_, rfl, rfl, ⟨h, nofun⟩, rfl, rfl, rfl, rfl⟩, fun moment hmoment => ?_⟩
      exact absurd (hnever.symm.trans hmoment) nofun
  | cons entry rest ih =>
      rcases entry with ⟨moment, what⟩
      have hfirst := (List.pairwise_cons.mp h.sorted).1
      by_cases hlate : time < moment
      · -- Nothing of the agenda happens up to the end of the wait.
        rw [Work.elapse_cons, if_pos hlate]
        have hlater : ∀ e ∈ (moment, what) :: rest, time < e.1 := List.forall_mem_cons.mpr
          ⟨hlate, fun e he => Nat.lt_of_lt_of_le hlate (hfirst e he)⟩
        refine ⟨fun _ => ⟨_, rfl, rfl, ⟨h, hlater⟩, rfl, rfl, rfl, rfl⟩, fun abortion habort hle => ?_⟩
        rcases exists_of_abortTime? (h.abort.trans habort) with ⟨e, he, rfl⟩
        exact absurd (hlater e he) (Nat.not_lt.mpr hle)
      · cases what with
        | drop => exact absurd rfl (h.undropped _ List.mem_cons_self)
        | cancel id =>
            -- The entry happens at its moment, and the signal is asked then.
            have hstep := elapse_struck signal time id rest w hlate
            have hnow : (struck w moment id rest).now = moment :=
              Nat.max_eq_right (hahead _ List.mem_cons_self)
            by_cases hid : id ∈ w.signals.lineage signal
            · have habort := h.abort
              rw [abortTime?, if_pos hid] at habort
              have haborted : (struck w moment id rest).signals.isAborted signal = true :=
                Signals.isAborted_cancel_of_mem hid
              refine ⟨fun hbefore => absurd (hbefore moment habort.symm) hlate, fun abortion h' _ => ?_⟩
              have hsame : moment = abortion := Option.some.inj (habort.trans h')
              refine ⟨_, ?_, hnow.trans hsame, unmoved_struck w moment id rest⟩
              exact hstep.trans (bind_of_error (Work.check_of_aborted haborted))
            · have hplans := h.struck hid
              refine (ih hplans (hnow.symm ▸ hfirst)).after ?_ (unmoved_struck w moment id rest)
              exact hstep.trans (bind_of_ok (Work.check_of_live hplans.live))

/-- A wait under a live signal lasts as long as it was meant to, or up to the moment at which the signal
    is aborted. -/
theorem lasts_wait {w : World σ} (h : Awaits signal abort w) (ms : Nat) :
    Lasts signal abort (w.now + ms) (Work.wait signal ms) w := by
  rw [Work.wait]
  by_cases hms : ms ≠ 0
  · rw [if_pos hms]
    have helapse : Lasts signal abort (w.now + ms) (Work.elapse signal (w.now + ms) w.agenda) w :=
      lasts_elapse h.plans fun e he => Nat.le_of_lt (h.ahead e he)
    exact helapse.after (bind_of_ok (Work.check_of_live h.plans.live)) (.refl w)
  · -- To wait for no time at all is not to wait, and the signal lives on.
    rw [if_neg hms, Decidable.not_not.mp hms]
    refine ⟨fun _ => ⟨w, rfl, rfl, h, .refl w⟩, fun moment hmoment hle => ?_⟩
    exact absurd (h.before moment hmoment) (Nat.not_lt.mpr hle)

end Replatform
