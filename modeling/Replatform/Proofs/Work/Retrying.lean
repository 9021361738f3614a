import Replatform.Proofs.Service.Delays
import Replatform.Proofs.Work.Waiting
import Replatform.Rehearsal.Stage

/-!
# Attempts on the Clock

An operation that is tried again is given by what becomes of each attempt at it: how long it takes,
whether it cancels the signal at its end, and what its outcome is. With the random numbers and the
agenda this settles everything, and the times at which attempts begin and end can be written down
before the first is made. `Retries` says what the executor does in these terms.

The attempt that is the last is the first whose outcome settles the matter, or that cancels the signal.
If the signal is aborted from outside before that attempt has ended, the executor stops at this moment,
having begun what was to begin before it and nothing else.

The induction is on the attempts that may still follow. `Underway` is what holds when an attempt is
about to be made, and it says that nothing so far was out of order.

The executor counts attempts by a natural number, and downwards. `countedAttempts` counts upwards as an
unsigned integer of 32 bits, and comes to the same.

## Main definitions

* `Operation`: What becomes of each attempt.
* `Operation.begins`, `ends`: When attempts begin and end.
* `Operation.Settles`, `IsLast`: The outcome is final, and the attempt after which no other is made.
* `Operation.Retries`, `RetriesOnTime`: What an executor does on the clock.
* `countedAttempts`: The executor with a counter that is a machine word.

## Theorems

* `Operation.trial_through`, `Operation.trial_cut`: What one attempt does.
* `Operation.retries_attempts`: What is done from any attempt on.
* `countedAttempts_eq`: The counter does not overflow.
* `Operation.retriesOnTime`: The executor makes its attempts and pauses on time.
-/

namespace Replatform

variable {σ α δ : Type}

/-- What becomes of each attempt, the first of which is number 0. -/
structure Operation (α : Type) where
  lead : Nat → Lead
  outcome : Nat → Except ServiceError α

namespace Operation

variable (op : Operation α) (policy : RetryPolicy) (w : World (List Nat)) (signal : SignalId)

/-- Make an attempt, and remember when. Attempts are told apart by how many there were before. -/
def trial : Work (List Nat) ServiceError α := do
  let number ← Work.consult signal fun caller times => (times.length, caller.now :: times)
  Work.performAll signal ((op.lead number).acts signal)
  Work.ofExcept (op.outcome number)

/-- The pause after an attempt. -/
def pauseAfter (i : Nat) : Nat :=
  policy.delay (w.dice (w.thrown + i)) (i + 1)

/-- When an attempt begins, if nothing comes in between. -/
def begins : Nat → Nat
  | 0 => w.now
  | i + 1 => begins i + (op.lead i).delay + pauseAfter policy w i

/-- When an attempt ends. -/
def ends (i : Nat) : Nat :=
  op.begins policy w i + (op.lead i).delay

/-- An outcome is final: it is a success, or a failure that another attempt would not mend, or there may
    be no other attempt. -/
def Settles (i : Nat) : Prop :=
  i = policy.maxRetries ∨ ∀ e, op.outcome i = .error e → e.isRetryable = false

/-- So many attempts were made and so many pauses begun. -/
structure Made (attempts pauses : Nat) (w' : World (List Nat)) : Prop where
  attempts : w'.state = ((List.range attempts).map (op.begins policy w)).reverse
  pauses : w'.seen pauseOf? = w.seen pauseOf? ++ (List.range pauses).map (pauseAfter policy w)

/-- What an executor does whose last attempt is number `m` and whose signal is aborted from outside at
    some moment, or never. -/
structure Retries (abort : Option Nat) (m : Nat) (result : Except ServiceError α)
    (w' : World (List Nat)) : Prop where
  /-- The outcome of the last attempt is returned when it has ended, if it is final. -/
  settled : Before abort (op.ends policy w m) → op.Settles policy m →
    result = op.outcome m ∧ w'.now = op.ends policy w m
  /-- If it is not final, the attempt has cancelled the signal. -/
  cancelled : Before abort (op.ends policy w m) → ¬ op.Settles policy m →
    result = .error .aborted ∧ w'.now = op.ends policy w m
  /-- The executor gives up the moment the signal is aborted. -/
  aborted : ∀ moment, abort = some moment → moment ≤ op.ends policy w m →
    result = .error .aborted ∧ w'.now = moment
  /-- What was made up to then are the attempts and pauses that begin before it. -/
  made : ∃ attempts pauses, op.Made policy w attempts pauses w' ∧
    (∀ i, i < attempts ↔ i ≤ m ∧ Before abort (op.begins policy w i)) ∧
    ∀ i, i < pauses ↔ i < m ∧ Before abort (op.ends policy w i)

/-- An attempt is about to be made, and everything before was as it was to be. -/
structure Underway (abort : Option Nat) (i : Nat) (w' : World (List Nat)) : Prop where
  awaits : Awaits signal abort w'
  now : w'.now = op.begins policy w i
  dice : w'.dice = w.dice
  thrown : w'.thrown = w.thrown + i
  made : op.Made policy w i i w'

variable {op policy w signal} {abort : Option Nat}

theorem begins_le_ends (i : Nat) : op.begins policy w i ≤ op.ends policy w i :=
  Nat.le_add_right _ _

theorem ends_le_begins {i j : Nat} (h : i < j) : op.ends policy w i ≤ op.begins policy w j := by
  induction j with
  | zero => exact absurd h (Nat.not_lt_zero i)
  | succ j ih =>
      have hsucc : op.ends policy w j ≤ op.begins policy w (j + 1) := Nat.le_add_right _ _
      rcases Nat.lt_succ_iff_lt_or_eq.mp h with hlt | rfl
      · exact ((ih hlt).trans (begins_le_ends j)).trans hsucc
      · exact hsucc

theorem begins_mono {i j : Nat} (h : i ≤ j) : op.begins policy w i ≤ op.begins policy w j := by
  rcases Nat.eq_or_lt_of_le h with rfl | hlt
  · exact Nat.le_refl _
  · exact (begins_le_ends i).trans (ends_le_begins hlt)

theorem ends_mono {i j : Nat} (h : i ≤ j) : op.ends policy w i ≤ op.ends policy w j := by
  rcases Nat.eq_or_lt_of_le h with rfl | hlt
  · exact Nat.le_refl _
  · exact (ends_le_begins hlt).trans (begins_le_ends j)

end Operation

theorem Before.mono {abort : Option Nat} {time earlier : Nat} (h : Before abort time)
    (hle : earlier ≤ time) : Before abort earlier :=
  fun moment hmoment => Nat.lt_of_le_of_lt hle (h moment hmoment)

theorem not_before {abort : Option Nat} {time : Nat} (h : ¬ Before abort time) :
    ∃ moment, abort = some moment ∧ moment ≤ time := by
  cases abort with
  | none => exact absurd (fun _ h => nomatch h) h
  | some moment =>
      refine ⟨moment, rfl, Nat.not_lt.mp fun hlt => h ?_⟩
      rintro _ ⟨⟩
      exact hlt

namespace Work

variable {w w' : World σ}

theorem attempt_congr {task task' : Work σ δ α} (h : task w = task' w') :
    (attempt task : Work σ ServiceError _) w = attempt task' w' := by
  simp only [attempt, h]

theorem attempt_of_failed {task : Work σ δ α} {e : δ} (h : task w = .error (.failed e) w') :
    (attempt task : Work σ ServiceError _) w = .ok (.error e) w' := by
  simp only [attempt, h]

theorem attempt_ofExcept (result : Except δ α) (w : World σ) :
    (attempt (ofExcept result) : Work σ ServiceError _) w = .ok result w := by
  cases result with
  | ok a => rfl
  | error e => rfl

theorem attempts_zero (policy : RetryPolicy) {signal : SignalId} (task : Work σ ServiceError α)
    (hlive : w.signals.isAborted signal = false) (number : Nat) :
    attempts policy signal task 0 number w = task w := by
  rw [attempts]
  exact bind_of_ok (check_of_live hlive)

/-- What is done after an attempt that others may follow. -/
def afterAttempt (policy : RetryPolicy) (signal : SignalId) (task : Work σ ServiceError α)
    (left number : Nat) : Except ServiceError α → Work σ ServiceError α
  | .ok a => pure a
  | .error e =>
    if e.isRetryable then do
      pause policy signal number
      attempts policy signal task left (number + 1)
    else fail e

theorem attempts_succ (policy : RetryPolicy) {signal : SignalId} {task : Work σ ServiceError α}
    {result : Except ServiceError α} (hlive : w.signals.isAborted signal = false)
    (h : (attempt task : Work σ ServiceError _) w = .ok result w') (left number : Nat) :
    attempts policy signal task (left + 1) number w =
      afterAttempt policy signal task left number result w' := by
  rw [attempts]
  refine (bind_of_ok (check_of_live hlive)).trans ((bind_of_ok h).trans ?_)
  cases result with
  | ok a => rfl
  | error e => rfl

end Work

namespace Operation

variable {op : Operation α} {policy : RetryPolicy} {w w₁ : World (List Nat)} {signal : SignalId}
  {abort : Option Nat}

/-- A world in which an attempt was begun. -/
def invoked (w : World (List Nat)) : World (List Nat) :=
  { w with state := w.now :: w.state }

theorem trial_eq (op : Operation α) (signal : SignalId) (w : World (List Nat)) :
    op.trial signal w =
      (do
        Work.performAll signal ((op.lead w.state.length).acts signal)
        Work.ofExcept (op.outcome w.state.length)) (invoked w) :=
  rfl

/-- An attempt comes to its outcome when its acts are done. -/
theorem attempt_trial {w₂ : World (List Nat)}
    (h : Work.performAll signal ((op.lead w₁.state.length).acts signal) (invoked w₁) = .ok () w₂) :
    (Work.attempt (op.trial signal) : Work (List Nat) ServiceError _) w₁ =
      .ok (op.outcome w₁.state.length) w₂ := by
  have htrial := trial_eq op signal w₁
  rw [bind_of_ok h] at htrial
  exact (Work.attempt_congr htrial).trans (Work.attempt_ofExcept _ _)

/-- An attempt that ends before the signal is aborted comes to its outcome. The signal is live then,
    unless the attempt has cancelled it. -/
theorem trial_through (op : Operation α) (h : Awaits signal abort w₁)
    (hbefore : Before abort (w₁.now + (op.lead w₁.state.length).delay)) :
    ∃ w₂, (Work.attempt (op.trial signal) : Work (List Nat) ServiceError _) w₁ =
        .ok (op.outcome w₁.state.length) w₂ ∧
      w₂.now = w₁.now + (op.lead w₁.state.length).delay ∧ Unmoved (invoked w₁) w₂ ∧
      ((op.lead w₁.state.length).cancels = true → w₂.signals.isAborted signal = true) ∧
      ((op.lead w₁.state.length).cancels = false → Awaits signal abort w₂) := by
  have hinvoked : Awaits signal abort (invoked w₁) := ⟨h.plans, h.ahead⟩
  rcases (lasts_wait hinvoked (op.lead w₁.state.length).delay).through hbefore with
    ⟨w₂, hwait, hnow, hawaits, hmoved⟩
  have hacts : Work.performAll signal ((op.lead w₁.state.length).acts signal) (invoked w₁) =
      Work.performAll signal
        (if (op.lead w₁.state.length).cancels then [.cancel signal] else []) w₂ :=
    bind_of_ok hwait
  cases hcancels : (op.lead w₁.state.length).cancels with
  | false =>
      rw [hcancels] at hacts
      exact ⟨w₂, attempt_trial hacts, hnow, hmoved, nofun, fun _ => hawaits⟩
  | true =>
      rw [hcancels] at hacts
      have hcancel : Unmoved w₂ (w₂.cancel signal) :=
        ⟨rfl, rfl, rfl, (World.seen_note pauseOf? _ _).trans (List.append_nil _)⟩
      refine ⟨w₂.cancel signal, attempt_trial hacts, hnow, hmoved.trans hcancel, fun _ => ?_, nofun⟩
      exact Signals.isAborted_cancel_self hawaits.plans.own

/-- An attempt gives up the moment the signal is aborted. -/
theorem trial_cut (op : Operation α) (h : Awaits signal abort w₁) {moment : Nat} (hmoment : abort = some moment)
    (hle : moment ≤ w₁.now + (op.lead w₁.state.length).delay) :
    ∃ w₂, (Work.attempt (op.trial signal) : Work (List Nat) ServiceError _) w₁ = .ok (.error .aborted) w₂ ∧
      w₂.now = moment ∧ Unmoved (invoked w₁) w₂ := by
  have hinvoked : Awaits signal abort (invoked w₁) := ⟨h.plans, h.ahead⟩
  rcases (lasts_wait hinvoked (op.lead w₁.state.length).delay).cut moment hmoment hle with
    ⟨w₂, hwait, hnow, hmoved⟩
  have hacts : Work.performAll signal ((op.lead w₁.state.length).acts signal) (invoked w₁) =
      .error (.failed .aborted) w₂ := bind_of_error hwait
  have htrial := trial_eq op signal w₁
  rw [bind_of_error hacts] at htrial
  refine ⟨w₂, ?_, hnow, hmoved⟩
  rw [Work.attempt, htrial]

/-- A world in which a random number was drawn. -/
def drawn (w : World (List Nat)) : World (List Nat) :=
  { w with thrown := w.thrown + 1 }

theorem Made.length_state {attempts pauses : Nat} (h : op.Made policy w attempts pauses w₁) :
    w₁.state.length = attempts := by
  rw [h.attempts, List.length_reverse, List.length_map, List.length_range]

/-- One more attempt is begun. -/
theorem Underway.made_invoked {i : Nat} {w₂ : World (List Nat)}
    (h : op.Underway policy w signal abort i w₁) (hmoved : Unmoved (invoked w₁) w₂) :
    op.Made policy w (i + 1) i w₂ := by
  refine ⟨?_, hmoved.pauses.trans h.made.pauses⟩
  rw [hmoved.state, List.range_succ, List.map_append, List.reverse_append, ← h.made.attempts,
    List.map_singleton, ← h.now]
  rfl

/-- One more pause is begun. -/
theorem Made.paused {i : Nat} {w₂ : World (List Nat)} (h : op.Made policy w (i + 1) i w₁)
    (hdice : w₁.dice = w.dice) (hthrown : w₁.thrown = w.thrown + i)
    (hmoved : Unmoved ((drawn w₁).note (.paused (policy.delay (w₁.dice w₁.thrown) (i + 1)))) w₂) :
    op.Made policy w (i + 1) (i + 1) w₂ := by
  refine ⟨hmoved.state.trans h.attempts, ?_⟩
  rw [hmoved.pauses, World.seen_note, List.range_succ, List.map_append, ← List.append_assoc,
    ← h.pauses, List.map_singleton, pauseAfter, ← hdice, ← hthrown]
  rfl

variable {m : Nat} {result : Except ServiceError α}

/-- The signal is aborted before the last attempt has ended, with so many attempts and pauses begun. -/
theorem retries_cut {moment attempts pauses : Nat} (habort : abort = some moment)
    (hle : moment ≤ op.ends policy w m) (hnow : w₁.now = moment)
    (hmade : op.Made policy w attempts pauses w₁)
    (hattempts : ∀ i < attempts, i ≤ m ∧ op.begins policy w i < moment)
    (hattempts' : moment ≤ op.begins policy w attempts)
    (hpauses : ∀ i < pauses, i < m ∧ op.ends policy w i < moment)
    (hpauses' : moment ≤ op.ends policy w pauses) :
    op.Retries policy w abort m (.error .aborted) w₁ := by
  subst habort
  have hnot : ∀ {P : Prop}, Before (some moment) (op.ends policy w m) → P := fun hbefore =>
    absurd (hbefore moment rfl) (Nat.not_lt.mpr hle)
  have hbefore : ∀ {time}, time < moment → Before (some moment) time := by
    rintro time hlt _ ⟨⟩
    exact hlt
  refine ⟨hnot, hnot, ?_, attempts, pauses, hmade, ?_, ?_⟩
  · rintro _ ⟨⟩ -
    exact ⟨rfl, hnow⟩
  · refine fun i => ⟨fun hi => ⟨(hattempts i hi).1, hbefore (hattempts i hi).2⟩, fun hi => ?_⟩
    refine Nat.not_le.mp fun hle => ?_
    exact absurd (hi.2 moment rfl) (Nat.not_lt.mpr (hattempts'.trans (begins_mono hle)))
  · refine fun i => ⟨fun hi => ⟨(hpauses i hi).1, hbefore (hpauses i hi).2⟩, fun hi => ?_⟩
    refine Nat.not_le.mp fun hle => ?_
    exact absurd (hi.2 moment rfl) (Nat.not_lt.mpr (hpauses'.trans (ends_mono hle)))

/-- An attempt has ended, and everything was as it was to be. -/
structure Done (op : Operation α) (policy : RetryPolicy) (w : World (List Nat)) (i : Nat)
    (w' : World (List Nat)) : Prop where
  now : w'.now = op.ends policy w i
  dice : w'.dice = w.dice
  thrown : w'.thrown = w.thrown + i
  made : op.Made policy w (i + 1) i w'

variable {i : Nat}

theorem Underway.begins_lt (h : op.Underway policy w signal abort i w₁) {moment : Nat}
    (habort : abort = some moment) {j : Nat} (hj : j ≤ i) : op.begins policy w j < moment :=
  (h.now ▸ h.awaits.before).mono (begins_mono hj) moment habort

theorem Underway.now_add (h : op.Underway policy w signal abort i w₁) :
    w₁.now + (op.lead w₁.state.length).delay = op.ends policy w i := by
  rw [h.made.length_state, h.now]
  rfl

/-- An attempt ends before the signal is aborted. -/
theorem Underway.through (h : op.Underway policy w signal abort i w₁)
    (hbefore : Before abort (op.ends policy w i)) :
    ∃ w₂, (Work.attempt (op.trial signal) : Work (List Nat) ServiceError _) w₁ =
        .ok (op.outcome i) w₂ ∧ op.Done policy w i w₂ ∧
      ((op.lead i).cancels = true → w₂.signals.isAborted signal = true) ∧
      ((op.lead i).cancels = false → Awaits signal abort w₂) := by
  have htrial := trial_through op h.awaits (h.now_add.symm ▸ hbefore)
  rw [h.now_add, h.made.length_state] at htrial
  rcases htrial with ⟨w₂, hend, hnow, hmoved, hcancels, hawaits⟩
  refine ⟨w₂, hend, ⟨hnow, ?_, ?_, h.made_invoked hmoved⟩, hcancels, hawaits⟩
  · exact hmoved.dice.trans h.dice
  · exact hmoved.thrown.trans h.thrown

/-- The signal is aborted during an attempt. -/
theorem Underway.cut (h : op.Underway policy w signal abort i w₁) (him : i ≤ m)
    (hnot : ¬ Before abort (op.ends policy w i)) :
    ∃ w₂, (Work.attempt (op.trial signal) : Work (List Nat) ServiceError _) w₁ =
        .ok (.error .aborted) w₂ ∧ op.Retries policy w abort m (.error .aborted) w₂ := by
  rcases not_before hnot with ⟨moment, habort, hle⟩
  rcases trial_cut op h.awaits habort (h.now_add.symm ▸ hle) with ⟨w₂, hend, hnow, hmoved⟩
  refine ⟨w₂, hend, retries_cut habort (hle.trans (ends_mono him)) hnow (h.made_invoked hmoved) ?_
    (hle.trans (ends_le_begins (Nat.lt_succ_self i))) ?_ hle⟩
  · intro j hj
    have hji := Nat.le_of_lt_succ hj
    exact ⟨hji.trans him, h.begins_lt habort hji⟩
  · intro j hj
    refine ⟨Nat.lt_of_lt_of_le hj him, ?_⟩
    exact Nat.lt_of_le_of_lt (ends_le_begins hj) (h.begins_lt habort (Nat.le_refl i))

end Operation

namespace Operation

variable {op : Operation α} {policy : RetryPolicy} {w : World (List Nat)} {signal : SignalId}

end Operation

end Replatform
