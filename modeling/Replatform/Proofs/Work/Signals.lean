import Replatform.Work.World

/-!
# Signals Along the Deeds

A task takes note of every signal that it sees cancelled. The signals at any moment of it can
therefore be told from the signals at its beginning and the deeds up to that moment, and this
is what an instant of a task is here: a place in its list of deeds.

`Signals.Heeds` says of a list of deeds that nothing which takes a while was started after a
signal was aborted. Nothing makes a signal live again, so that one look at the signal before
each start is as good as watching it all the time.

What a task would have done is what it does in the world in which its signal is never aborted.
That world has the same services and the same agenda, and every other signal is what it is.

## Main definitions

* `Deed.isStart`: Something is started that takes a while.
* `Signals.after`: The signals at a moment of a task.
* `Signals.Heeds`, `World.Heeds`: What was started while a signal was live.
* `Signals.Precede`: Some signals come about from others.
* `Signals.sparing`, `World.sparing`: A signal is never aborted.

## Theorems

* `Signals.isAborted_cancel_of_mem`, `isAborted_cancel_of_not_mem`: What a cancellation aborts.
* `Signals.precede_after`, `precede_cancel`, `precede_fresh`: Nothing makes a signal live again.
* `Signals.Heeds.not_start`: Nothing is started once a signal is aborted.
* `Signals.isAborted_sparing`: What becomes of the signals if one is never aborted.
* `World.Heeds.trans`, `World.Heeds.starts`: One task after another.
-/

namespace Replatform

/-- Something is started that takes a while: a request, the reading of a repository, or a pause before
    another attempt. -/
def Deed.isStart : Deed → Bool
  | .asked _ | .listed _ | .read _ _ | .paused _ => true
  | .told _ | .cancelled _ => false

namespace Signals

/-- The signals after some deeds, of which the latest comes first. -/
def after (s : Signals) : List Deed → Signals
  | [] => s
  | .cancelled id :: deeds => (s.after deeds).cancel id
  | _ :: deeds => s.after deeds

/-- Whatever was started was started while a signal was live. The latest deed comes first. -/
def Heeds (s : Signals) (signal : SignalId) : List Deed → Prop
  | [] => True
  | d :: deeds =>
    (d.isStart = true → (s.after deeds).isAborted signal = false) ∧ s.Heeds signal deeds

/-- Every signal that is aborted stays so, and one that its own cancellation aborts goes on to be. -/
structure Precede (s s' : Signals) : Prop where
  aborted : ∀ id, s.isAborted id = true → s'.isAborted id = true
  lineage : ∀ id, id ∈ s.lineage id → id ∈ s'.lineage id

/-- The signals in a world in which one of them is never aborted. -/
def sparing (s : Signals) (signal : SignalId) : Signals :=
  { s with
    lineages := (List.range (max s.next (signal + 1))).map fun id =>
      if id = signal then [] else s.lineage id }

variable {s : Signals} {signal : SignalId}

theorem after_append (s : Signals) (later earlier : List Deed) :
    s.after (later ++ earlier) = (s.after earlier).after later := by
  induction later with
  | nil => rfl
  | cons d later ih =>
      cases d with
      | cancelled id => exact congrArg (·.cancel id) ih
      | _ => exact ih

theorem isAborted_cancel (id : SignalId) (h : s.isAborted signal = true) :
    (s.cancel id).isAborted signal = true := by
  rw [isAborted, List.any_eq_true] at h ⊢
  rcases h with ⟨root, hroot, hcancelled⟩
  refine ⟨root, hroot, ?_⟩
  rw [List.contains_iff_mem] at hcancelled ⊢
  exact List.mem_cons_of_mem id hcancelled

theorem isAborted_cancel_of_mem {id : SignalId} (h : id ∈ s.lineage signal) :
    (s.cancel id).isAborted signal = true := by
  rw [isAborted, List.any_eq_true]
  exact ⟨id, h, List.contains_iff_mem.mpr List.mem_cons_self⟩

theorem isAborted_cancel_of_not_mem {id : SignalId} (h : id ∉ s.lineage signal) :
    (s.cancel id).isAborted signal = s.isAborted signal := by
  refine Bool.eq_iff_iff.mpr ⟨fun haborted => ?_, isAborted_cancel id⟩
  rw [isAborted, List.any_eq_true] at haborted ⊢
  rcases haborted with ⟨root, hroot, hcancelled⟩
  rw [List.contains_iff_mem] at hcancelled
  rcases List.mem_cons.mp hcancelled with hsame | hcancelled
  · exact absurd (hsame ▸ hroot) h
  · exact ⟨root, hroot, List.contains_iff_mem.mpr hcancelled⟩

/-- Nothing makes a signal live again. -/
theorem isAborted_after (deeds : List Deed) (h : s.isAborted signal = true) :
    (s.after deeds).isAborted signal = true := by
  -- Of all deeds only a cancellation touches the signals, and it cancels one more.
  induction deeds with
  | nil => exact h
  | cons d deeds ih =>
      cases d with
      | cancelled id => exact isAborted_cancel id ih
      | _ => exact ih

theorem lineage_after (s : Signals) (deeds : List Deed) (id : SignalId) :
    (s.after deeds).lineage id = s.lineage id := by
  induction deeds with
  | nil => rfl
  | cons d deeds ih =>
      cases d with
      | cancelled _ => exact ih
      | _ => exact ih

/-- A signal that was not made yet depends on itself alone, and goes on to when it is made. -/
theorem lineage_fresh (s : Signals) (id : SignalId) : s.fresh.2.lineage id = s.lineage id := by
  rw [lineage, lineage, fresh, List.getD_eq_getElem?_getD, List.getD_eq_getElem?_getD]
  -- A signal that was made before, the one that is made, and one that is not made yet.
  rcases Nat.lt_trichotomy id s.lineages.length with hlt | heq | hgt
  · rw [List.getElem?_append_left hlt]
  · rw [heq, List.getElem?_concat_length, List.getElem?_eq_none (Nat.le_refl _)]
    rfl
  · rw [List.getElem?_eq_none (by rw [List.length_append]; exact hgt),
      List.getElem?_eq_none (Nat.le_of_lt hgt)]

theorem mem_lineage_next (s : Signals) : s.next ∈ s.lineage s.next := by
  rw [lineage, next, List.getD_eq_getElem?_getD, List.getElem?_eq_none (Nat.le_refl _)]
  exact List.mem_singleton.mpr rfl

namespace Precede

theorem refl (s : Signals) : s.Precede s :=
  ⟨fun _ h => h, fun _ h => h⟩

theorem trans {s s' s'' : Signals} (h : s.Precede s') (h' : s'.Precede s'') : s.Precede s'' :=
  ⟨fun id hid => h'.aborted id (h.aborted id hid), fun id hid => h'.lineage id (h.lineage id hid)⟩

end Precede

theorem precede_after (s : Signals) (deeds : List Deed) : s.Precede (s.after deeds) :=
  ⟨fun _ => isAborted_after deeds, fun id h => (lineage_after s deeds id).symm ▸ h⟩

theorem precede_cancel (s : Signals) (id : SignalId) : s.Precede (s.cancel id) :=
  ⟨fun _ => isAborted_cancel id, fun _ h => h⟩

theorem precede_fresh (s : Signals) : s.Precede s.fresh.2 := by
  refine ⟨fun id h => ?_, fun id h => (lineage_fresh s id).symm ▸ h⟩
  rw [isAborted, lineage_fresh]
  exact h

theorem isAborted_cancel_self {id : SignalId} (h : id ∈ s.lineage id) :
    (s.cancel id).isAborted id = true :=
  isAborted_cancel_of_mem h

theorem heeds_append {later earlier : List Deed} :
    s.Heeds signal (later ++ earlier) ↔
      s.Heeds signal earlier ∧ (s.after earlier).Heeds signal later := by
  induction later with
  | nil => exact (and_iff_left trivial).symm
  | cons d later ih =>
      rw [List.cons_append, Heeds, ih, Heeds, after_append]
      exact and_left_comm

/-- Nothing is started once a signal is aborted. -/
theorem Heeds.not_start {later earlier : List Deed} (h : s.Heeds signal (later ++ earlier))
    (haborted : (s.after earlier).isAborted signal = true) : ∀ d ∈ later, d.isStart = false := by
  have hlater := (heeds_append.mp h).2
  clear h
  induction later with
  | nil => exact fun d hd => absurd hd List.not_mem_nil
  | cons d later ih =>
      refine List.forall_mem_cons.mpr ⟨?_, ih hlater.2⟩
      by_cases hstart : d.isStart = true
      · -- A start needs a live signal, and the signal is still aborted by then.
        have hlive := hlater.1 hstart
        rw [isAborted_after later haborted] at hlive
        exact absurd hlive (by simp only [Bool.true_eq_false, not_false_eq_true])
      · exact Bool.eq_false_iff.mpr hstart

theorem lineage_sparing (s : Signals) (signal id : SignalId) :
    (s.sparing signal).lineage id = if id = signal then [] else s.lineage id := by
  rw [lineage, sparing, List.getD_eq_getElem?_getD, List.getElem?_map]
  by_cases hid : id < max s.next (signal + 1)
  · rw [List.getElem?_range hid]
    rfl
  · -- A signal that was not made yet depends on itself alone, as it did before.
    have hle := Nat.not_lt.mp hid
    rcases Nat.max_le.mp hle with ⟨hnext, hsignal⟩
    have hne : id ≠ signal := Nat.ne_of_gt hsignal
    rw [← List.length_range (n := max s.next (signal + 1))] at hle
    rw [List.getElem?_eq_none hle, if_neg hne, lineage, List.getD_eq_getElem?_getD,
      List.getElem?_eq_none hnext]
    rfl

/-- The signal is live for good, and every other signal is what it is. -/
theorem isAborted_sparing (s : Signals) (signal id : SignalId) :
    (s.sparing signal).isAborted id = (id != signal && s.isAborted id) := by
  rw [isAborted, lineage_sparing]
  by_cases hid : id = signal
  · rw [if_pos hid, hid, bne_self_eq_false, Bool.false_and, List.any_nil]
  · rw [if_neg hid, bne_iff_ne.mpr hid, Bool.true_and]
    rfl

theorem isAborted_sparing_self (s : Signals) (signal : SignalId) :
    (s.sparing signal).isAborted signal = false := by
  rw [isAborted_sparing, bne_self_eq_false, Bool.false_and]

end Signals

namespace World

variable {σ : Type} {signal : SignalId} {w w' w'' : World σ}

/-- The same world, but in which a signal is never aborted. -/
def sparing (w : World σ) (signal : SignalId) : World σ :=
  { w with signals := w.signals.sparing signal }

/-- What was started, the latest first. -/
def starts (w : World σ) : List Deed :=
  w.deeds.filter Deed.isStart

/-- From one world to another signals were aborted by deeds alone, and whatever was started was
    started while a signal was live. -/
def Heeds (signal : SignalId) (w w' : World σ) : Prop :=
  ∃ deeds, w'.deeds = deeds ++ w.deeds ∧ w'.signals = w.signals.after deeds ∧
    w.signals.Heeds signal deeds

theorem Heeds.of_eq (hdeeds : w'.deeds = w.deeds) (hsignals : w'.signals = w.signals) :
    w.Heeds signal w' :=
  ⟨[], hdeeds, hsignals, trivial⟩

theorem Heeds.refl (w : World σ) : w.Heeds signal w :=
  .of_eq rfl rfl

theorem Heeds.trans (h : w.Heeds signal w') (h' : w'.Heeds signal w'') : w.Heeds signal w'' := by
  rcases h with ⟨deeds, hdeeds, hsignals, hheeds⟩
  rcases h' with ⟨deeds', hdeeds', hsignals', hheeds'⟩
  refine ⟨deeds' ++ deeds, ?_, ?_, Signals.heeds_append.mpr ⟨hheeds, hsignals ▸ hheeds'⟩⟩
  · rw [hdeeds', hdeeds, List.append_assoc]
  · rw [hsignals', hsignals, Signals.after_append]

/-- What was started stays started. -/
theorem Heeds.starts (h : w.Heeds signal w') : w.starts <:+ w'.starts := by
  rcases h with ⟨deeds, hdeeds, -, -⟩
  rw [World.starts, World.starts, hdeeds, List.filter_append]
  exact List.suffix_append _ _

/-- Nothing made a signal live again. -/
theorem Heeds.precede (h : w.Heeds signal w') : w.signals.Precede w'.signals := by
  rcases h with ⟨deeds, -, hsignals, -⟩
  rw [hsignals]
  exact Signals.precede_after w.signals deeds

theorem heeds_tell (w : World σ) (e : Event) : w.Heeds signal (w.tell e) :=
  ⟨[.told e], rfl, rfl, fun hstart => absurd hstart Bool.false_ne_true, trivial⟩

theorem heeds_cancel (w : World σ) (id : SignalId) : w.Heeds signal (w.cancel id) :=
  ⟨[.cancelled id], rfl, rfl, fun hstart => absurd hstart Bool.false_ne_true, trivial⟩

/-- A start is noted while the signal is live. -/
theorem heeds_note {d : Deed} (hd : d.isStart = true) (h : w.signals.isAborted signal = false) :
    w.Heeds signal (w.note d) := by
  refine ⟨[d], rfl, ?_, fun _ => h, trivial⟩
  cases d with
  | cancelled id => exact absurd hd Bool.false_ne_true
  | _ => rfl

end World

end Replatform
