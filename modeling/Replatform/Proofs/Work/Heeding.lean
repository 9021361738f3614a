import Replatform.Proofs.Work.Ending
import Replatform.Proofs.Work.Signals

/-!
# Tasks That Heed Their Signal

What it means for a task to notice at once that it was cancelled. Two runs of the task are held
next to each other: the one that is looked at, and the one in a world in which the signal is
never aborted. Until the signal is aborted they are the same, deed for deed. From then on the
task starts nothing more, so that there are two ways for it to end. Either it had nothing left to
start, and it ends as it would have anyway. Or it is cut: it fails in the one way in which
cancelled tasks fail, and what it started is the beginning of what it would have started.

`HeedsAt` says this of a task begun in some state, and each way of putting tasks together has a
law for it, as in the theory of how tasks end. A failure that cuts a task is absorbed in several
places, where failures are had as values. There the law asks that this one failure be passed on
without anything being started, which is what lets a cancellation through.

Most tasks heed their signal wherever they are begun. Those that start something right away do so
only while the signal is live, and are `HeedsLive`. To ask the signal first makes them heed it
in any case, and it is the only law that does.

## Main definitions

* `InWorld`: What a task works on, with the world in it.
* `HeedsAt`, `Heeding`, `HeedingLive`: A task notices at once that it was cancelled.
* `StopsPromptly`: What can be seen of that.

## Theorems

* `HeedsAt.bind`, `HeedsAt.attempt_bind`: One task after another, and after its failure.
* `Work.heeding_check_bind`: To ask the signal before something is started.
* `HeedsAt.stopsPromptly`: What can be seen of a task that heeds its signal.
-/

namespace Replatform

/-- What a task works on, with the world in it. -/
class InWorld (S : Type) (σ : outParam Type) where
  world : S → World σ
  /-- The same in another world. -/
  move : World σ → S → S
  world_move : ∀ w s, world (move w s) = w

instance (σ : Type) : InWorld (World σ) σ where
  world := id
  move w _ := w
  world_move _ _ := rfl

instance (σ τ : Type) : InWorld (World σ × τ) σ where
  world := Prod.fst
  move w s := (w, s.2)
  world_move _ _ := rfl

/-- What a task leaves, whichever way it ends. -/
def leaves {ε S α : Type} (task : EStateM ε S α) (s : S) : S :=
  match task s with
  | .ok _ s' => s'
  | .error _ s' => s'

/-- What holds after a task in any case. -/
theorem ends_iff_leaves {ε S α : Type} {task : EStateM ε S α} {s : S} {P : S → Prop} :
    Ends task s (fun _ s' => P s') (fun _ s' => P s') ↔ P (leaves task s) := by
  unfold Ends leaves
  cases task s with
  | ok a s' => exact Iff.rfl
  | error e s' => exact Iff.rfl

/-- Why a task comes to nothing, if it does. -/
def stopOf? {ε S α : Type} (task : EStateM ε S α) (s : S) : Option ε :=
  match task s with
  | .ok _ _ => none
  | .error e _ => some e

section Laws

open InWorld

variable {S σ ε δ α β : Type} [InWorld S σ]

/-- The same, but in a world in which a signal is never aborted. -/
abbrev spared (signal : SignalId) (s : S) : S :=
  move ((world s).sparing signal) s

/-- A task was cut: it failed with `cut` since its signal is aborted, and what it started is the
    beginning of what it would have started otherwise. -/
def IsCut (signal : SignalId) (cut : ε) (task : EStateM (Stop ε) S α) (s : S) (stop : Stop ε)
    (s' : S) : Prop :=
  stop = .failed cut ∧ (world s').signals.isAborted signal = true ∧
    (world s').starts <:+ (world (leaves task (spared signal s))).starts

/-- A task begun in `s` starts things only while its signal is live, and ends as it would have
    anyway or is cut. -/
def HeedsAt (signal : SignalId) (cut : ε) (task : EStateM (Stop ε) S α) (s : S) : Prop :=
  Ends task s
    (fun a s' => (world s).Heeds signal (world s') ∧
      task (spared signal s) = .ok a (spared signal s'))
    (fun stop s' => (world s).Heeds signal (world s') ∧
      (task (spared signal s) = .error stop (spared signal s') ∨ IsCut signal cut task s stop s'))

/-- A task heeds its signal wherever it is begun. -/
def Heeding (signal : SignalId) (cut : ε) (task : EStateM (Stop ε) S α) : Prop :=
  ∀ s, HeedsAt signal cut task s

/-- A task heeds its signal if it is begun while the signal is live. -/
def HeedingLive (signal : SignalId) (cut : ε) (task : EStateM (Stop ε) S α) : Prop :=
  ∀ s, (world s).signals.isAborted signal = false → HeedsAt signal cut task s

variable {signal : SignalId} {cut : ε}

theorem deeds_spared (signal : SignalId) (s : S) :
    (world (spared signal s)).deeds = (world s).deeds := by
  rw [spared, world_move]
  rfl

theorem starts_spared (signal : SignalId) (s : S) :
    (world (spared signal s)).starts = (world s).starts := by
  rw [World.starts, World.starts, deeds_spared]

theorem isAborted_spared (signal : SignalId) (s : S) :
    (world (spared signal s)).signals.isAborted signal = false := by
  rw [spared, world_move]
  exact Signals.isAborted_sparing_self _ _

theorem Heeding.live {task : EStateM (Stop ε) S α} (h : Heeding signal cut task) :
    HeedingLive signal cut task :=
  fun s _ => h s

theorem ends_of_eq {ε : Type} {task task' : EStateM ε S α} {s s' : S}
    (h : task s = task' s') (good : α → S → Prop) (bad : ε → S → Prop) :
    Ends task s good bad ↔ Ends task' s' good bad := by
  unfold Ends
  rw [h]

theorem bind_of_ok {ε : Type} {task : EStateM ε S α} {next : α → EStateM ε S β} {s s' : S} {a : α}
    (h : task s = .ok a s') : (task >>= next) s = next a s' := by
  change EStateM.bind task next s = _
  rw [EStateM.bind, h]

theorem bind_of_error {ε : Type} {task : EStateM ε S α} {next : α → EStateM ε S β} {s s' : S} {e : ε}
    (h : task s = .error e s') : (task >>= next) s = .error e s' := by
  change EStateM.bind task next s = _
  rw [EStateM.bind, h]

theorem get_bind {ε : Type} (next : S → EStateM ε S α) (s : S) : (get >>= next) s = next s s :=
  rfl

/-- A task that ends alike in both runs. -/
theorem HeedsAt.of_ok {task : EStateM (Stop ε) S α} {s s' : S} {a : α} (h : task s = .ok a s')
    (hheeds : (world s).Heeds signal (world s'))
    (hother : task (spared signal s) = .ok a (spared signal s')) : HeedsAt signal cut task s := by
  unfold HeedsAt Ends
  rw [h]
  exact ⟨hheeds, hother⟩

theorem HeedsAt.of_error {task : EStateM (Stop ε) S α} {s s' : S} {e : Stop ε}
    (h : task s = .error e s') (hheeds : (world s).Heeds signal (world s'))
    (hother : task (spared signal s) = .error e (spared signal s')) :
    HeedsAt signal cut task s := by
  unfold HeedsAt Ends
  rw [h]
  exact ⟨hheeds, Or.inl hother⟩

theorem HeedsAt.heeds {task : EStateM (Stop ε) S α} {s : S} (h : HeedsAt signal cut task s) :
    (world s).Heeds signal (world (leaves task s)) := by
  unfold HeedsAt Ends at h
  unfold leaves
  cases htask : task s with
  | ok a s' =>
      rw [htask] at h
      exact h.1
  | error stop s' =>
      rw [htask] at h
      exact h.1

theorem Heeding.precede {task : EStateM (Stop ε) S α} (h : Heeding signal cut task) (s : S) :
    Ends task s (fun _ s' => (world s).signals.Precede (world s').signals)
      (fun _ s' => (world s).signals.Precede (world s').signals) :=
  Ends.mono (h s) (fun _ _ hs => hs.1.precede) (fun _ _ hs => hs.1.precede)

/-- What a task started stays started when there is more to do after it. -/
theorem starts_bind {task : EStateM (Stop ε) S α} {next : α → EStateM (Stop ε) S β} (s : S)
    (hnext : ∀ a, Heeding signal cut (next a)) :
    (world (leaves task s)).starts <:+ (world (leaves (task >>= next) s)).starts := by
  unfold leaves
  cases htask : task s with
  | ok a s' =>
      rw [bind_of_ok htask]
      exact (hnext a s').heeds.starts
  | error stop s' =>
      have herror : (task >>= next) s = .error stop s' := bind_of_error htask
      exact herror ▸ List.suffix_refl _

/-- A task that only does something at once, which the signal has no part in. -/
theorem heeding_of_eq {task : EStateM (Stop ε) S α} (value : S → α) (change : S → S)
    (htask : ∀ s, task s = .ok (value s) (change s))
    (hvalue : ∀ s, value (spared signal s) = value s)
    (hchange : ∀ s, change (spared signal s) = spared signal (change s))
    (hheeds : ∀ s, (world s).Heeds signal (world (change s))) : Heeding signal cut task := by
  intro s
  refine .of_ok (htask s) (hheeds s) ?_
  rw [htask, hvalue, hchange]

theorem heeding_pure (a : α) : Heeding signal cut (pure a : EStateM (Stop ε) S α) :=
  heeding_of_eq (fun _ => a) id (fun _ => rfl) (fun _ => rfl) (fun _ => rfl) fun _ => .refl _

theorem heeding_modify (change : S → S)
    (hchange : ∀ s, change (spared signal s) = spared signal (change s))
    (hheeds : ∀ s, (world s).Heeds signal (world (change s))) :
    Heeding signal cut (modify change : EStateM (Stop ε) S PUnit) :=
  heeding_of_eq (fun _ => ⟨⟩) change (fun _ => rfl) (fun _ => rfl) hchange hheeds

/-- To fail is to end as one would have anyway. -/
theorem heeding_throw (stop : Stop ε) : Heeding signal cut (throw stop : EStateM (Stop ε) S α) :=
  fun _ => ⟨.refl _, Or.inl rfl⟩

theorem HeedsAt.bind {task : EStateM (Stop ε) S α} {next : α → EStateM (Stop ε) S β} {s : S}
    (h : HeedsAt signal cut task s) (hnext : ∀ a, Heeding signal cut (next a)) :
    HeedsAt signal cut (task >>= next) s := by
  rw [HeedsAt, ends_bind]
  refine Ends.mono h ?_ ?_
  · -- The first task comes to a result, and to the same in the other run.
    rintro a s₁ ⟨hheeds, hspared⟩
    refine Ends.mono (hnext a s₁) ?_ ?_
    · rintro b s₂ ⟨hheeds', hspared'⟩
      exact ⟨hheeds.trans hheeds', (bind_of_ok hspared).trans hspared'⟩
    · rintro stop s₂ ⟨hheeds', hspared' | ⟨hstop, haborted, hstarts⟩⟩
      · exact ⟨hheeds.trans hheeds', Or.inl ((bind_of_ok hspared).trans hspared')⟩
      · -- It is the rest that is cut, after what was the beginning of both runs.
        refine ⟨hheeds.trans hheeds', Or.inr ⟨hstop, haborted, ?_⟩⟩
        rw [leaves, bind_of_ok hspared]
        exact hstarts
  · rintro stop s₁ ⟨hheeds, hspared | ⟨hstop, haborted, hstarts⟩⟩
    · exact ⟨hheeds, Or.inl (bind_of_error hspared)⟩
    · -- The other run goes on, and whatever it starts comes on top.
      exact ⟨hheeds, Or.inr ⟨hstop, haborted, hstarts.trans (starts_bind _ hnext)⟩⟩

theorem Heeding.bind {task : EStateM (Stop ε) S α} {next : α → EStateM (Stop ε) S β}
    (h : Heeding signal cut task) (hnext : ∀ a, Heeding signal cut (next a)) :
    Heeding signal cut (task >>= next) :=
  fun s => (h s).bind hnext

theorem HeedingLive.bind {task : EStateM (Stop ε) S α} {next : α → EStateM (Stop ε) S β}
    (h : HeedingLive signal cut task) (hnext : ∀ a, Heeding signal cut (next a)) :
    HeedingLive signal cut (task >>= next) :=
  fun s hlive => (h s hlive).bind hnext

theorem heeding_ite {p : Prop} [Decidable p] {task task' : EStateM (Stop ε) S α}
    (h : Heeding signal cut task) (h' : Heeding signal cut task') :
    Heeding signal cut (if p then task else task') := by
  by_cases hp : p
  · rw [if_pos hp]
    exact h
  · rw [if_neg hp]
    exact h'

/-- What is done only under a condition, with what comes after it in any case. -/
theorem heeding_ite_bind {p : Prop} [Decidable p] {task : EStateM (Stop ε) S Unit}
    {next : Unit → EStateM (Stop ε) S α} (h : Heeding signal cut task)
    (hnext : ∀ u, Heeding signal cut (next u)) :
    Heeding signal cut (if p then task >>= next else next ()) :=
  heeding_ite (h.bind hnext) (hnext ())

/-- A task that does the same as another in both runs heeds its signal as the other does. -/
theorem HeedsAt.congr {task task' : EStateM (Stop ε) S α} {s : S}
    (h : HeedsAt signal cut task s) (hself : task' s = task s)
    (hother : task' (spared signal s) = task (spared signal s)) : HeedsAt signal cut task' s := by
  unfold HeedsAt Ends IsCut leaves at h ⊢
  rw [hself, hother]
  exact h

/-- What comes after a look at something that the signal has no part in. -/
theorem HeedsAt.read_bind (read : S → β) (next : β → EStateM (Stop ε) S α) {s : S}
    (hread : read (spared signal s) = read s) (h : HeedsAt signal cut (next (read s)) s) :
    HeedsAt signal cut (get >>= fun s => next (read s)) s := by
  refine h.congr rfl ?_
  change next (read (spared signal s)) (spared signal s) = _
  rw [hread]

theorem heeding_read_bind (read : S → β) (next : β → EStateM (Stop ε) S α)
    (hread : ∀ s, read (spared signal s) = read s) (hnext : ∀ b, Heeding signal cut (next b)) :
    Heeding signal cut (get >>= fun s => next (read s)) :=
  fun s => .read_bind read next (hread s) (hnext (read s) s)

/-- What is decided by a look at something that the signal has no part in. -/
theorem heeding_get_ite {p : S → Prop} [∀ s, Decidable (p s)] {task task' : EStateM (Stop ε) S α}
    (hp : ∀ s, p (spared signal s) ↔ p s) (h : Heeding signal cut task)
    (h' : Heeding signal cut task') :
    Heeding signal cut (get >>= fun s => if p s then task else task') := by
  intro s
  by_cases hs : p s
  · exact (h s).congr (congrFun (if_pos hs) s) (congrFun (if_pos ((hp s).mpr hs)) _)
  · have hother : ¬ p (spared signal s) := fun h => hs ((hp s).mp h)
    exact (h' s).congr (congrFun (if_neg hs) s) (congrFun (if_neg hother) _)

/-- A result with the failure as a value. -/
def attempted : EStateM.Result (Stop ε) S α → EStateM.Result (Stop δ) S (Except ε α)
  | .ok a s => .ok (.ok a) s
  | .error (.failed e) s => .ok (.error e) s
  | .error .dropped s => .error .dropped s

theorem starts_attempt {task : EStateM (Stop ε) S α} {attempt : EStateM (Stop δ) S (Except ε α)}
    (hattempt : ∀ s, attempt s = attempted (task s)) (s : S) :
    (world (leaves attempt s)).starts = (world (leaves task s)).starts := by
  rw [leaves, leaves, hattempt]
  cases task s with
  | ok a s' => rfl
  | error stop s' => cases stop <;> rfl

/-- A task goes on after any failure of another, and passes the failure on at once that a cut is. -/
theorem HeedsAt.attempt_bind {cut' : δ} {task : EStateM (Stop ε) S α}
    {attempt : EStateM (Stop δ) S (Except ε α)} {next : Except ε α → EStateM (Stop δ) S β} {s : S}
    (h : HeedsAt signal cut task s) (hattempt : ∀ s, attempt s = attempted (task s))
    (hnext : ∀ result, Heeding signal cut' (next result))
    (hpass : ∀ s, Ends (next (.error cut)) s (fun _ _ => False) (fun stop s' =>
      stop = .failed cut' ∧ (world s').signals = (world s).signals ∧
        (world s').starts = (world s).starts)) :
    HeedsAt signal cut' (attempt >>= next) s := by
  unfold HeedsAt Ends at h
  cases htask : task s with
  | ok a s₁ =>
      rw [htask] at h
      refine (HeedsAt.of_ok (a := .ok a) ?_ h.1 ?_).bind hnext
      · rw [hattempt, htask]
        rfl
      · rw [hattempt, h.2]
        rfl
  | error stop s₁ =>
      rw [htask] at h
      rcases h with ⟨hsteps, hspared | ⟨rfl, haborted, hstarts⟩⟩
      · cases stop with
        | failed e =>
            -- Both runs go on from the failure.
            refine (HeedsAt.of_ok (a := .error e) ?_ hsteps ?_).bind hnext
            · rw [hattempt, htask]
              rfl
            · rw [hattempt, hspared]
              rfl
        | dropped =>
            refine (HeedsAt.of_error (e := .dropped) ?_ hsteps ?_).bind hnext
            · rw [hattempt, htask]
              rfl
            · rw [hattempt, hspared]
              rfl
      · -- The failure is passed on, while in the other run there may be more to do.
        have hend : (attempt >>= next) s = next (.error cut) s₁ := by
          refine bind_of_ok ?_
          rw [hattempt, htask]
          rfl
        have hbegun : (world (leaves attempt (spared signal s))).starts <:+ _ :=
          starts_bind _ hnext
        rw [starts_attempt hattempt] at hbegun
        have hpassed := Ends.and (hnext (.error cut) s₁) (hpass s₁)
        rw [HeedsAt, ends_of_eq hend]
        refine hpassed.mono (fun b s₂ h₂ => h₂.2.elim) (fun stop s₂ h₂ => ?_)
        rcases h₂ with ⟨⟨hsteps', -⟩, hstop, hsignals, hsame⟩
        refine ⟨hsteps.trans hsteps', Or.inr ⟨hstop, hsignals ▸ haborted, ?_⟩⟩
        rw [hsame]
        exact hstarts.trans hbegun

/-- What can be seen of a task that notices at once that it was cancelled. An instant of the task is a
    place in the list of what it did, the latest first. -/
structure StopsPromptly (signal : SignalId) (cut : ε) (task : EStateM (Stop ε) S α) (s : S) : Prop where
  /-- After the signal was aborted nothing is started. -/
  heeds : ∃ deeds, (world (leaves task s)).deeds = deeds ++ (world s).deeds ∧
    ∀ later earlier, deeds = later ++ earlier →
      ((world s).signals.after earlier).isAborted signal = true → ∀ d ∈ later, d.isStart = false
  /-- If something would have been started after that, the task is cut. -/
  cuts : ∀ later earlier,
    (world (leaves task (spared signal s))).deeds = later ++ (earlier ++ (world s).deeds) →
      ((world s).signals.after earlier).isAborted signal = true →
      (∃ d ∈ later, d.isStart = true) → stopOf? task s = some (.failed cut)
  /-- A task that is not cut ends as it would have if its signal was never aborted. -/
  same : Ends task s (fun a s' => task (spared signal s) = .ok a (spared signal s'))
    (fun stop s' => stop = .failed cut ∨ task (spared signal s) = .error stop (spared signal s'))
  /-- What is started is in any case the beginning of what would have been started. -/
  begun : (world (leaves task s)).starts <:+ (world (leaves task (spared signal s))).starts

theorem HeedsAt.stopsPromptly {task : EStateM (Stop ε) S α} {s : S} (h : HeedsAt signal cut task s) :
    StopsPromptly signal cut task s := by
  -- A run that is not cut has done what the other run did.
  have hending : (stopOf? task s = some (.failed cut) ∧
      (world (leaves task s)).starts <:+ (world (leaves task (spared signal s))).starts) ∨
      (world (leaves task (spared signal s))).deeds = (world (leaves task s)).deeds := by
    unfold HeedsAt Ends at h
    unfold stopOf? leaves
    cases htask : task s with
    | ok a s' =>
        rw [htask] at h
        rw [h.2]
        exact Or.inr (deeds_spared signal s')
    | error stop s' =>
        rw [htask] at h
        rcases h.2 with hspared | ⟨rfl, -, hstarts⟩
        · rw [hspared]
          exact Or.inr (deeds_spared signal s')
        · exact Or.inl ⟨rfl, hstarts⟩
  rcases h.heeds with ⟨deeds, hdeeds, -, hheeds⟩
  have hnone : ∀ later earlier, deeds = later ++ earlier →
      ((world s).signals.after earlier).isAborted signal = true →
      ∀ d ∈ later, d.isStart = false := by
    rintro later earlier rfl haborted
    exact hheeds.not_start haborted
  refine ⟨⟨deeds, hdeeds, hnone⟩, ?_, ?_, ?_⟩
  · rintro later earlier hspared haborted ⟨d, hd, hstart⟩
    rcases hending with ⟨hcut, -⟩ | hsame
    · exact hcut
    · -- A run that is not cut would have started something under an aborted signal.
      rw [hsame, hdeeds, ← List.append_assoc] at hspared
      have hnot := hnone later earlier (List.append_cancel_right hspared) haborted d hd
      rw [hstart] at hnot
      exact absurd hnot (by simp only [Bool.true_eq_false, not_false_eq_true])
  · refine Ends.mono h (fun a s' hs => hs.2) (fun stop s' hs => ?_)
    rcases hs.2 with hspared | ⟨hstop, -, -⟩
    · exact Or.inr hspared
    · exact Or.inl hstop
  · rcases hending with ⟨-, hstarts⟩ | hsame
    · exact hstarts
    · have hstarts : World.starts _ = World.starts _ := congrArg (List.filter Deed.isStart) hsame
      exact hstarts ▸ List.suffix_refl _

end Laws

end Replatform
