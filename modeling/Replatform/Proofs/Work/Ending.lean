import Replatform.Migration.Telling

/-!
# How Tasks End

What can be said of a task before it is run. `Ends` names what holds when a task begun in
some state comes to a result and what holds when it comes to nothing, in one statement, so
that nothing is claimed of the good ending alone.

Each way of putting tasks together has one law, which says when the whole ends as wanted in
terms of its parts. A task is then gone through from front to back by rewriting with these
laws, and what is left are statements about the calls in it. Calls, loops and phases get
laws of their own where they are defined; nothing above this file looks into the monad.

A task that is abandoned while it waits is `dropped`, and no task can answer for what it
did not get to. Most laws therefore distinguish the failure of a task from its being
dropped, as `attempt` does.

## Main definitions

* `Ends`: What holds after a task, whichever way it ends.
* `WorkOn.Sustains`: A task comes to a result with the property that it was begun with.
* `WorkOn.Keeps`, `WorkOn.Upholds`: It has the property in any case, or unless it is dropped.

## Theorems

* `Ends.mono`: What is implied holds as well.
* `ends_bind`: One task after another.
* `ends_attempt`, `ends_mapError`, `ends_ofExcept`: Failures as values and as other failures.
* `ends_ofWork`, `ends_taking`: Tasks with something in their hands.
* `WorkOn.Sustains.bind`, `WorkOn.sustains_change`: Tasks that sustain a property.
* `WorkOn.Keeps.ends`, `WorkOn.Keeps.then`: What a task that keeps a property comes to.
* `WorkOn.upholds_taking`: A part that is taken out and put back.
-/

namespace Replatform

variable {ε δ σ τ υ α β : Type}

theorem Stop.failed_ne_dropped (e : ε) : (.failed e : Stop ε) ≠ .dropped :=
  nofun

/-- A task begun in the state `t` comes to a result with `good`, or to none with `bad`. -/
def Ends (task : EStateM ε τ α) (t : τ) (good : α → τ → Prop) (bad : ε → τ → Prop) : Prop :=
  match task t with
  | .ok a t' => good a t'
  | .error e t' => bad e t'

/-- How a task ends can be found out by doing it. -/
instance (task : EStateM ε τ α) (t : τ) (good : α → τ → Prop) (bad : ε → τ → Prop)
    [∀ a t', Decidable (good a t')] [∀ e t', Decidable (bad e t')] :
    Decidable (Ends task t good bad) :=
  match h : task t with
  | .ok a t' => decidable_of_iff (good a t') (by rw [Ends, h])
  | .error e t' => decidable_of_iff (bad e t') (by rw [Ends, h])

theorem Ends.mono {task : EStateM ε τ α} {t : τ} {good good' : α → τ → Prop}
    {bad bad' : ε → τ → Prop} (h : Ends task t good bad) (hgood : ∀ a t', good a t' → good' a t')
    (hbad : ∀ e t', bad e t' → bad' e t') : Ends task t good' bad' := by
  unfold Ends at h ⊢
  cases htask : task t with
  | ok a t' =>
      rw [htask] at h
      exact hgood a t' h
  | error e t' =>
      rw [htask] at h
      exact hbad e t' h

/-- Two things that hold after a task hold together. -/
theorem Ends.and {task : EStateM ε τ α} {t : τ} {good good' : α → τ → Prop}
    {bad bad' : ε → τ → Prop} (h : Ends task t good bad) (h' : Ends task t good' bad') :
    Ends task t (fun a t' => good a t' ∧ good' a t') (fun e t' => bad e t' ∧ bad' e t') := by
  unfold Ends at h h' ⊢
  cases htask : task t with
  | ok a t' =>
      rw [htask] at h h'
      exact ⟨h, h'⟩
  | error e t' =>
      rw [htask] at h h'
      exact ⟨h, h'⟩

theorem Ends.self (task : EStateM ε τ α) (t : τ) :
    Ends task t (fun a t' => task t = .ok a t') (fun e t' => task t = .error e t') := by
  unfold Ends
  cases task t with
  | ok a t' => rfl
  | error e t' => rfl

/-- A task comes to a result or to none. -/
theorem Ends.ok_or_error {task : EStateM ε τ α} {t : τ} {good : α → τ → Prop} {bad : ε → τ → Prop}
    (h : Ends task t good bad) :
    (∃ a t', task t = .ok a t' ∧ good a t') ∨ ∃ e t', task t = .error e t' ∧ bad e t' := by
  unfold Ends at h
  cases htask : task t with
  | ok a t' =>
      rw [htask] at h
      exact Or.inl ⟨a, t', rfl, h⟩
  | error e t' =>
      rw [htask] at h
      exact Or.inr ⟨e, t', rfl, h⟩

theorem Ends.of_ok {task : EStateM ε τ α} {t t' : τ} {a : α} {good : α → τ → Prop} {bad : ε → τ → Prop}
    (h : Ends task t good bad) (htask : task t = .ok a t') : good a t' := by
  unfold Ends at h
  rwa [htask] at h

theorem ends_any (task : EStateM ε τ α) (t : τ) : Ends task t (fun _ _ => True) (fun _ _ => True) :=
  (Ends.self task t).mono (fun _ _ _ => trivial) (fun _ _ _ => trivial)

theorem ends_pure (a : α) (t : τ) (good : α → τ → Prop) (bad : ε → τ → Prop) :
    Ends (pure a : EStateM ε τ α) t good bad ↔ good a t :=
  Iff.rfl

theorem ends_bind (task : EStateM ε τ α) (next : α → EStateM ε τ β) (t : τ)
    (good : β → τ → Prop) (bad : ε → τ → Prop) :
    Ends (task >>= next) t good bad ↔ Ends task t (fun a t' => Ends (next a) t' good bad) bad := by
  change (match EStateM.bind task next t with
    | .ok b t' => good b t'
    | .error e t' => bad e t') ↔ _
  unfold EStateM.bind Ends
  cases task t with
  | ok a t' => exact Iff.rfl
  | error e t' => exact Iff.rfl

theorem ends_get (t : τ) (good : τ → τ → Prop) (bad : ε → τ → Prop) :
    Ends (get : EStateM ε τ τ) t good bad ↔ good t t :=
  Iff.rfl

namespace Work

variable {w : World σ} {good : α → World σ → Prop}

theorem ends_fail (e : ε) (bad : Stop ε → World σ → Prop) :
    Ends (Work.fail e : Work σ ε α) w good bad ↔ bad (.failed e) w :=
  Iff.rfl

theorem ends_ofExcept (r : Except ε α) (bad : Stop ε → World σ → Prop) :
    Ends (Work.ofExcept r) w good bad ↔
      match r with
      | .ok a => good a w
      | .error e => bad (.failed e) w := by
  cases r with
  | ok a => exact Iff.rfl
  | error e => exact Iff.rfl

/-- To have failures as values is to go on after them, but not after being dropped. -/
theorem ends_attempt (task : Work σ ε α) (good : Except ε α → World σ → Prop)
    (bad : Stop δ → World σ → Prop) :
    Ends (Work.attempt task) w good bad ↔
      Ends task w (fun a => good (.ok a))
        (fun stop w' => match stop with
          | .failed e => good (.error e) w'
          | .dropped => bad .dropped w') := by
  unfold Ends Work.attempt
  cases task w with
  | ok a w' => exact Iff.rfl
  | error stop w' => cases stop <;> exact Iff.rfl

theorem ends_mapError (f : ε → δ) (task : Work σ ε α) (bad : Stop δ → World σ → Prop) :
    Ends (Work.mapError f task) w good bad ↔
      Ends task w good
        (fun stop w' => match stop with
          | .failed e => bad (.failed (f e)) w'
          | .dropped => bad .dropped w') := by
  unfold Ends Work.mapError
  cases task w with
  | ok a w' => exact Iff.rfl
  | error stop w' => cases stop <;> exact Iff.rfl

theorem ends_tell (e : Event) (good : Unit → World σ → Prop) (bad : Stop ε → World σ → Prop) :
    Ends (Work.tell e) w good bad ↔ good () (w.tell e) :=
  Iff.rfl

/-- A log entry is one event more. -/
theorem ends_log (phase : Phase) (severity : Severity) (message : String)
    (good : Unit → World σ → Prop) (bad : Stop ε → World σ → Prop) :
    Ends (Work.log phase severity message) w good bad ↔
      good ()
        (w.tell (.log ⟨Timestamp.ofNanos (w.now * 1000000), message, severity, phase⟩)) :=
  Iff.rfl

end Work

namespace WorkOn

variable {w : World σ} {t : τ} {good : α → World σ × τ → Prop}

theorem ends_fail (e : ε) (bad : Stop ε → World σ × τ → Prop) :
    Ends (WorkOn.fail e : WorkOn τ σ ε α) (w, t) good bad ↔ bad (.failed e) (w, t) :=
  Iff.rfl

theorem ends_held (good : τ → World σ × τ → Prop) (bad : Stop ε → World σ × τ → Prop) :
    Ends (WorkOn.held : WorkOn τ σ ε τ) (w, t) good bad ↔ good t (w, t) :=
  Iff.rfl

theorem ends_tell (e : Event) (good : Unit → World σ × τ → Prop)
    (bad : Stop ε → World σ × τ → Prop) :
    Ends (WorkOn.tell e : WorkOn τ σ ε Unit) (w, t) good bad ↔ good () (w.tell e, t) :=
  Iff.rfl

theorem ends_log (phase : Phase) (severity : Severity) (message : String)
    (good : Unit → World σ × τ → Prop) (bad : Stop ε → World σ × τ → Prop) :
    Ends (WorkOn.log phase severity message : WorkOn τ σ ε Unit) (w, t) good bad ↔
      good ()
        (w.tell (.log ⟨Timestamp.ofNanos (w.now * 1000000), message, severity, phase⟩), t) :=
  Iff.rfl

theorem ends_change (f : τ → τ) (good : Unit → World σ × τ → Prop)
    (bad : Stop ε → World σ × τ → Prop) :
    Ends (WorkOn.change f : WorkOn τ σ ε Unit) (w, t) good bad ↔ good () (w, f t) :=
  Iff.rfl

/-- A task with empty hands leaves what is in them alone. -/
theorem ends_ofWork (task : Work σ ε α) (bad : Stop ε → World σ × τ → Prop) :
    Ends (WorkOn.ofWork task : WorkOn τ σ ε α) (w, t) good bad ↔
      Ends task w (fun a w' => good a (w', t)) (fun stop w' => bad stop (w', t)) := by
  simp only [Ends, WorkOn.ofWork]
  cases task w with
  | ok a w' => exact Iff.rfl
  | error stop w' => exact Iff.rfl

/-- A part that is taken out comes back unless the task is dropped. -/
theorem ends_taking (part : τ → υ) (put : υ → τ → τ) (hole : υ) (task : WorkOn υ σ ε α)
    (bad : Stop ε → World σ × τ → Prop) :
    Ends (WorkOn.taking part put hole task) (w, t) good bad ↔
      Ends task (w, part t) (fun a s => good a (s.1, put s.2 t))
        (fun stop s => match stop with
          | .failed e => bad (.failed e) (s.1, put s.2 t)
          | .dropped => bad .dropped (s.1, put hole t)) := by
  simp only [Ends, WorkOn.taking]
  cases task (w, part t) with
  | ok a s => exact Iff.rfl
  | error stop s => cases stop <;> exact Iff.rfl

/-- What is in the hands when a task ends comes with its result. -/
theorem ends_startingWith (t : τ) (task : WorkOn τ σ ε α) (good : α × τ → World σ → Prop)
    (bad : Stop ε → World σ → Prop) :
    Ends (startingWith t task) w good bad ↔
      Ends task (w, t) (fun a s => good (a, s.2) s.1) (fun stop s => bad stop s.1) := by
  simp only [Ends, startingWith]
  cases task (w, t) with
  | ok a s => exact Iff.rfl
  | error stop s => exact Iff.rfl

/-- Begun with a property of what is in the hands, a task comes to a result with the same property, or
    to nothing with `bad`. -/
def Sustains (P : τ → Prop) (bad : Stop ε → τ → Prop) (task : WorkOn τ σ ε α) : Prop :=
  ∀ w t, P t → Ends task (w, t) (fun _ s => P s.2) (fun stop s => bad stop s.2)

/-- A task keeps a property of what it has in its hands, and comes to nothing only in ways that are
    allowed. -/
abbrev Keeps (P : τ → Prop) (allowed : Stop ε → Prop) (task : WorkOn τ σ ε α) : Prop :=
  Sustains P (fun stop t => P t ∧ allowed stop) task

/-- A task upholds a property of what it has in its hands unless it is dropped, although the property
    may be lost in between. -/
abbrev Upholds (P : τ → Prop) (task : WorkOn τ σ ε α) : Prop :=
  Sustains P (fun stop t => stop ≠ .dropped → P t) task

section Sustains

variable {P : τ → Prop} {bad : Stop ε → τ → Prop}

theorem sustains_pure (a : α) : Sustains P bad (pure a : WorkOn τ σ ε α) :=
  fun _ _ h => h

theorem Sustains.bind {task : WorkOn τ σ ε α} {next : α → WorkOn τ σ ε β}
    (h : Sustains P bad task) (hnext : ∀ a, Sustains P bad (next a)) :
    Sustains P bad (task >>= next) := by
  intro w t ht
  rw [ends_bind]
  exact (h w t ht).mono (fun a s hs => hnext a s.1 s.2 hs) (fun _ _ hs => hs)

theorem sustains_held : Sustains P bad (WorkOn.held : WorkOn τ σ ε τ) :=
  fun _ _ h => h

theorem sustains_change {f : τ → τ} (hf : ∀ t, P t → P (f t)) :
    Sustains P bad (WorkOn.change f : WorkOn τ σ ε Unit) :=
  fun _ t h => hf t h

theorem sustains_tell (e : Event) : Sustains P bad (WorkOn.tell e : WorkOn τ σ ε Unit) :=
  fun _ _ h => h

theorem sustains_log (phase : Phase) (severity : Severity) (message : String) :
    Sustains P bad (WorkOn.log phase severity message : WorkOn τ σ ε Unit) :=
  fun _ _ h => h

theorem sustains_ite {p : Prop} [Decidable p] {task task' : WorkOn τ σ ε α}
    (h : Sustains P bad task) (h' : Sustains P bad task') :
    Sustains P bad (if p then task else task') := by
  by_cases hp : p
  · rw [if_pos hp]
    exact h
  · rw [if_neg hp]
    exact h'

/-- What is done only under a condition is sustained, with what comes after it in any case. -/
theorem sustains_ite_bind {p : Prop} [Decidable p] {task : WorkOn τ σ ε Unit}
    {next : Unit → WorkOn τ σ ε α} (h : Sustains P bad task)
    (hnext : ∀ u, Sustains P bad (next u)) :
    Sustains P bad (if p then task >>= next else next ()) :=
  sustains_ite (h.bind hnext) (hnext ())

end Sustains

section Keeps

variable {P : τ → Prop} {allowed : Stop ε → Prop}

/-- A task that keeps a property, seen from one state that has it. -/
theorem Keeps.ends {task : WorkOn τ σ ε α} {good : α → World σ × τ → Prop}
    {bad : Stop ε → World σ × τ → Prop} (h : Keeps P allowed task) (w : World σ) (ht : P t)
    (hgood : ∀ a s, P s.2 → good a s) (hbad : ∀ stop s, P s.2 → allowed stop → bad stop s) :
    Ends task (w, t) good bad :=
  (h w t ht).mono hgood (fun stop s hs => hbad stop s hs.1 hs.2)

/-- What comes after a task that keeps a property begins with it. -/
theorem Keeps.then {task : WorkOn τ σ ε α} {next : α → WorkOn τ σ ε β}
    {good : β → World σ × τ → Prop} {bad : Stop ε → World σ × τ → Prop} (h : Keeps P allowed task)
    (ht : P t) (hbad : ∀ stop s, P s.2 → allowed stop → bad stop s)
    (hnext : ∀ a w' t', P t' → Ends (next a) (w', t') good bad) :
    Ends (task >>= next) (w, t) good bad := by
  rw [ends_bind]
  exact Keeps.ends h w ht (fun a s hs => hnext a s.1 s.2 hs) hbad

/-- A task with empty hands keeps everything. -/
theorem keeps_ofWork {task : Work σ ε α}
    (h : ∀ w, Ends task w (fun _ _ => True) (fun stop _ => allowed stop)) :
    Keeps P allowed (WorkOn.ofWork task : WorkOn τ σ ε α) := by
  intro w t ht
  rw [ends_ofWork]
  exact (h w).mono (fun _ _ _ => ht) (fun _ _ hstop => ⟨ht, hstop⟩)

end Keeps

section Upholds

variable {P : τ → Prop}

theorem upholds_fail (e : ε) : Upholds P (WorkOn.fail e : WorkOn τ σ ε α) :=
  fun _ _ h _ => h

theorem upholds_ofWork (task : Work σ ε α) : Upholds P (WorkOn.ofWork task : WorkOn τ σ ε α) := by
  intro w t ht
  rw [ends_ofWork]
  exact (ends_any task w).mono (fun _ _ _ => ht) (fun _ _ _ _ => ht)

/-- A part that is taken out is put back with the property if it would have it in its place all
    along. -/
theorem upholds_taking {part : τ → υ} {put : υ → τ → τ} {hole : υ} {task : WorkOn υ σ ε α}
    (hpart : ∀ t, put (part t) t = t) (h : ∀ t, Upholds (fun u => P (put u t)) task) :
    Upholds P (WorkOn.taking part put hole task) := by
  intro w t ht
  have hput : P (put (part t) t) := by
    rw [hpart]
    exact ht
  rw [ends_taking]
  refine (h t w (part t) hput).mono (fun a s hs => hs) (fun stop s hs => ?_)
  cases stop with
  | failed e => exact fun hnot => hs (by simp only [ne_eq, reduceCtorEq, not_false_eq_true])
  | dropped => exact fun hnot => absurd rfl hnot

end Upholds

end WorkOn

end Replatform
