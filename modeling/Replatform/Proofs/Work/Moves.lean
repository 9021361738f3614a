import Replatform.Proofs.Work.Deeds

/-!
# Where Tasks Lead

A relation between what a task was begun with and what it leaves, such as that nothing was undone
on the way, or that every change was told. If the relation holds between equals and can be put
together, it goes through tasks part by part, as how a task ends does.

There may be ways to come to nothing of which nothing can be asked. A task that is dropped may leave a
part that it has taken out, so that `Moves` leaves it aside. Where that part does not matter, `Leads`
asks the same of every task in whatever way it ends.

## Main definitions

* `Composes`: A relation that holds between equals and can be put together.
* `LeadsIf`: A task leads only to where a relation allows, if it ends in a way that counts.
* `Moves`, `Leads`: The same unless it is dropped, and in any case.

## Theorems

* `LeadsIf.bind`, `LeadsIf.ite_bind`: One task after another.
* `leads_held`, `leads_change`: Tasks with something in their hands.
* `moves_taking`, `leads_taking`: Tasks on a part of what is in the hands.
-/

namespace Replatform

variable {S σ τ υ ε α β : Type}

/-- A relation that holds between equals and can be put together. -/
class Composes (R : S → S → Prop) : Prop where
  refl : ∀ s, R s s
  trans : ∀ {s s' s''}, R s s' → R s' s'' → R s s''

/-- A task leads only to where a relation allows, if it comes to a result or to nothing in a way that
    counts. -/
def LeadsIf (counts : ε → Prop) (R : S → S → Prop) (task : EStateM ε S α) : Prop :=
  ∀ s, Ends task s (fun _ s' => R s s') (fun e s' => counts e → R s s')

/-- A task leads only to where a relation allows, unless it is dropped. -/
def Moves (R : S → S → Prop) (task : EStateM (Stop ε) S α) : Prop :=
  ∀ s, Ends task s (fun _ s' => R s s') (fun stop s' => stop ≠ .dropped → R s s')

/-- A task leads only to where a relation allows, in whatever way it ends. -/
abbrev Leads (R : S → S → Prop) (task : EStateM ε S α) : Prop :=
  LeadsIf (fun _ => True) R task

section LeadsIf

variable {counts : ε → Prop} {R : S → S → Prop} {task task' : EStateM ε S α}

/-- What a task leads to goes on from where somebody else has led. -/
theorem LeadsIf.after [Composes R] (h : LeadsIf counts R task) {s s' : S} (hs : R s s') :
    Ends task s' (fun _ s'' => R s s'') (fun e s'' => counts e → R s s'') :=
  (h s').mono (fun _ _ hs' => Composes.trans hs hs') (fun _ _ hs' he => Composes.trans hs (hs' he))

theorem LeadsIf.bind [Composes R] {next : α → EStateM ε S β} (h : LeadsIf counts R task)
    (hnext : ∀ a, LeadsIf counts R (next a)) : LeadsIf counts R (task >>= next) := by
  intro s
  rw [ends_bind]
  exact (h s).mono (fun a s₁ h₁ => (hnext a).after h₁) (fun _ _ h₁ => h₁)

theorem leads_pure [Composes R] (a : α) : LeadsIf counts R (pure a : EStateM ε S α) :=
  fun s => Composes.refl s

theorem leads_throw [Composes R] (e : ε) : LeadsIf counts R (throw e : EStateM ε S α) :=
  fun s _ => Composes.refl s

theorem leads_ite {p : Prop} [Decidable p] (h : LeadsIf counts R task)
    (h' : LeadsIf counts R task') : LeadsIf counts R (if p then task else task') := by
  by_cases hp : p
  · rw [if_pos hp]
    exact h
  · rw [if_neg hp]
    exact h'

/-- What is done only under a condition, with what comes after it in any case. -/
theorem LeadsIf.ite_bind [Composes R] {p : Prop} [Decidable p] {task : EStateM ε S Unit}
    {next : Unit → EStateM ε S α} (h : LeadsIf counts R task)
    (hnext : ∀ u, LeadsIf counts R (next u)) :
    LeadsIf counts R (if p then task >>= next else next ()) :=
  leads_ite (h.bind hnext) (hnext ())

/-- In any case, where every way to come to nothing counts. -/
theorem LeadsIf.ends (h : Leads R task) (s : S) :
    Ends task s (fun _ s' => R s s') (fun _ s' => R s s') :=
  (h s).mono (fun _ _ hs => hs) (fun _ _ hs => hs trivial)

end LeadsIf

section Moves

variable {R : S → S → Prop} {task task' : EStateM (Stop ε) S α}

theorem Moves.after [Composes R] (h : Moves R task) {s s' : S} (hs : R s s') :
    Ends task s' (fun _ s'' => R s s'') (fun stop s'' => stop ≠ .dropped → R s s'') :=
  LeadsIf.after h hs

theorem Moves.bind [Composes R] {next : α → EStateM (Stop ε) S β} (h : Moves R task)
    (hnext : ∀ a, Moves R (next a)) : Moves R (task >>= next) :=
  LeadsIf.bind h hnext

theorem moves_pure [Composes R] (a : α) : Moves R (pure a : EStateM (Stop ε) S α) :=
  leads_pure a

theorem moves_ite {p : Prop} [Decidable p] (h : Moves R task) (h' : Moves R task') :
    Moves R (if p then task else task') :=
  leads_ite h h'

theorem Moves.ite_bind [Composes R] {p : Prop} [Decidable p] {task : EStateM (Stop ε) S Unit}
    {next : Unit → EStateM (Stop ε) S α} (h : Moves R task) (hnext : ∀ u, Moves R (next u)) :
    Moves R (if p then task >>= next else next ()) :=
  LeadsIf.ite_bind h hnext

end Moves

namespace WorkOn

variable {counts : Stop ε → Prop} {R : World σ × τ → World σ × τ → Prop}

theorem leads_held [Composes R] : LeadsIf counts R (held : WorkOn τ σ ε τ) :=
  fun s => Composes.refl s

theorem leads_fail [Composes R] (e : ε) : LeadsIf counts R (fail e : WorkOn τ σ ε α) :=
  leads_throw _

theorem leads_change {f : τ → τ} (h : ∀ w t, R (w, t) (w, f t)) :
    LeadsIf counts R (change f : WorkOn τ σ ε Unit) :=
  fun s => h s.1 s.2

/-- What is done with nothing in the hands leaves what is in them. -/
theorem leads_ofWork {allowed : Deed → Prop} {task : Work σ ε α} (h : Does allowed task)
    (hR : ∀ w w' t, w.Since allowed w' → R (w, t) (w', t)) :
    LeadsIf counts R (ofWork task : WorkOn τ σ ε α) := by
  rintro ⟨w, t⟩
  rw [ends_ofWork]
  exact (h w).mono (fun _ w' hw => hR w w' t hw) (fun _ w' hw _ => hR w w' t hw)

/-- A part may be put back or be lost, if neither matters. -/
theorem leads_taking {R' : World σ × υ → World σ × υ → Prop} {part : τ → υ} {put : υ → τ → τ}
    {hole : υ} {task : WorkOn υ σ ε α} (h : LeadsIf counts R' task)
    (hR : ∀ w w' t u u', R' (w, part t) (w', u) → R (w, t) (w', put u' t)) :
    LeadsIf counts R (taking part put hole task) := by
  rintro ⟨w, t⟩
  rw [ends_taking]
  refine (h (w, part t)).mono (fun _ s hs => hR w s.1 t s.2 s.2 hs) (fun stop s hs => ?_)
  cases stop with
  | failed e => exact fun hstop => hR w s.1 t s.2 s.2 (hs hstop)
  | dropped => exact fun hstop => hR w s.1 t s.2 hole (hs hstop)

theorem moves_held [Composes R] : Moves R (held : WorkOn τ σ ε τ) :=
  leads_held

theorem moves_fail [Composes R] (e : ε) : Moves R (fail e : WorkOn τ σ ε α) :=
  leads_fail e

theorem moves_change {f : τ → τ} (h : ∀ w t, R (w, t) (w, f t)) :
    Moves R (change f : WorkOn τ σ ε Unit) :=
  leads_change h

/-- What a task on a part does is seen in the whole, as the part is put back unless the task is
    dropped. -/
theorem moves_taking {R' : World σ × υ → World σ × υ → Prop} {part : τ → υ} {put : υ → τ → τ}
    {hole : υ} {task : WorkOn υ σ ε α} (h : Moves R' task)
    (hR : ∀ w w' t u, R' (w, part t) (w', u) → R (w, t) (w', put u t)) :
    Moves R (taking part put hole task) := by
  rintro ⟨w, t⟩
  rw [ends_taking]
  refine (h (w, part t)).mono (fun _ s hs => hR w s.1 t s.2 hs) (fun stop s hs => ?_)
  cases stop with
  | failed e =>
      exact fun _ => hR w s.1 t s.2 (hs (Stop.failed_ne_dropped e))
  | dropped => exact fun hnot => absurd rfl hnot

end WorkOn

end Replatform
