import Replatform.Proofs.Work.Calls
import Replatform.Proofs.Work.Moves

/-!
# Waiting Without Asking

What becomes of a world while a task only waits: while it pauses before another attempt, or goes
through what happens between the pieces of a reply. Signals may be cancelled meanwhile, but no service
is asked and remembers anything new, no request is sent, and nothing is told of the content of a file.
So what was done before and after such a wait can be put together as if there had been none.

A task that waits fails only because its signal was aborted, and it is then not taken up again. `Uncut`
therefore leaves such an end aside, with that of being dropped, and speaks of the result of a task or of
its failure as of one thing.

## Main definitions

* `World.contents`: What was told of the contents of files.
* `World.Idle`, `Idles`: Nothing was done between two worlds but to wait, and a task that does no more.
* `Uncut`: What holds after a task that is not cut off.

## Theorems

* `idle_tell`: Other events are told in between.
* `Uncut.attempt_bind`, `Idles.uncut_bind`: What comes after an attempt, and after a wait.
* `leads_elapse`, `leads_wait`: What does not change while time passes.
* `idles_perform`, `idles_pause`: What is waited for.
-/

namespace Replatform

variable {σ ε : Type}

/-- What a deed tells of the content of a file. -/
def Deed.content? : Deed → Option Event
  | .told (.fileContent path content isPartial) => some (.fileContent path content isPartial)
  | _ => none

namespace World

/-- What was told of the contents of files, in order. -/
def contents (w : World σ) : List Event :=
  w.seen Deed.content?

/-- Nothing was sent from one world to another, no content was told, and services remember the same. -/
structure Idle (w w' : World σ) : Prop where
  state : w'.state = w.state
  requests : w'.requests = w.requests
  contents : w'.contents = w.contents

/-- Services remember the same in both worlds. -/
def SameState (w w' : World σ) : Prop :=
  w'.state = w.state

instance : Composes (SameState (σ := σ)) where
  refl := fun _ => rfl
  trans := fun h h' => h'.trans h

theorem Idle.refl (w : World σ) : w.Idle w :=
  ⟨rfl, rfl, rfl⟩

theorem Idle.trans {w w' w'' : World σ} (h : w.Idle w') (h' : w'.Idle w'') : w.Idle w'' :=
  ⟨h'.state.trans h.state, h'.requests.trans h.requests, h'.contents.trans h.contents⟩

theorem contents_note (w : World σ) (d : Deed) :
    (w.note d).contents = w.contents ++ d.content?.toList :=
  seen_note Deed.content? w d

theorem contents_tell_of_none {e : Event} (he : (Deed.told e).content? = none) (w : World σ) :
    (w.tell e).contents = w.contents := by
  rw [tell, contents_note, he, Option.toList_none, List.append_nil]

theorem contents_tell_fileContent (w : World σ) (path content : String) (isPartial : Bool) :
    (w.tell (.fileContent path content isPartial)).contents =
      w.contents ++ [.fileContent path content isPartial] :=
  contents_note w _

theorem idle_tell {e : Event} (he : (Deed.told e).content? = none) (w : World σ) :
    w.Idle (w.tell e) :=
  ⟨rfl, requests_tell w e, contents_tell_of_none he w⟩

end World

/-- A task that does nothing but wait, and fails only when its signal is aborted. -/
def Idles {α : Type} (task : Work σ ServiceError α) : Prop :=
  ∀ w, Ends task w (fun _ w' => w.Idle w') (fun stop _ => ∀ e, stop = .failed e → e = .aborted)

/-- What holds of the result of a task or of its failure, if it is not cut off. -/
def Uncut {α : Type} (task : Work σ ServiceError α) (w : World σ)
    (P : Except ServiceError α → World σ → Prop) : Prop :=
  Ends task w (fun a w' => P (.ok a) w')
    (fun stop w' => ∀ e, stop = .failed e → e ≠ .aborted → P (.error e) w')

section Uncut

variable {α β : Type} {task : Work σ ServiceError α} {w : World σ}
  {P Q : Except ServiceError α → World σ → Prop}

theorem Uncut.mono (h : Uncut task w P) (hPQ : ∀ result w', P result w' → Q result w') :
    Uncut task w Q :=
  Ends.mono h (fun a w' => hPQ (.ok a) w') fun _ w' hstop e he hne => hPQ (.error e) w' (hstop e he hne)

theorem uncut_fail_aborted : Uncut (Work.fail .aborted) w P :=
  fun _ he hne => absurd (Stop.failed.inj he).symm hne

/-- What comes after a look at the signal begins under a live one. -/
theorem uncut_check_bind {signal : SignalId} {next : Unit → Work σ ServiceError α}
    (h : w.signals.isAborted signal = false → Uncut (next ()) w P) :
    Uncut (Work.check signal >>= next) w P := by
  exact Work.ends_check_bind (fun _ _ he hne => absurd (Stop.failed.inj he).symm hne) h

theorem Idles.uncut_bind (hidles : Idles task) {next : α → Work σ ServiceError β}
    {P : Except ServiceError β → World σ → Prop}
    (h : ∀ a w', w.Idle w' → Uncut (next a) w' P) : Uncut (task >>= next) w P := by
  rw [Uncut, ends_bind]
  exact (hidles w).mono h fun _ _ hcut e he hne => absurd (hcut e he) hne

/-- Whoever has a failure as a value may have that of a task that was cut off. -/
theorem Uncut.attempt_bind (h : Uncut task w Q) {next : Except ServiceError α → Work σ ServiceError β}
    {P : Except ServiceError β → World σ → Prop}
    (hnext : ∀ result w', Q result w' → Uncut (next result) w' P)
    (hcut : ∀ w', Uncut (next (.error .aborted)) w' P) :
    Uncut (Work.attempt task >>= next) w P := by
  rw [Uncut, ends_bind, Work.ends_attempt]
  refine Ends.mono h (fun a w' ha => hnext (.ok a) w' ha) (fun stop w' hstop => ?_)
  cases stop with
  | dropped => exact fun e he => absurd he nofun
  | failed e =>
      by_cases he : e = .aborted
      · rw [he]
        exact hcut w'
      · exact hnext (.error e) w' (hstop e rfl he)

end Uncut

namespace Work

section Leads

variable {R : World σ → World σ → Prop} [Composes R]

theorem leads_get : Leads R (get : Work σ ε (World σ)) :=
  fun w => Composes.refl w

theorem leads_check (signal : SignalId) : Leads R (check signal : Work σ ServiceError Unit) := by
  intro w
  rw [ends_check]
  by_cases hab : w.signals.isAborted signal = true
  · rw [if_pos hab]
    exact fun _ => Composes.refl w
  · rw [if_neg hab]
    exact Composes.refl w

variable (htime : ∀ w now agenda, R w { w with now, agenda }) (hcancel : ∀ w id, R w (w.cancel id))

include htime hcancel

/-- The agenda happens to the clock, to signals and to the task. -/
theorem leads_elapse (watch : SignalId) (time : Nat) (agenda : List (Nat × Outside)) :
    Leads R (elapse watch time agenda : Work σ ServiceError Unit) := by
  intro w
  induction agenda generalizing w with
  | nil => exact htime w time []
  | cons entry rest ih =>
      rcases entry with ⟨moment, what⟩
      unfold Ends
      rw [elapse]
      by_cases hlate : time < moment
      · rw [if_pos hlate]
        exact htime w time _
      · rw [if_neg hlate]
        cases what with
        | drop => exact fun _ => htime w _ rest
        | cancel id =>
            simp only []
            have hstep : R w (World.cancel { w with now := max w.now moment, agenda := rest } id) :=
              Composes.trans (htime w _ rest) (hcancel _ id)
            generalize World.cancel { w with now := max w.now moment, agenda := rest } id = w₁
              at hstep ⊢
            by_cases hab : w₁.signals.isAborted watch = true
            · rw [if_pos hab]
              exact fun _ => hstep
            · rw [if_neg hab]
              exact (ih w₁).mono (fun _ _ h => Composes.trans hstep h)
                (fun _ _ h _ => Composes.trans hstep (h trivial))

theorem leads_wait (watch : SignalId) (ms : Nat) :
    Leads R (wait watch ms : Work σ ServiceError Unit) := by
  unfold wait
  refine leads_ite ?_ (leads_pure ())
  refine (leads_check watch).bind fun _ => leads_get.bind fun w => ?_
  exact leads_elapse htime hcancel watch (w.now + ms) w.agenda

end Leads

theorem leads_sameState_wait (watch : SignalId) (ms : Nat) :
    Leads World.SameState (wait watch ms : Work σ ServiceError Unit) :=
  leads_wait (fun _ _ _ => rfl) (fun _ _ => rfl) watch ms

/-- A quiet task idles if it leaves services as they are and tells no content. -/
theorem idles_of {α : Type} {signal : SignalId} {task : Work σ ServiceError α}
    (hstate : Leads World.SameState task) (hquiet : Quiet signal task)
    (hdoes : Does (fun d => d.content? = none) task) : Idles task := by
  intro w
  have hcontents : Ends task w (fun _ w' => w'.contents = w.contents)
      (fun _ w' => w'.contents = w.contents) := hdoes.seen (fun _ hd => hd) w
  refine ((hstate w).and ((hquiet w).and hcontents)).mono (fun _ w' h => ?_) (fun stop w' h => ?_)
  · exact ⟨h.1, h.2.1, h.2.2⟩
  · exact fun e he => (h.2.1.2 e he).1

theorem idles_perform (signal : SignalId) (act : Act) :
    Idles (perform signal act : Work σ ServiceError Unit) := by
  refine idles_of ?_ (quiet_perform signal act) (does_perform (fun _ => rfl) signal act)
  cases act with
  | wait ms => exact leads_sameState_wait signal ms
  | cancel id => exact fun _ => rfl

theorem idles_pause (policy : RetryPolicy) (signal : SignalId) (number : Nat) :
    Idles (pause policy signal number : Work σ ServiceError Unit) := by
  refine idles_of ?_ (quiet_pause policy signal number)
    (does_pause (fun _ => rfl) (fun _ => rfl) policy signal number)
  have hdraw : Leads World.SameState (draw : Work σ ServiceError Nat) := fun _ => rfl
  have hnote : ∀ d, Leads World.SameState (note d : Work σ ServiceError Unit) := fun _ _ => rfl
  exact hdraw.bind fun _ => (leads_check signal).bind fun _ => (hnote _).bind fun _ =>
    leads_sameState_wait signal _

end Work

end Replatform
