import Replatform.Service.Basic
import Replatform.Work.World

/-!
# Tasks

Work that is done in a world, and that may fail or be dropped on the way. What was
done up to then stays done. A task may also have something in its hands, such as the
tree it fills.

A task that waits watches a signal, and fails the moment the signal is aborted. A task
that does not wait notices nothing.

## Main definitions

* `Stop`: Why a task ended without a result.
* `Work`, `WorkOn`: Tasks, and tasks with something in their hands.
* `Work.wait`: Let time pass.
* `Work.attempt`: Go on after a failure.
* `WorkOn.taking`: Work on a part of what is in the hands.
-/

namespace Replatform

/-- Why a task ended without a result. -/
inductive Stop (ε : Type) where
  | failed (error : ε)
  /-- The task was abandoned from outside while it waited. -/
  | dropped
deriving DecidableEq, Repr

/-- A task in a world. -/
abbrev Work (σ ε : Type) := EStateM (Stop ε) (World σ)

/-- A task in a world that has a `τ` in its hands. -/
abbrev WorkOn (τ σ ε : Type) := EStateM (Stop ε) (World σ × τ)

namespace Work

variable {σ ε δ α : Type}

/-- Fail. -/
def fail (e : ε) : Work σ ε α :=
  throw (.failed e)

/-- Do a task and have its failure as a value. -/
def attempt (task : Work σ ε α) : Work σ δ (Except ε α) := fun w =>
  match task w with
  | .ok a w => .ok (.ok a) w
  | .error (.failed e) w => .ok (.error e) w
  | .error .dropped w => .error .dropped w

/-- Do a task and fail in other words. -/
def mapError (f : ε → δ) (task : Work σ ε α) : Work σ δ α := fun w =>
  match task w with
  | .ok a w => .ok a w
  | .error (.failed e) w => .error (.failed (f e)) w
  | .error .dropped w => .error .dropped w

/-- The value of a result, or its failure. -/
def ofExcept : Except ε α → Work σ ε α
  | .ok a => pure a
  | .error e => fail e

/-- The time in milliseconds. -/
def now : Work σ ε Nat := do
  return (← get).now

/-- Keep in mind that something was done. -/
def note (d : Deed) : Work σ ε Unit :=
  modify (World.note · d)

/-- Tell an event. -/
def tell (e : Event) : Work σ ε Unit :=
  modify (World.tell · e)

/-- Cancel a signal. -/
def cancel (id : SignalId) : Work σ ε Unit :=
  modify (World.cancel · id)

/-- A signal is aborted. -/
def isAborted (id : SignalId) : Work σ ε Bool := do
  return (← get).signals.isAborted id

/-- Fail if a signal is aborted. -/
def check (id : SignalId) : Work σ ServiceError Unit := do
  ofExcept ((← get).signals.check id)

/-- A random number. -/
def draw : Work σ ε Nat := fun w =>
  .ok (w.dice w.thrown) { w with thrown := w.thrown + 1 }

/-- Let the clock run to `time`, through everything on the agenda up to then. -/
def elapse (watch : SignalId) (time : Nat) : List (Nat × Outside) → Work σ ServiceError Unit
  | [], w => .ok () { w with now := time, agenda := [] }
  | (moment, what) :: rest, w =>
    if time < moment then .ok () { w with now := time, agenda := (moment, what) :: rest }
    else
      -- What is planned for the end of the wait happens before the task goes on.
      let w := { w with now := max w.now moment, agenda := rest }
      match what with
      | .drop => .error .dropped w
      | .cancel id =>
        let w := w.cancel id
        if w.signals.isAborted watch then .error (.failed .aborted) w else elapse watch time rest w

/-- Wait for some milliseconds, but no longer than a signal lives. To wait for no time at all
    is not to wait. -/
def wait (watch : SignalId) (ms : Nat) : Work σ ServiceError Unit := do
  if ms ≠ 0 then
    check watch
    let w ← get
    elapse watch (w.now + ms) w.agenda

/-- Let something go on, and watch a signal meanwhile. -/
def perform (watch : SignalId) : Act → Work σ ServiceError Unit
  | .wait ms => wait watch ms
  | .cancel id => cancel id

/-- Let some things go on one after another. -/
def performAll (watch : SignalId) : List Act → Work σ ServiceError Unit
  | [] => pure ()
  | act :: acts => do
    perform watch act
    performAll watch acts

/-- Let a service or repository go from what it remembers to an answer. -/
def consult {β : Type} (signal : SignalId) (answer : Caller → σ → β × σ) : Work σ ε β := fun w =>
  let caller := { signal, aborted := w.signals.isAborted signal, now := w.now }
  let (b, state) := answer caller w.state
  .ok b { w with state }

end Work

namespace WorkOn

variable {σ ε δ τ υ α : Type}

/-- A task that leaves what is in the hands alone. -/
def ofWork (task : Work σ ε α) : WorkOn τ σ ε α := fun (w, t) =>
  match task w with
  | .ok a w => .ok a (w, t)
  | .error e w => .error e (w, t)

/-- Tell an event. -/
def tell (e : Event) : WorkOn τ σ ε Unit :=
  ofWork (Work.tell e)

/-- Fail. -/
def fail (e : ε) : WorkOn τ σ ε α :=
  throw (.failed e)

/-- What is in the hands. -/
def held : WorkOn τ σ ε τ := do
  return (← get).2

/-- Change what is in the hands. -/
def change (f : τ → τ) : WorkOn τ σ ε Unit :=
  modify fun (w, t) => (w, f t)

/-- Do a task and have its failure as a value. -/
def attempt (task : WorkOn τ σ ε α) : WorkOn τ σ δ (Except ε α) := fun s =>
  match task s with
  | .ok a s => .ok (.ok a) s
  | .error (.failed e) s => .ok (.error e) s
  | .error .dropped s => .error .dropped s

/-- Begin a task with something in the hands, and have that together with the result. -/
def startingWith (t : τ) (task : WorkOn τ σ ε α) : Work σ ε (α × τ) := fun w =>
  match task (w, t) with
  | .ok a (w, t) => .ok (a, t) w
  | .error e (w, _) => .error e w

/-- Work on a part in its place. -/
def within (part : τ → υ) (put : υ → τ → τ) (task : WorkOn υ σ ε α) : WorkOn τ σ ε α := fun (w, t) =>
  match task (w, part t) with
  | .ok a (w, u) => .ok a (w, put u t)
  | .error e (w, u) => .error e (w, put u t)

/-- Take a part out, leaving `hole` in its place, work on it and put it back. If the task is
    dropped, the part is lost. -/
def taking (part : τ → υ) (put : υ → τ → τ) (hole : υ) (task : WorkOn υ σ ε α) :
    WorkOn τ σ ε α := fun (w, t) =>
  match task (w, part t) with
  | .ok a (w, u) => .ok a (w, put u t)
  | .error (.failed e) (w, u) => .error (.failed e) (w, put u t)
  | .error .dropped (w, _) => .error .dropped (w, put hole t)

end WorkOn

end Replatform
