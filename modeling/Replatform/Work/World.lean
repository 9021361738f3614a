import Replatform.Migration.Event
import Replatform.Repository.Cache
import Replatform.Service.Message
import Replatform.Service.Signal

/-!
# The World of a Task

What a task works in: a clock, the abort signals, the cache of legacy sources, the
state of the services and repositories that it calls, and chance. What happens outside
of the task is known beforehand as an agenda: at given times a signal is cancelled, or
the task itself is dropped. Time passes only while the task waits.

Everything a task does that others can see is kept in the order in which it was done.

## Main definitions

* `Deed`: What others can see of a task.
* `World`: What a task works in.
* `World.tell`, `World.cancel`: Doing something.
* `World.events`, `World.requests`: What was done so far.
-/

namespace Replatform

/-- Something that a task did and that others can see. -/
inductive Deed where
  /-- An event was told. -/
  | told (event : Event)
  /-- A request was sent to the service. -/
  | asked (request : Request)
  /-- The tree of a repository was asked for. -/
  | listed (url : String)
  /-- A file of a repository was asked for. -/
  | read (url path : String)
  /-- A pause before another attempt began. -/
  | paused (ms : Nat)
  /-- A signal was cancelled. -/
  | cancelled (id : SignalId)
deriving DecidableEq, Repr

/-- Something that happens to a task from outside. -/
inductive Outside where
  /-- A signal is cancelled. -/
  | cancel (id : SignalId)
  /-- The task is dropped. -/
  | drop
deriving DecidableEq, Repr

/-- What a task works in, where `σ` is the state of the services and repositories. -/
structure World (σ : Type) where
  /-- What the services and repositories remember. -/
  state : σ
  /-- The time in milliseconds since the beginning of 1970. -/
  now : Nat := 0
  signals : Signals := {}
  /-- What happens outside, in the order of time. -/
  agenda : List (Nat × Outside) := []
  cache : Cache := {}
  /-- The random numbers. -/
  dice : Nat → Nat := fun _ => 0
  /-- How many random numbers were used up. -/
  thrown : Nat := 0
  /-- What was done, the latest first. -/
  deeds : List Deed := []

namespace World

variable {σ : Type}

/-- Keep in mind that something was done. -/
def note (w : World σ) (d : Deed) : World σ :=
  { w with deeds := d :: w.deeds }

/-- Tell an event. -/
def tell (w : World σ) (e : Event) : World σ :=
  w.note (.told e)

/-- Cancel a signal. -/
def cancel (w : World σ) (id : SignalId) : World σ :=
  { w with signals := w.signals.cancel id }.note (.cancelled id)

/-- Make a signal that depends on no other. -/
def freshSignal (w : World σ) : SignalId × World σ :=
  (w.signals.next, { w with signals := w.signals.fresh.2 })

/-- Plan that something happens outside at a given time. -/
def schedule (w : World σ) (time : Nat) (what : Outside) : World σ :=
  { w with
    agenda := w.agenda.takeWhile (·.1 ≤ time) ++ (time, what) :: w.agenda.dropWhile (·.1 ≤ time) }

/-- Give up what was planned for the task itself, which has ended. -/
def keepTask (w : World σ) : World σ :=
  { w with agenda := w.agenda.filter (·.2 ≠ .drop) }

/-- The event of a deed. -/
def eventOf? : Deed → Option Event
  | .told e => some e
  | _ => none

/-- The request of a deed. -/
def requestOf? : Deed → Option Request
  | .asked r => some r
  | _ => none

/-- The events told so far, in order. -/
def events (w : World σ) : List Event :=
  w.deeds.reverse.filterMap eventOf?

/-- The requests sent so far, in order. -/
def requests (w : World σ) : List Request :=
  w.deeds.reverse.filterMap requestOf?

/-- How often a file of a repository was asked for. -/
def reads (w : World σ) : Nat :=
  w.deeds.countP fun
    | .read _ _ => true
    | _ => false

end World

end Replatform
