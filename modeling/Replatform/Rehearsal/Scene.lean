import Replatform.Migration.Telling
import Replatform.Rehearsal.Wire
import Replatform.Wire.Event

/-!
# Scenes

A rehearsal that is under way: the world with its stage, the signal under which tasks
are done, and what they work on. A task may be given a time after which it is dropped;
what is told and asked while it is done can be seen afterwards.

## Main definitions

* `Scene`: A rehearsal that is under way.
* `Scene.play`: Do a task.
* `Scene.cancelOn`, `Scene.renewSignal`: Prepare the next one.
* `Scene.eventsSince`, `Scene.requestsSince`: What was told and asked meanwhile.
-/

namespace Replatform

/-- A rehearsal that is under way, with a `τ` in its hands. -/
structure Scene (τ : Type) where
  world : World Stage
  signal : SignalId := 0
  held : τ

namespace Scene

variable {τ α : Type}

/-- The beginning of a rehearsal, with a signal. -/
def start (stage : Stage) (held : τ) : Scene τ :=
  { world := (World.freshSignal { state := stage }).2, held }

/-- A change of the world. -/
def onWorld (f : World Stage → World Stage) (c : Scene τ) : Scene τ :=
  { c with world := f c.world }

/-- Do a task, which is dropped if it is not done after some milliseconds. -/
def play (c : Scene τ) (patience : Option Nat) (task : WorkOn τ Stage MigrationError α) :
    Except (Stop MigrationError) α × Scene τ :=
  let w := match patience with
    | some ms => c.world.schedule (c.world.now + ms) .drop
    | none => c.world
  match task (w, c.held) with
  | .ok a (w, held) => (.ok a, { c with world := w.keepTask, held })
  | .error stop (w, held) => (.error stop, { c with world := w.keepTask, held })

/-- Let the request for a file cancel a signal. -/
def cancelOn (signal : SignalId) (path : String) : Scene τ → Scene τ :=
  onWorld fun w => { w with state.script.cancelOn := some (path, signal) }

/-- Do the next tasks under a new signal. -/
def renewSignal (c : Scene τ) : Scene τ :=
  { c with world := c.world.freshSignal.2, signal := c.world.freshSignal.1 }

/-- The events that were told since an earlier moment. -/
def eventsSince (earlier c : Scene τ) : List Event :=
  c.world.events.drop earlier.world.events.length

/-- The requests that were sent since an earlier moment. -/
def requestsSince (earlier c : Scene τ) : List Request :=
  c.world.requests.drop earlier.world.requests.length

end Scene

/-- An event in short: a log entry is shown without its time. -/
def Event.brief : Event → Json
  | .log l => .arr [.str l.severity.label, .str l.phase.label, .str l.message]
  | e => e.toJson

/-- A request in short: what it is for, and for which file. -/
def Request.brief (r : Request) : Json :=
  .arr [.str (RequestKind.of r).label, .ofText? (RequestKind.targetOf? r)]

/-- A request with what it is for. -/
def Request.labelled (r : Request) : Json :=
  .ofMembers [("kind", .str (RequestKind.of r).label), ("request", r.toJson)]

end Replatform
