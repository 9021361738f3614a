import Replatform.Migration.Orchestrator

/-!
# Sessions

A session runs one migration at a time for somebody who may cancel it, and keeps what it
came to. Every migration has a signal of its own. Beginning a migration cancels the one
before it; a migration may be begun ahead of being run, and is then run under the signal
that was handed out, unless that was cancelled meanwhile.

## Main definitions

* `SessionState`: What a session is doing, or how it ended.
* `Session`: A session.
* `Session.start`, `beginRun`, `cancel`: Signals.
* `Session.run`, `verify`, `regenerate`: The phases, with what they mean for the session.
* `Session.report`: The report on the migration.
-/

namespace Replatform

/-- What a session is doing, or how it ended. -/
inductive SessionState where
  | idle
  | running (phase : Phase)
  | completed
  | failed (message : String)
deriving DecidableEq, Repr

namespace SessionState

/-- How a state is shown. -/
def text : SessionState → String
  | .idle => "idle"
  | .running phase => "running (" ++ phase.label ++ ")"
  | .completed => "completed"
  | .failed message => "failed: " ++ message

/-- A phase is going on. -/
def isRunning : SessionState → Bool
  | .running _ => true
  | _ => false

/-- The state that follows from a result. -/
def ofResult {α : Type} : Except MigrationError α → SessionState
  | .ok _ => .completed
  | .error e => if e.isCancelled then .idle else .failed e.message

end SessionState

/-- One migration at a time. -/
structure Session where
  state : SessionState := .idle
  /-- The number of the current or last migration. -/
  runId : Option Nat := none
  /-- The signal of the current migration. -/
  signal : SignalId
  /-- A migration was begun and has not been run yet. -/
  armed : Bool := false
  run : Option Run := none

namespace Session

variable {σ α : Type}

/-- A session in a world, with a signal of its own. -/
def start (w : World σ) : World σ × Session :=
  (w.freshSignal.2, { signal := w.freshSignal.1 })

/-- Have a new signal, of which the session knows. -/
def renewSignal {ε : Type} : WorkOn Session σ ε SignalId := fun (w, s) =>
  let (signal, w) := w.freshSignal
  .ok signal (w, { s with signal })

/-- Begin a migration, which cancels the one before it. -/
def beginRun {ε : Type} : WorkOn Session σ ε SignalId := do
  -- The old signal is cancelled before there is a new one, so that one at most is live.
  WorkOn.ofWork (Work.cancel (← WorkOn.held).signal)
  let signal ← renewSignal
  WorkOn.change fun s =>
    { s with runId := some (s.runId.getD 0 + 1), armed := true, run := none, state := .idle }
  return signal

/-- Cancel the current migration. -/
def cancel {ε : Type} : WorkOn Session σ ε Unit := do
  WorkOn.ofWork (Work.cancel (← WorkOn.held).signal)
  WorkOn.change fun s => { s with state := .idle }

/-- The signal for more work on the current migration. -/
def followUpSignal {ε : Type} : WorkOn Session σ ε SignalId := do
  let signal := (← WorkOn.held).signal
  if ← .ofWork (Work.isAborted signal) then renewSignal else return signal

/-- Say that a phase is going on. -/
def enter {ε : Type} (phase : Phase) : WorkOn Session σ ε Unit :=
  WorkOn.change fun s => { s with state := .running phase }

/-- Do a task, and settle what its result means for the session. -/
def settle (task : WorkOn Session σ MigrationError α) : WorkOn Session σ MigrationError α := do
  let result ← WorkOn.attempt task
  WorkOn.change fun s => { s with state := .ofResult result }
  match result with
  | .ok a => return a
  | .error e => WorkOn.fail e

/-- Work on the run of the session. -/
def onRun (task : WorkOn Run σ MigrationError α) : WorkOn Session σ MigrationError α :=
  WorkOn.within (fun s => s.run.getD {}) (fun run s => { s with run := some run }) task

/-- The phases of a migration under a signal. -/
def phases (o : Orchestrator σ) (url : String) (signal : SignalId) :
    WorkOn Session σ MigrationError Unit := do
  enter .analyze
  let run ← .ofWork (o.analyze url signal)
  -- From here on a phase that fails leaves what it did in the session.
  WorkOn.change fun s => { s with run := some run }
  enter .scaffold
  onRun (o.scaffold signal)
  enter .generate
  let _ ← onRun (o.generate signal)
  enter .verify
  onRun (o.verifyIfAny signal)

/-- The signal to run a migration under: that of one that was begun ahead, unless it is
    cancelled. -/
def runSignal {ε : Type} : WorkOn Session σ ε SignalId := do
  let s ← WorkOn.held
  if s.armed && !(← .ofWork (Work.isAborted s.signal)) then return s.signal else beginRun

/-- Run a migration. -/
def runMigration (o : Orchestrator σ) (url : String) : WorkOn Session σ MigrationError Unit := do
  let signal ← runSignal
  WorkOn.change fun s => { s with armed := false }
  settle (phases o url signal)

/-- Verify the current migration. -/
def verify (o : Orchestrator σ) : WorkOn Session σ MigrationError Verdict := do
  let signal ← followUpSignal
  if (← WorkOn.held).run.isNone then WorkOn.fail (.invalidState "no run to verify")
  else
    enter .verify
    settle (onRun (o.verify signal))

/-- Generate a file of the current migration again. -/
def regenerate (o : Orchestrator σ) (path : String) (instructions : Option String) :
    WorkOn Session σ MigrationError Bool := do
  let signal ← followUpSignal
  if (← WorkOn.held).run.isNone then WorkOn.fail (.invalidState "no run to regenerate in")
  else
    enter .regenerate
    settle (onRun (o.regenerate path instructions signal))

/-- The report on the current or last migration. -/
def report (s : Session) : Option Report :=
  s.run.map fun run => { run.report with runId := s.runId.map toString }

end Session

end Replatform
