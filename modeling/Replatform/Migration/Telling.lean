import Replatform.Migration.Error
import Replatform.Work.Call

/-!
# What the Phases Have in Common

Every phase tells what it does in log entries that carry its name and the time, and for
every phase the failure of a call is a failure of the migration.

## Main definitions

* `Work.log`, `WorkOn.log`: Tell a log entry.
* `Work.asPhase`: A call as part of a phase.
* `WorkOn.check`: Go on unless the migration is cancelled.
-/

namespace Replatform

variable {σ ε τ : Type}

namespace Work

/-- Tell a log entry. -/
def log (phase : Phase) (severity : Severity) (message : String) : Work σ ε Unit := fun w =>
  let timestamp := Timestamp.ofNanos (w.now * 1000000)
  .ok () (w.tell (.log { timestamp, message, severity, phase }))

/-- Do a call, whose failure is then that of a migration. -/
def asPhase {α : Type} (call : Work σ ServiceError α) : Work σ MigrationError α :=
  call.mapError MigrationError.ofService

end Work

namespace WorkOn

/-- Tell a log entry. -/
def log (phase : Phase) (severity : Severity) (message : String) : WorkOn τ σ ε Unit :=
  ofWork (Work.log phase severity message)

/-- Do a call, whose failure is then that of a migration. -/
def call {α : Type} (task : Work σ ServiceError α) : WorkOn τ σ MigrationError α :=
  ofWork task.asPhase

/-- Go on unless the migration is cancelled. -/
def check (signal : SignalId) : WorkOn τ σ MigrationError Unit :=
  call (Work.check signal)

end WorkOn

end Replatform
