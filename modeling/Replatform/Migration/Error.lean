import Replatform.Config.Basic
import Replatform.Repository.Error
import Replatform.Service.Error

/-!
# Failures of a Migration

Why a phase of a migration ended without a result. A call that was aborted means that
the migration was cancelled, which is nobody's fault and not fatal.

## Main definitions

* `MigrationError`: The failures.
* `MigrationError.message`: Their wording.
* `MigrationError.ofService`: What the failure of a call means for a migration.
-/

namespace Replatform

/-- The wording of a refusal. What a text that is no configuration looks like is not said. -/
def ConfigError.message : ConfigError → String
  | .unreadable => "invalid TOML"
  | .invalid field reason => "invalid value for " ++ field ++ ": " ++ reason

/-- Why a phase ended without a result. -/
inductive MigrationError where
  | cancelled
  | remote (error : ServiceError)
  | repository (error : RepositoryError)
  /-- The filters leave no file. -/
  | emptyScope (filters : String)
  /-- The plan has no file. -/
  | emptyScaffold
  /-- The file is not part of the plan. -/
  | unknownTarget (path : String)
  /-- The phase before this one has not been through. -/
  | invalidState (reason : String)
  | config (error : ConfigError)
deriving DecidableEq, Repr

namespace MigrationError

/-- What the failure of a call means for a migration. -/
def ofService (e : ServiceError) : MigrationError :=
  if e.isAbort then .cancelled else .remote e

/-- The wording of a failure. -/
def message : MigrationError → String
  | .cancelled => "migration cancelled"
  | .remote e => "remote call failed: " ++ e.message
  | .repository e => "repository error: " ++ e.message
  | .emptyScope filters => "no files matched the scope filters: " ++ filters
  | .emptyScaffold => "scaffold plan is empty"
  | .unknownTarget path => "not a scaffolded file: " ++ path
  | .invalidState reason => "invalid state: " ++ reason
  | .config e => "configuration error: " ++ e.message

/-- The migration was cancelled. -/
def isCancelled : MigrationError → Bool
  | .cancelled => true
  | _ => false

/-- The migration came to nothing for a reason. -/
def isFatal (e : MigrationError) : Bool :=
  !e.isCancelled

/-- To start over may help. -/
def isRetryable : MigrationError → Bool
  | .remote e => e.isRetryable
  | .repository (.rateLimited _) => true
  | _ => false

end MigrationError

end Replatform
