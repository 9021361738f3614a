import Replatform.Progress
import Replatform.Time.Timestamp
import Replatform.Tree.Node

/-!
# Events

What the phases of a migration tell whoever watches: log entries, the status and
content of files while they are generated, progress, applied fixes and verdicts.

## Main definitions

* `Severity`, `Phase`: How bad an entry is, and where it comes from.
* `Event`: What is told.
-/

namespace Replatform

/-- How bad a log entry is. -/
inductive Severity where
  | info
  | success
  | warning
  | error
deriving DecidableEq, Repr

/-- A phase of a migration. -/
inductive Phase where
  | analyze
  | scaffold
  | generate
  | verify
  | regenerate
deriving DecidableEq, Repr

/-- The name of a phase. -/
def Phase.label : Phase → String
  | .analyze => "analyze"
  | .scaffold => "scaffold"
  | .generate => "generate"
  | .verify => "verify"
  | .regenerate => "regenerate"

/-- A line of the log. -/
structure LogEntry where
  timestamp : Timestamp
  message : String
  severity : Severity
  phase : Phase
deriving DecidableEq, Repr

/-- What a phase tells whoever watches. -/
inductive Event where
  | log (entry : LogEntry)
  | fileStatus (path : String) (status : FileStatus)
  /-- The content of a file, or what there is of it so far. -/
  | fileContent (path content : String) (isPartial : Bool)
  | progress (progress : Progress)
  /-- A pass of the verification replaced a file. -/
  | fixApplied (path : String) (pass : Nat)
  | verification (verdict : Verdict)
deriving DecidableEq, Repr

end Replatform
