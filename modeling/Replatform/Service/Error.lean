import Replatform.Text.Search

/-!
# Failures of a Generation Service

Why a call to a generation service failed, and which failures are worth another
attempt. A failure is retryable when its status says that the service is busy or when
its text looks like trouble on the way there. A call that was aborted and a service
that is not set up stay what they are, whatever their text.

## Main definitions

* `ServiceError`: The failures.
* `ServiceError.message`: Their wording.
* `isTransient`: A text speaks of passing trouble.
* `ServiceError.isRetryable`: Another attempt may succeed.
-/

namespace Replatform

/-- Why a call to a generation service failed. -/
inductive ServiceError where
  /-- The caller gave up. -/
  | aborted
  /-- The service answered with an error status. -/
  | status (code : Nat) (text : String)
  /-- The request or its answer was lost on the way. -/
  | transport (text : String)
  /-- The answer could not be read. -/
  | malformed (text : String)
  /-- The service is not set up. -/
  | unavailable (text : String)
  | other (text : String)
deriving DecidableEq, Repr, Inhabited

/-- The phrases, in lower case, that speak of passing trouble. -/
def transientPhrases : List String :=
  ["network", "timeout", "timed out", "connection reset", "connection refused", "socket hang up",
    "fetch failed", "temporarily unavailable", "overloaded", "econnreset", "etimedout"]

/-- The lower-case letter among `a` to `z` that a character equals but for case, where the
    Kelvin sign is a `k` and the long s an `s`; any other character itself. -/
def foldCase (c : Char) : Char :=
  if c.toNat == 0x212A then 'k' else if c.toNat == 0x17F then 's' else c.toLower

/-- The text speaks of passing trouble, in whatever case. -/
def isTransient (text : String) : Bool :=
  transientPhrases.any fun phrase => Text.occurs phrase.toList (text.toList.map foldCase)

namespace ServiceError

/-- The statuses that say that the service is busy or out of order for now. -/
def busyStatuses : List Nat := [408, 429, 500, 502, 503, 504]

/-- The wording of a failure. -/
def message : ServiceError → String
  | .aborted => "operation aborted"
  | .status code text => "service returned status " ++ toString code ++ ": " ++ text
  | .transport text => "transport error: " ++ text
  | .malformed text => "malformed response: " ++ text
  | .unavailable text => "service unavailable: " ++ text
  | .other text => text

/-- The caller gave up. -/
def isAbort : ServiceError → Bool
  | .aborted => true
  | _ => false

/-- The status that the service answered with. -/
def status? : ServiceError → Option Nat
  | .status code _ => some code
  | _ => none

/-- Another attempt may succeed. -/
def isRetryable : ServiceError → Bool
  | .aborted | .unavailable _ => false
  | .status code text => busyStatuses.contains code || isTransient text
  | .transport text | .malformed text | .other text => isTransient text

end ServiceError

end Replatform
