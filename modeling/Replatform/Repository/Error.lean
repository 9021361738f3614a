/-!
# Repository Failures

Why a legacy repository could not be listed or a file of it not be read.

## Main definitions

* `RepositoryError`: The failures.
* `RepositoryError.message`: Their wording.
-/

namespace Replatform

/-- Why a repository could not be listed or read. -/
inductive RepositoryError where
  | notFound (text : String)
  | unauthorized (text : String)
  | rateLimited (text : String)
  | other (text : String)
deriving DecidableEq, Repr, Inhabited

namespace RepositoryError

/-- The wording of a failure. -/
def message : RepositoryError → String
  | .notFound text => "not found: " ++ text
  | .unauthorized text => "unauthorized: " ++ text
  | .rateLimited text => "rate limited: " ++ text
  | .other text => text

/-- No other file of the repository can be expected to be readable. -/
def isBlocking : RepositoryError → Bool
  | .unauthorized _ | .rateLimited _ => true
  | .notFound _ | .other _ => false

end RepositoryError

end Replatform
