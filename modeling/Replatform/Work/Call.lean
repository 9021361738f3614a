import Replatform.Repository.Basic
import Replatform.Work.Retry

/-!
# Calling Services and Repositories

A call is noted, the service or repository gives its reply, and what goes on before
the answer is gone through under the signal of the call. The files of a repository are
read through the cache, which is asked first and stores what is read.

## Main definitions

* `Service.call`, `Service.callRetrying`: A request, once or as often as it takes.
* `Service.open`: A streamed reply.
* `Repository.fetch`, `Repository.fetchFile`: The tree of a repository, and a file.
-/

namespace Replatform

variable {σ : Type}

namespace Service

/-- Send a request once. -/
def call (s : Service σ) (signal : SignalId) (r : Request) : Work σ ServiceError Response := do
  Work.note (.asked r)
  let reply ← Work.consult signal (s.request · r)
  Work.performAll signal reply.acts
  Work.ofExcept reply.result

/-- Send a request as often as it takes and the policy allows. -/
def callRetrying (s : Service σ) (policy : RetryPolicy) (signal : SignalId) (r : Request) :
    Work σ ServiceError Response :=
  Work.retrying policy signal (s.call signal r)

/-- Send a request for a streamed reply. -/
def openStream (s : Service σ) (signal : SignalId) (r : Request) : Work σ ServiceError Stream := do
  Work.note (.asked r)
  Work.consult signal (s.stream · r)

end Service

namespace Repository

/-- Ask for the tree of a repository. The inner result is that of the repository. -/
def fetch (r : Repository σ) (signal : SignalId) (url : String) :
    Work σ ServiceError (Except RepositoryError Tree) := do
  Work.check signal
  Work.note (.listed url)
  let reply ← Work.consult signal (r.list · url)
  Work.performAll signal reply.acts
  return reply.result

/-- Ask for the content of a file without looking into the cache, and store it there. -/
def readFile (r : Repository σ) (signal : SignalId) (url path : String) :
    Work σ ServiceError (Except RepositoryError String) := do
  Work.note (.read url path)
  let reply ← Work.consult signal (r.read · url path)
  Work.performAll signal reply.acts
  match reply.result with
  | .ok content => modify fun w => { w with cache := w.cache.insert url path content }
  | .error _ => pure ()
  return reply.result

/-- Ask for the content of a file. The inner result is that of the repository. -/
def fetchFile (r : Repository σ) (signal : SignalId) (url path : String) :
    Work σ ServiceError (Except RepositoryError String) := do
  Work.check signal
  match (← get).cache.get? url path with
  | some content => return .ok content
  | none => r.readFile signal url path

end Repository

end Replatform
