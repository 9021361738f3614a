import Replatform.Service.Basic
import Replatform.Text.Search

/-!
# Echo

A service that answers what it is asked, to try out what is built on top of a service.

## Main definitions

* `Service.echo`: The service.
* `Stream.chunks`: The pieces of a streamed answer.
-/

namespace Replatform

namespace Service

/-- A text that begins like this is a failure. -/
def failureMark : String :=
  "fail:"

/-- The answer to a text. -/
def echoed (text : String) : Except ServiceError Response :=
  if Text.startsWith text failureMark then
    .error (.other (String.ofList (text.toList.drop failureMark.length)))
  else .ok { text := if text = "" then none else some text }

/-- A service that says what it is told. -/
def echo : Service Unit :=
  .ofRequest (fun caller r s =>
    ({ result := if caller.aborted then .error .aborted else echoed r.contents.toText }, s))
    fun _ => true

end Service

/-- The pieces of a streamed answer. -/
def Stream.chunks (s : Stream) : List String :=
  s.beats.filterMap fun
    | .chunk text => some text
    | .act _ => none

end Replatform
