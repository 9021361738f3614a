import Replatform.Service.Message
import Replatform.Service.Signal

/-!
# Services

A generation service is known by its behaviour: from what it remembers, it answers a
request with a reply and remembers more. A reply is what goes on before the answer is
there, and the answer. A streamed reply is a sequence of beats, which are pieces of
text and what goes on between them.

Nothing is assumed of a service. In particular it may take any time, cancel any signal
and answer anything, depending on everything that happened before.

## Main definitions

* `Act`, `Reply`: What goes on before an answer, and the answer.
* `Caller`: What a service sees of its caller.
* `Service`: A behaviour.
* `Service.ofRequest`: A service that streams its whole answer as one piece.
-/

namespace Replatform

/-- Something that goes on before an answer is there. -/
inductive Act where
  /-- Time passes. -/
  | wait (ms : Nat)
  /-- A signal is cancelled. -/
  | cancel (id : SignalId)
deriving DecidableEq, Repr

/-- What goes on before an answer, and the answer. -/
structure Reply (ε α : Type) where
  acts : List Act := []
  result : Except ε α

/-- What a service sees of its caller. -/
structure Caller where
  /-- The signal of the call. -/
  signal : SignalId
  /-- The signal is aborted already. -/
  aborted : Bool
  /-- The time of the call in milliseconds. -/
  now : Nat
deriving DecidableEq, Repr

/-- A step of a streamed reply. -/
inductive Beat where
  | act (act : Act)
  | chunk (text : String)
deriving DecidableEq, Repr

/-- A streamed reply: its steps, and the failure that ends it early. -/
structure Stream where
  beats : List Beat := []
  failure : Option ServiceError := none

/-- A generation service, where `σ` is what it remembers. -/
structure Service (σ : Type) where
  request : Caller → Request → σ → Reply ServiceError Response × σ
  stream : Caller → Request → σ → Stream × σ
  /-- The service has what it needs to make calls. -/
  hasKey : σ → Bool

/-- A reply as a stream of one piece. -/
def Reply.toStream (r : Reply ServiceError Response) : Stream :=
  match r.result with
  | .ok response => { beats := r.acts.map .act ++ [.chunk response.textOrEmpty] }
  | .error e => { beats := r.acts.map .act, failure := some e }

/-- A service that streams its whole answer as one piece. -/
def Service.ofRequest {σ : Type} (request : Caller → Request → σ → Reply ServiceError Response × σ)
    (hasKey : σ → Bool) : Service σ where
  request
  stream caller r st := ((request caller r st).1.toStream, (request caller r st).2)
  hasKey

end Replatform
