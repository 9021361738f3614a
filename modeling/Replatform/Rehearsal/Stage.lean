import Replatform.Rehearsal.Script
import Replatform.Rehearsal.Shelf

/-!
# Rehearsals

A scripted service, a repository in memory, and cues that take precedence over the
script. A cue is for the next request of a kind or for the next one for a file; it says
how long the answer takes, whether the signal of the request is cancelled meanwhile,
and what is answered, piece by piece if that matters.

## Main definitions

* `Cue`, `Piece`: What is answered, and a piece of it.
* `Stage`: All that a rehearsal needs.
* `Stage.service`, `Stage.repository`: The service and the repository.
-/

namespace Replatform

/-- What goes on before an answer: a pause, and maybe a cancellation. -/
structure Lead where
  delay : Nat := 0
  cancels : Bool := false
deriving DecidableEq, Repr

/-- What goes on before an answer, when the signal of the request is known. -/
def Lead.acts (l : Lead) (signal : SignalId) : List Act :=
  .wait l.delay :: if l.cancels then [.cancel signal] else []

/-- A piece of an answer, or the failure that ends it. -/
structure Piece where
  lead : Lead := {}
  result : Except ServiceError String

/-- What is answered. -/
structure Cue where
  lead : Lead := {}
  error : Option ServiceError := none
  text : Option String := none
  inlineData : List InlineData := []
  /-- The pieces of an answer that is streamed. -/
  pieces : Option (List Piece) := none

namespace Cue

/-- The answer to a request. -/
def reply (c : Cue) (signal : SignalId) : Reply ServiceError Response :=
  { acts := c.lead.acts signal
    result := match c.error with
      | some e => .error e
      | none => .ok { text := c.text, inlineData := c.inlineData } }

/-- The steps of some pieces, up to the first failure. -/
def beats (signal : SignalId) : List Piece → Stream
  | [] => {}
  | p :: ps =>
    let before := (p.lead.acts signal).map Beat.act
    match p.result with
    | .error e => { beats := before, failure := some e }
    | .ok text =>
      let rest := beats signal ps
      { rest with beats := before ++ .chunk text :: rest.beats }

/-- The streamed answer to a request. -/
def stream (c : Cue) (signal : SignalId) : Stream :=
  let before := (c.lead.acts signal).map Beat.act
  match c.error with
  | some e => { beats := before, failure := some e }
  | none =>
    let rest := beats signal (c.pieces.getD [{ result := .ok (c.text.getD "") }])
    { rest with beats := before ++ rest.beats }

end Cue

/-- All that a rehearsal needs. -/
structure Stage where
  script : Script := {}
  /-- The cues for each kind of request, and for requests for single files. -/
  cues : Table (List Cue) := ∅
  shelf : Shelf := {}

namespace Stage

/-- The names under which cues for a request are looked for. -/
def cueNames (r : Request) : List String :=
  match RequestKind.targetOf? r with
  | some target => ["generation:" ++ target, "generation"]
  | none => [(RequestKind.of r).label]

/-- Take the next cue for a request. -/
def nextCue (r : Request) (s : Stage) : Option (Cue × Stage) :=
  (cueNames r).findSome? fun name =>
    match s.cues.get? name with
    | some (cue :: rest) => some (cue, { s with cues := s.cues.insert name rest })
    | _ => none

/-- The service of a rehearsal. -/
def service : Service Stage where
  request caller r s :=
    match s.nextCue r with
    | some (cue, s) => (cue.reply caller.signal, s)
    | none =>
      let (reply, script) := Script.service.request caller r s.script
      (reply, { s with script })
  stream caller r s :=
    match s.nextCue r with
    | some (cue, s) => (cue.stream caller.signal, s)
    | none =>
      let (reply, script) := Script.service.stream caller r s.script
      (reply, { s with script })
  hasKey s := s.script.hasKey

/-- The repository of a rehearsal. -/
def repository : Repository Stage where
  list caller url s :=
    let (reply, shelf) := Shelf.repository.list caller url s.shelf
    (reply, { s with shelf })
  read caller url path s :=
    let (reply, shelf) := Shelf.repository.read caller url path s.shelf
    (reply, { s with shelf })

end Stage

end Replatform
