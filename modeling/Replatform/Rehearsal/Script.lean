import Replatform.Migration.Prompt
import Replatform.Service.Basic

/-!
# Scripted Answers

A generation service that answers from a script, for trying out migrations without a
model. It knows a request by its instruction, and the file that is asked for by its
first line. A file may be scripted to fail, to fail a few times, or to cancel a signal.

## Main definitions

* `RequestKind`: What a request is for.
* `Script`: The answers.
* `Script.answer`: The answer to a request.
* `Script.service`: The service, which streams every answer in two halves.
-/

namespace Replatform

/-- What a request is for. -/
inductive RequestKind where
  | analysis
  | layout
  | generation
  | verification
  | diagram
  | unknown
deriving DecidableEq, Repr

namespace RequestKind

/-- What a request is for, by what it asks for and by its instruction. -/
def of (r : Request) : RequestKind :=
  if r.settings.image.isSome then .diagram
  else if r.settings.system = some Prompt.analysisSystem then .analysis
  else if r.settings.system = some Prompt.structureSystem then .layout
  else if r.settings.system = some Prompt.generationSystem then .generation
  else if r.settings.system = some Prompt.verificationSystem then .verification
  else .unknown

/-- The name of a kind. -/
def label : RequestKind → String
  | .analysis => "analysis"
  | .layout => "structure"
  | .generation => "generation"
  | .verification => "verification"
  | .diagram => "diagram"
  | .unknown => "unknown"

/-- How the text of a request for a file begins. -/
def opening : String :=
  "Generate the file `"

/-- The mark before and behind the name of a file. -/
def nameMark : Char := Char.ofNat 0x60

/-- The file that a text asks for. -/
def target? (prompt : String) : Option String :=
  if Text.startsWith prompt opening then
    some (String.ofList ((prompt.toList.drop opening.length).takeWhile (· != nameMark)))
  else none

/-- The file that a request asks for. -/
def targetOf? (r : Request) : Option String :=
  if of r = .generation then target? r.contents.toText else none

end RequestKind

/-- What a scripted service answers. -/
structure Script where
  analysis : String := "\x7b\x7d"
  layout : String := "[]"
  /-- The contents of files. -/
  files : Table String := ∅
  /-- The reviews, one after another. -/
  verifications : List String := []
  image : Option InlineData := none
  /-- The files that fail. -/
  failing : Table ServiceError := ∅
  /-- How often files still fail before they are generated. -/
  flaky : Table Nat := ∅
  /-- The file whose request cancels a signal. -/
  cancelOn : Option (String × SignalId) := none
  hasKey : Bool := true
  /-- The requests so far, the latest first. -/
  requests : List Request := []

namespace Script

/-- What is answered for a file that is not in the script. -/
def placeholder (target : String) : String :=
  "// " ++ target ++ "\nexport \x7b\x7d;\n"

/-- The answer to the request for a file. -/
def answerFile (target : String) (s : Script) : Reply ServiceError Response × Script :=
  match s.cancelOn.filter (·.1 == target) with
  | some (_, signal) => ({ acts := [.cancel signal], result := .error .aborted }, s)
  | none =>
    match s.failing.get? target with
    | some e => ({ result := .error e }, s)
    | none =>
      match (s.flaky.get? target).getD 0 with
      | left + 1 =>
        ({ result := .error (.status 503 "overloaded") }, { s with flaky := s.flaky.insert target left })
      | 0 =>
        ({ result := .ok (.ofText ((s.files.get? target).getD (placeholder target))) }, s)

/-- The answer to a request that is in the list already. -/
def answerKnown (r : Request) (s : Script) : Reply ServiceError Response × Script :=
  match RequestKind.of r with
  | .analysis => ({ result := .ok (.ofText s.analysis) }, s)
  | .layout => ({ result := .ok (.ofText s.layout) }, s)
  | .generation =>
    match RequestKind.target? r.contents.toText with
    | some target => s.answerFile target
    | none => ({ result := .error (.malformed "prompt names no target") }, s)
  | .verification =>
    match s.verifications with
    | text :: rest => ({ result := .ok (.ofText text) }, { s with verifications := rest })
    | [] => ({ result := .ok (.ofText "\x7b\"passed\": true, \"issues\": []\x7d") }, s)
  | .diagram =>
    match s.image with
    | some image => ({ result := .ok { inlineData := [image] } }, s)
    | none => ({ result := .error (.status 400 "image output not supported") }, s)
  | .unknown => ({ result := .error (.other "unscripted request") }, s)

/-- The answer to a request, unless the caller has given up. -/
def answer (caller : Caller) (r : Request) (s : Script) : Reply ServiceError Response × Script :=
  if caller.aborted then ({ result := .error .aborted }, s)
  else answerKnown r { s with requests := r :: s.requests }

/-- Take characters while they fit into so many bytes. -/
def takeBytes : Nat → List Char → List Char
  | _, [] => []
  | n, c :: cs => if c.utf8Size ≤ n then c :: takeBytes (n - c.utf8Size) cs else []

/-- The halves of a text in bytes, the first one smaller if the middle is inside of a
    character. -/
def halves (text : String) : List String :=
  let first := takeBytes (text.utf8ByteSize / 2) text.toList
  [String.ofList first, String.ofList (text.toList.drop first.length)]

/-- A reply as a stream of two pieces. -/
def inHalves (r : Reply ServiceError Response) : Stream :=
  match r.result with
  | .ok response =>
    { beats := r.acts.map .act ++ (halves response.textOrEmpty).map .chunk }
  | .error e => { beats := r.acts.map .act, failure := some e }

/-- The service that answers from a script. -/
def service : Service Script where
  request := answer
  stream caller r s := (inHalves (answer caller r s).1, (answer caller r s).2)
  hasKey s := s.hasKey

/-- How many requests of a kind there were. -/
def calls (s : Script) (kind : RequestKind) : Nat :=
  s.requests.countP fun r => RequestKind.of r = kind

/-- The files that were asked for, in order. -/
def targets (s : Script) : List String :=
  s.requests.reverse.filterMap RequestKind.targetOf?

end Script

end Replatform
