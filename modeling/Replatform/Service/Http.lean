import Replatform.Json.Fault
import Replatform.Service.Basic
import Replatform.Text.Quoted
import Replatform.Wire.Service

/-!
# Generation over HTTP

A generation service behind an HTTP server. A request is posted as a JSON document to an
address that names the model; a document with candidates comes back, of which the first
one is the answer. A failure is told by the status, or by the connection.

What the server does is an exchange: after a while the status arrives, after another
while the body, and either may fail to. One deadline covers both waits.

## Main definitions

* `Http.body`: The document that is posted.
* `Http.parse?`: The answer in a document.
* `Http.Exchange`, `Http.Exchange.reply`: What the server does, and what comes of it.
* `Http.service`: The service.
-/

namespace Replatform

namespace Http

open Json (Decoder Fields)

/-- The JSON form of a part of the contents. -/
def partJson : Part → Json
  | .text t => Json.ofMembers [("text", .str t)]
  | .inlineData d =>
    Json.ofMembers [("inlineData", Json.ofMembers [("mimeType", .str d.mimeType), ("data", .str d.data)])]

/-- The parts of the contents. -/
def partsJson : Contents → Json
  | .text t => .arr [partJson (.text t)]
  | .parts ps => .arr (ps.map partJson)

/-- The JSON form of the shape of a picture. -/
def imageMembers (i : ImageShape) : List (String × Json) :=
  [("responseModalities", .ofTexts ["TEXT", "IMAGE"]),
    ("imageConfig", Json.ofMembers (("aspectRatio", .str i.aspectRatio) ::
      (i.size.map fun s => ("imageSize", Json.str s)).toList))]

/-- The members that say how to answer. -/
def generationMembers (s : RequestSettings) : List (String × Json) :=
  (s.mimeType.map fun m => ("responseMimeType", Json.str m)).toList ++
  (s.thinkingBudget.map fun n =>
    ("thinkingConfig", Json.ofMembers [("thinkingBudget", .ofNat n)])).toList ++
  (s.image.map imageMembers).getD []

/-- The document that is posted for a request. -/
def body (r : Request) : Json :=
  Json.ofMembers (
    [("contents", .arr [Json.ofMembers [("role", .str "user"), ("parts", partsJson r.contents)]])] ++
    (r.settings.system.map fun t =>
      ("systemInstruction", Json.ofMembers [("parts", .arr [partJson (.text t)])])).toList ++
    (match generationMembers r.settings with
      | [] => []
      | members => [("generationConfig", Json.ofMembers members)]))

/-- A part of an answer. -/
structure AnswerPart where
  text : Option String
  /-- The part tells what the model thought on the way. -/
  thought : Option Bool
  inlineData : Option InlineData
deriving DecidableEq, Repr

/-- Read a part of an answer. -/
def AnswerPart.decoder : Decoder AnswerPart := fun depth s => do
  let f ← Fields.of? ["text", "thought", "inlineData"] depth s
  return {
    text := ← f.withDefault? "text" (Decoder.nullable .string) none
    thought := ← f.withDefault? "thought" (Decoder.nullable .bool) none
    inlineData := ← f.withDefault? "inlineData" (Decoder.nullable InlineData.decoder) none }

/-- Read the parts of a candidate. -/
def contentDecoder : Decoder (List AnswerPart) := fun depth s => do
  let f ← Fields.of? ["parts"] depth s
  f.withDefault? "parts" (.list AnswerPart.decoder) []

/-- Read a candidate. -/
def candidateDecoder : Decoder (List AnswerPart) := fun depth s => do
  let f ← Fields.of? ["content"] depth s
  return (← f.withDefault? "content" (Decoder.nullable contentDecoder) none).getD []

/-- Read the candidates of a document. -/
def documentDecoder : Decoder (List (List AnswerPart)) := fun depth s => do
  let f ← Fields.of? ["candidates"] depth s
  f.withDefault? "candidates" (.list candidateDecoder) []

/-- The shape of a document with candidates. -/
def documentShape : Json.Shape :=
  let data : Json.Shape := .record ["mimeType", "data"] [("mimeType", .text), ("data", .text)]
  let part : Json.Shape := .record []
    [("text", .nullable .text), ("thought", .nullable .flag), ("inlineData", .nullable data)]
  let content : Json.Shape := .record [] [("parts", .list part)]
  .record [] [("candidates", .list (.record [] [("content", .nullable content)]))]

/-- The answer that some parts make, where thoughts are left out. -/
def answerOf (parts : List AnswerPart) : Response :=
  let said := parts.filter (·.thought ≠ some true)
  let text := String.join (said.filterMap AnswerPart.text)
  { text := if text = "" then none else some text
    inlineData := said.filterMap AnswerPart.inlineData }

/-- The complaint about a document that has no answer: it quotes a string that stands where
    something else was expected, and says nothing of any other fault. -/
def complaint (document : String) : String :=
  match Json.strayString? documentShape document with
  | some t => "invalid type: string " ++ Text.quoted t
  | none => "invalid document"

/-- The answer in a document. -/
def parse? (document : String) : Except ServiceError Response :=
  match Json.decode? documentDecoder document with
  | some candidates => .ok (answerOf (candidates.headD []))
  | none => .error (.malformed (complaint document))

/-- What a document says about a failure, or else the document itself. -/
def failureText (document : String) : String :=
  let said := do ((← Json.parse? document).field? "error" >>= (Json.field? · "message")) >>= Json.str?
  said.getD (Text.trim document)

/-- How a service is reached. -/
structure Settings where
  baseUrl : String
  key : Option String := none
  /-- The time for an exchange in milliseconds. -/
  timeout : Nat := 300000
deriving DecidableEq, Repr

namespace Settings

/-- The key, if there is one that is not empty. -/
def key? (s : Settings) : Option String :=
  s.key.filter (· ≠ "")

/-- The address that requests to a model are posted to. -/
def endpoint (s : Settings) (model : String) : String :=
  let base := (s.baseUrl.toList.reverse.dropWhile (· == '/')).reverse
  String.ofList base ++ "/models/" ++ model ++ ":generateContent"

end Settings

/-- What is put on the wire. -/
structure Post where
  url : String
  key : String
  body : Json

/-- How a connection fails. -/
structure Fault where
  timedOut : Bool := false
  text : String := ""
deriving DecidableEq, Repr

/-- The failure of a call whose connection failed. -/
def Fault.error (f : Fault) : ServiceError :=
  .transport ((if f.timedOut then "request timed out: " else "network error: ") ++ f.text)

/-- What a server does with a request. -/
structure Exchange where
  /-- How long it takes until the status is there, in milliseconds. -/
  headWait : Nat := 0
  /-- Instead of the status, the connection fails. -/
  headFault : Option Fault := none
  status : Nat := 200
  /-- How long it takes from the status to the body, in milliseconds. -/
  bodyWait : Nat := 0
  /-- Instead of the body, the connection fails. -/
  bodyFault : Option Fault := none
  body : String := ""
deriving DecidableEq, Repr

namespace Exchange

/-- The body that arrives. With two statuses there is none. -/
def content (x : Exchange) : String :=
  if x.status = 204 ∨ x.status = 304 then "" else x.body

/-- What a status and the body behind it mean. -/
def result (x : Exchange) : Except ServiceError Response :=
  if 200 ≤ x.status ∧ x.status < 300 then parse? x.content
  else .error (.status x.status (failureText x.content))

/-- The failure of a call that took too long. -/
def late : ServiceError :=
  Fault.error { timedOut := true, text := "operation timed out" }

/-- What comes of an exchange within a deadline. -/
def reply (x : Exchange) (timeout : Nat) : Reply ServiceError Response :=
  if timeout ≤ x.headWait then { acts := [.wait timeout], result := .error late }
  else
    match x.headFault with
    | some f => { acts := [.wait x.headWait], result := .error f.error }
    | none =>
      -- One deadline is over both waits, and to reach it is to miss it.
      let left := timeout - x.headWait
      if left ≤ x.bodyWait then { acts := [.wait x.headWait, .wait left], result := .error late }
      else
        { acts := [.wait x.headWait, .wait x.bodyWait]
          result := match x.bodyFault with
            | some f => .error f.error
            | none => x.result }

end Exchange

/-- Send a request, where `serve` is what the server does. Without a key nothing is sent, and
    neither is anything for a caller who has given up. -/
def send {σ : Type} (s : Settings) (serve : Post → σ → Exchange × σ) (caller : Caller) (r : Request)
    (state : σ) : Reply ServiceError Response × σ :=
  match s.key? with
  | none => ({ result := .error (.unavailable "no API key configured") }, state)
  | some key =>
    if caller.aborted then ({ result := .error .aborted }, state)
    else
      let (x, state) := serve { url := s.endpoint r.model, key, body := body r } state
      (x.reply s.timeout, state)

/-- The service behind a server. -/
def service {σ : Type} (s : Settings) (serve : Post → σ → Exchange × σ) : Service σ :=
  Service.ofRequest (send s serve) fun _ => s.key?.isSome

end Http

end Replatform
