import Replatform.Json.Lookup
import Replatform.Rehearsal.Shop
import Replatform.Wire.Service

/-!
# Rehearsals on the Wire

How a rehearsal is written down: the answers of the service, the cues that precede them,
and the files of the repository. Everything may be left out.

## Main definitions

* `ServiceError.named`, `RepositoryError.named`: Failures by name.
* `Request.sketch`: A request in few words.
* `Cue.decoder`, `Script.decoder`, `Shelf.decoder`, `Stage.decoder`: The parts of a
  rehearsal.
-/

namespace Replatform

open Json (Decoder Source)

namespace ServiceError

/-- The name of a kind of failure. -/
def label : ServiceError → String
  | .aborted => "Aborted"
  | .status _ _ => "Status"
  | .transport _ => "Transport"
  | .malformed _ => "Malformed"
  | .unavailable _ => "Unavailable"
  | .other _ => "Other"

/-- The failure of a kind, with a status and a text. -/
def named? (code : Nat) (text : String) : String → Option ServiceError
  | "Aborted" => some .aborted
  | "Status" => some (.status code text)
  | "Transport" => some (.transport text)
  | "Malformed" => some (.malformed text)
  | "Unavailable" => some (.unavailable text)
  | "Other" => some (.other text)
  | _ => none

/-- Read a failure. -/
def decoder : Decoder ServiceError := fun _ s => do
  named? (← s.getD? "code" (.nat UInt16.size) 0) (← s.getD? "message" .string "")
    (← s.get? "kind" .string)

/-- The JSON form of a failure. -/
def toJson (e : ServiceError) : Json :=
  Json.ofMembers [("error", .str e.label), ("message", .str e.message)]

end ServiceError

namespace RepositoryError

/-- The name of a kind of failure. -/
def label : RepositoryError → String
  | .notFound _ => "NotFound"
  | .unauthorized _ => "Unauthorized"
  | .rateLimited _ => "RateLimited"
  | .other _ => "Other"

/-- The failure of a kind with a text. -/
def named? (text : String) : String → Option RepositoryError
  | "NotFound" => some (.notFound text)
  | "Unauthorized" => some (.unauthorized text)
  | "RateLimited" => some (.rateLimited text)
  | "Other" => some (.other text)
  | _ => none

/-- Read a failure. -/
def decoder : Decoder RepositoryError := fun _ s => do
  named? (← s.getD? "message" .string "") (← s.get? "kind" .string)

/-- The JSON form of a failure. -/
def toJson (e : RepositoryError) : Json :=
  Json.ofMembers [("error", .str e.label), ("message", .str e.message)]

end RepositoryError

/-- Read a request in few words. -/
def Request.sketch : Decoder Request := fun _ s => do
  return {
    model := ← s.getD? "model" .string ""
    contents := ← s.get? "contents" Contents.decoder
    settings := {
      system := ← s.optional? "system" .string
      mimeType := if ← s.getD? "json" .bool false then some "application/json" else none
      thinkingBudget := ← s.optional? "budget" .halfWord
      image := ← s.optional? "image" ImageShape.decoder } }

/-- Read what goes on before an answer. -/
def Lead.decoder : Decoder Lead := fun _ s => do
  return { delay := ← s.getD? "delay" .word 0, cancels := s.has "cancel" }

/-- Read a piece of an answer. -/
def Piece.decoder : Decoder Piece := fun depth s => do
  match s with
  | .string _ => return { result := .ok (← Decoder.string depth s) }
  | _ =>
    let text ← s.getD? "text" .string ""
    return {
      lead := ← Lead.decoder depth s
      result := match ← s.optional? "error" ServiceError.decoder with
        | some e => .error e
        | none => .ok text }

/-- Read a cue. -/
def Cue.decoder : Decoder Cue := fun depth s => do
  return {
    lead := ← Lead.decoder depth s
    error := ← s.optional? "error" ServiceError.decoder
    text := ← s.optional? "text" .string
    inlineData := ← s.getD? "inline_data" (.list InlineData.decoder) []
    pieces := ← s.optional? "chunks" (.list Piece.decoder) }

namespace Script

/-- Set entries of a table. -/
def setAll {α : Type} (t : Table α) (entries : List (String × α)) : Table α :=
  entries.foldl (fun t e => t.insert e.1 e.2) t

/-- Read a script. -/
def decoder : Decoder Script := fun _ s => do
  let base : Script := if ← s.getD? "shop" .bool false then .shop else {}
  let image ← s.optional? "image" (.pair .string .string)
  return {
    analysis := ← s.getD? "analysis" .string base.analysis
    layout := ← s.getD? "structure" .string base.layout
    files := setAll base.files (← s.getD? "files" (.list (.pair .string .string)) [])
    verifications := base.verifications ++ (← s.getD? "verifications" (.list .string) [])
    image := (image.map fun i => { mimeType := i.1, data := i.2 }).or base.image
    failing := setAll ∅ (← s.getD? "failing" (.list (.pair .string ServiceError.decoder)) [])
    flaky := setAll ∅ (← s.getD? "flaky" (.list (.pair .string .word)) [])
    hasKey := !(← s.getD? "no_api_key" .bool false) }

end Script

/-- Read the files of a repository. -/
def Shelf.decoder : Decoder Shelf := fun _ s => do
  let base : Shelf := if ← s.getD? "shop" .bool false then .shop else {}
  let files ← s.getD? "files" (.list (.pair .string .string)) []
  let unreadable ← s.getD? "unreadable" (.list (.pair .string RepositoryError.decoder)) []
  let filled := files.foldl (fun shelf f => shelf.withFile f.1 f.2) base
  return {
    unreadable.foldl (fun shelf f => shelf.withUnreadable f.1 f.2) filled with
    listError := ← s.optional? "structure_error" RepositoryError.decoder }

/-- An object without members. -/
def emptySource : Source :=
  .object []

/-- Read a rehearsal. -/
def Stage.decoder : Decoder Stage := fun depth s => do
  let service := (s.member? "service").getD emptySource
  return {
    script := ← Script.decoder depth service
    cues := ← service.getD? "queues" (.table (.list Cue.decoder)) ∅
    shelf := ← Shelf.decoder depth ((s.member? "repo").getD emptySource) }

end Replatform
