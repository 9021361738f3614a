import Replatform.Service.Message
import Replatform.Service.Policy
import Replatform.Wire.Analysis

/-!
# Requests and Responses on the Wire

The JSON forms of what is sent to a generation service and what it answers, and of the
policy by which calls are tried again. Settings that a request does not have are left
out of its form.

## Main definitions

* `toJson` and `decoder` of `InlineData`, `Part`, `Contents`, `Request`, `Response` and
  `RetryPolicy`.
-/

namespace Replatform

open Json (Decoder Fields)

namespace InlineData

/-- The JSON form of binary data. -/
def toJson (d : InlineData) : Json :=
  Json.ofMembers [("mimeType", .str d.mimeType), ("data", .str d.data)]

/-- Read binary data. -/
def decoder : Decoder InlineData := fun depth s => do
  let f ← Fields.of? ["mimeType", "data"] depth s
  return {
    mimeType := ← f.required? "mimeType" .string
    data := ← f.required? "data" .string }

end InlineData

namespace Part

/-- The JSON form of a part. -/
def toJson : Part → Json
  | .text t => Json.ofMembers [("text", .str t)]
  | .inlineData d => Json.ofMembers [("inlineData", d.toJson)]

/-- Read a part: an object with the kind of the part as its only key. -/
def decoder : Decoder Part
  | depth + 1, .object [(key, value)] => do
    match ← Json.text? key with
    | "text" => (Decoder.string depth value).map .text
    | "inlineData" => (InlineData.decoder depth value).map .inlineData
    | _ => none
  | _, _ => none

end Part

namespace Contents

/-- The JSON form of contents. -/
def toJson : Contents → Json
  | .text t => .str t
  | .parts ps => .arr (ps.map Part.toJson)

/-- Read contents. What is passed over inside of them has to mean something too, since the
    kind of the contents is settled only when all of them have been read. -/
def decoder : Decoder Contents := fun depth s => do
  let _ ← s.value? depth
  match s with
  | .string _ => (Decoder.string depth s).map .text
  | _ => (Decoder.list Part.decoder depth s).map .parts

end Contents

namespace ImageShape

/-- The JSON form of the shape of a picture. -/
def toJson (i : ImageShape) : Json :=
  Json.ofMembers (("aspectRatio", .str i.aspectRatio) ::
    (i.size.map fun size => ("imageSize", Json.str size)).toList)

/-- Read the shape of a picture. -/
def decoder : Decoder ImageShape := fun depth s => do
  let f ← Fields.of? ["aspectRatio", "imageSize"] depth s
  return {
    aspectRatio := ← f.required? "aspectRatio" .string
    size := ← f.withDefault? "imageSize" (Decoder.nullable .string) none }

end ImageShape

namespace RequestSettings

/-- The JSON form of settings. -/
def toJson (r : RequestSettings) : Json :=
  Json.ofMembers (
    (r.system.map fun t => ("systemInstruction", Json.str t)).toList ++
    (r.mimeType.map fun t => ("responseMimeType", Json.str t)).toList ++
    (r.thinkingBudget.map fun n => ("thinkingBudget", Json.ofNat n)).toList ++
    (r.image.map fun i => ("image", i.toJson)).toList)

/-- Read settings. -/
def decoder : Decoder RequestSettings := fun depth s => do
  let f ← Fields.of? ["systemInstruction", "responseMimeType", "thinkingBudget", "image"] depth s
  return {
    system := ← f.withDefault? "systemInstruction" (Decoder.nullable .string) none
    mimeType := ← f.withDefault? "responseMimeType" (Decoder.nullable .string) none
    thinkingBudget := ← f.withDefault? "thinkingBudget" (Decoder.nullable .halfWord) none
    image := ← f.withDefault? "image" (Decoder.nullable ImageShape.decoder) none }

end RequestSettings

namespace Request

/-- The JSON form of a request. -/
def toJson (r : Request) : Json :=
  Json.ofMembers [("model", .str r.model), ("contents", r.contents.toJson),
    ("config", r.settings.toJson)]

/-- Read a request. -/
def decoder : Decoder Request := fun depth s => do
  let f ← Fields.of? ["model", "contents", "config"] depth s
  return {
    model := ← f.required? "model" .string
    contents := ← f.required? "contents" Contents.decoder
    settings := ← f.withDefault? "config" RequestSettings.decoder {} }

end Request

namespace Response

/-- The JSON form of a response. -/
def toJson (r : Response) : Json :=
  Json.ofMembers [("text", .ofText? r.text), ("inlineData", .arr (r.inlineData.map InlineData.toJson))]

/-- Read a response. -/
def decoder : Decoder Response := fun depth s => do
  let f ← Fields.of? ["text", "inlineData"] depth s
  return {
    text := ← f.withDefault? "text" (Decoder.nullable .string) none
    inlineData := ← f.withDefault? "inlineData" (.list InlineData.decoder) [] }

end Response

namespace RetryPolicy

/-- The JSON form of a policy. -/
def toJson (p : RetryPolicy) : Json :=
  Json.ofMembers [("maxRetries", .ofNat p.maxRetries), ("baseDelayMs", .ofNat p.baseDelayMs),
    ("maxDelayMs", .ofNat p.maxDelayMs), ("jitter", .float p.jitter)]

/-- Read a policy, where each field that is left out is as in `standard`. -/
def decoderFrom (standard : RetryPolicy) : Decoder RetryPolicy := fun depth s => do
  let f ← Fields.of? ["maxRetries", "baseDelayMs", "maxDelayMs", "jitter"] depth s
  return {
    maxRetries := ← f.withDefault? "maxRetries" .halfWord standard.maxRetries
    baseDelayMs := ← f.withDefault? "baseDelayMs" .word standard.baseDelayMs
    maxDelayMs := ← f.withDefault? "maxDelayMs" .word standard.maxDelayMs
    jitter := ← f.withDefault? "jitter" .float standard.jitter }

/-- Read a policy. -/
def decoder : Decoder RetryPolicy :=
  decoderFrom {}

end RetryPolicy

end Replatform
