import Replatform.Answer.Review
import Replatform.Migration.Outcome
import Replatform.Wire.Analysis
import Replatform.Wire.Tree

/-!
# Events and Reports on the Wire

The JSON forms of what a migration tells and of its report. An event is an object whose
member `type` names the kind of event, or an array that begins with that name. The kind
is looked for before anything else is read, so every part of an event has to mean
something, whether it belongs to the event or not.

## Main definitions

* `toJson` and `decoder` of `Duration`, `Severity`, `Phase`, `LogEntry`, `Event`,
  `PhaseTiming`, `Report` and `Fix`.
-/

namespace Replatform

open Json (Decoder Fields Source)

namespace Duration

/-- The JSON form of a span of time. -/
def toJson (d : Duration) : Json :=
  Json.ofMembers [("secs", .ofNat d.secs), ("nanos", .ofNat d.nanos)]

/-- Every member of an object is a field of a span. -/
def isPlain : Source → Bool
  | .object members => members.all fun m =>
    Json.text? m.1 == some "secs" || Json.text? m.1 == some "nanos"
  | _ => true

/-- Read a span of time, in which nanoseconds may exceed a second. -/
def decoder : Decoder Duration := fun depth s => do
  let f ← Fields.of? ["secs", "nanos"] depth s
  let d := ofParts (← f.required? "secs" .word) (← f.required? "nanos" .halfWord)
  if isPlain s ∧ d.Fits then some d else none

end Duration

namespace Severity

/-- The name of a severity. -/
def label : Severity → String
  | .info => "info"
  | .success => "success"
  | .warning => "warning"
  | .error => "error"

/-- The JSON form of a severity. -/
def toJson (s : Severity) : Json :=
  .str s.label

/-- The severities by name. -/
def alternatives : List (String × Severity) :=
  [info, success, warning, error].map fun s => (s.label, s)

/-- Read a severity. -/
def decoder : Decoder Severity :=
  .choice alternatives

end Severity

namespace Phase

/-- The JSON form of a phase. -/
def toJson (p : Phase) : Json :=
  .str p.label

/-- The phases by name. -/
def alternatives : List (String × Phase) :=
  [analyze, scaffold, generate, verify, regenerate].map fun p => (p.label, p)

/-- Read a phase. -/
def decoder : Decoder Phase :=
  .choice alternatives

end Phase

namespace Timestamp

/-- The JSON form of a moment. -/
def toJson (t : Timestamp) : Json :=
  .str t.text

/-- Read a moment. -/
def decoder : Decoder Timestamp := fun depth s =>
  (Decoder.string depth s).bind read?

end Timestamp

namespace LogEntry

/-- The members of the JSON form of a log entry. -/
def jsonMembers (e : LogEntry) : List (String × Json) :=
  [("timestamp", e.timestamp.toJson), ("message", .str e.message),
    ("severity", e.severity.toJson), ("phase", e.phase.toJson)]

/-- The JSON form of a log entry. -/
def toJson (e : LogEntry) : Json :=
  Json.ofMembers e.jsonMembers

/-- The fields of a log entry. -/
def fieldNames : List Json.FieldName :=
  ["timestamp", "message", "severity", "phase"]

/-- Read the fields of a log entry, severity and phase as given. -/
def ofFields? (severity : Decoder Severity) (phase : Decoder Phase) (f : Fields) :
    Option LogEntry := do
  return {
    timestamp := ← f.required? "timestamp" Timestamp.decoder
    message := ← f.required? "message" .string
    severity := ← f.required? "severity" severity
    phase := ← f.required? "phase" phase }

/-- Read a log entry. -/
def decoder : Decoder LogEntry := fun depth s =>
  (Fields.of? fieldNames depth s).bind (ofFields? Severity.decoder Phase.decoder)

/-- Read a log entry that is part of an event. -/
def lateDecoder : Decoder LogEntry := fun depth s =>
  (Fields.of? fieldNames depth s).bind
    (ofFields? (.lateChoice Severity.alternatives) (.lateChoice Phase.alternatives))

end LogEntry

namespace Event

/-- The JSON form of an event. -/
def toJson : Event → Json
  | .log e => tagged "log" e.jsonMembers
  | .fileStatus path status => tagged "fileStatus" [("path", .str path), ("status", status.toJson)]
  | .fileContent path content isPartial =>
    tagged "fileContent" [("path", .str path), ("content", .str content), ("partial", .bool isPartial)]
  | .progress p => tagged "progress" p.jsonMembers
  | .fixApplied path pass => tagged "fixApplied" [("path", .str path), ("pass", .ofNat pass)]
  | .verification v => tagged "verification" v.jsonMembers
where
  /-- An object that names its kind. -/
  tagged (kind : String) (members : List (String × Json)) : Json :=
    Json.ofMembers (("type", .str kind) :: members)

/-- Split an event into the name of its kind and the rest. -/
def split? : Source → Option (String × Source)
  | .object members => do
    let keys ← members.mapM fun m => Json.text? m.1
    let pairs := keys.zip members
    match pairs.filter (·.1 == "type") with
    | [(_, _, .string body)] =>
      return (← Json.text? body, .object ((pairs.filter (·.1 != "type")).map Prod.snd))
    | _ => none
  | .array (.string body :: items) => do
    return (← Json.text? body, .array items)
  | _ => none

/-- Read an event. -/
def decoder : Decoder Event := fun depth s => do
  let _ ← s.value? depth
  let (kind, rest) ← split? s
  match kind with
  | "log" => return .log (← LogEntry.lateDecoder depth rest)
  | "fileStatus" =>
    let f ← Fields.of? ["path", "status"] depth rest
    return .fileStatus (← f.required? "path" .string)
      (← f.required? "status" (.lateChoice FileStatus.alternatives))
  | "fileContent" =>
    let f ← Fields.of? ["path", "content", "partial"] depth rest
    return .fileContent (← f.required? "path" .string) (← f.required? "content" .string)
      (← f.required? "partial" .bool)
  | "progress" => return .progress (← Progress.decoder depth rest)
  | "fixApplied" =>
    let f ← Fields.of? ["path", "pass"] depth rest
    return .fixApplied (← f.required? "path" .string) (← f.required? "pass" .word)
  | "verification" => return .verification (← Verdict.decoder depth rest)
  | _ => none

end Event

namespace PhaseTiming

/-- The JSON form of a timing. -/
def toJson (t : PhaseTiming) : Json :=
  Json.ofMembers [("phase", t.phase.toJson), ("elapsed", t.elapsed.toJson)]

/-- Read a timing. -/
def decoder : Decoder PhaseTiming := fun depth s => do
  let f ← Fields.of? ["phase", "elapsed"] depth s
  return {
    phase := ← f.required? "phase" Phase.decoder
    elapsed := ← f.required? "elapsed" Duration.decoder }

end PhaseTiming

namespace Report

/-- The JSON form of a report. -/
def toJson (r : Report) : Json :=
  Json.ofMembers [("runId", .ofText? r.runId), ("repoUrl", .str r.repoUrl),
    ("sourceFramework", .str r.sourceFramework), ("recommendedTarget", .str r.recommendedTarget),
    ("complexity", r.complexity.toJson), ("totalFiles", .ofNat r.totalFiles),
    ("generated", .ofNat r.generated), ("failed", .ofTexts r.failed),
    ("timings", .arr (r.timings.map PhaseTiming.toJson)),
    ("verification", (r.verification.map Verdict.toJson).getD .null)]

/-- Read a report. -/
def decoder : Decoder Report := fun depth s => do
  let f ← Fields.of? ["runId", "repoUrl", "sourceFramework", "recommendedTarget", "complexity",
    "totalFiles", "generated", "failed", "timings", "verification"] depth s
  return {
    runId := ← f.nullable? "runId" .string
    repoUrl := ← f.required? "repoUrl" .string
    sourceFramework := ← f.required? "sourceFramework" .string
    recommendedTarget := ← f.required? "recommendedTarget" .string
    complexity := ← f.required? "complexity" Complexity.decoder
    totalFiles := ← f.required? "totalFiles" .word
    generated := ← f.required? "generated" .word
    failed := ← f.required? "failed" (.list .string)
    timings := ← f.required? "timings" (.list PhaseTiming.decoder)
    verification := ← f.nullable? "verification" Verdict.decoder }

end Report

namespace Fix

/-- The JSON form of a fix. -/
def toJson (x : Fix) : Json :=
  Json.ofMembers [("path", .str x.path), ("content", .str x.content)]

/-- Read a fix. -/
def decoder : Decoder Fix := fun depth s => do
  let f ← Fields.of? ["path", "content"] depth s
  return {
    path := ← f.required? "path" .string
    content := ← f.required? "content" .string }

end Fix

end Replatform
