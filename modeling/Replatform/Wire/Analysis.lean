import Replatform.Json.Decode
import Replatform.Match
import Replatform.Progress

/-!
# Analyses, Matches and Verdicts on the Wire

The JSON forms of what the phases of a migration hand to each other.

## Main definitions

* `toJson` and `decoder` of `Complexity`, `Mapping`, `Analysis`, `Match`, `Progress`
  and `Verdict`.
-/

namespace Replatform

open Json (Decoder Fields)

namespace Json

/-- A string or `null`. -/
def ofText? : Option String → Json
  | some s => .str s
  | none => .null

/-- An array of strings. -/
def ofTexts (l : List String) : Json :=
  .arr (l.map .str)

/-- The integer form of a count. -/
def ofNat (n : Nat) : Json :=
  .int n

end Json

namespace Complexity

/-- The name of a level. -/
def label : Complexity → String
  | .low => "Low"
  | .medium => "Medium"
  | .high => "High"

/-- The JSON form of a level. -/
def toJson (c : Complexity) : Json :=
  .str c.label

/-- Read a level, whose name may be in lower or upper case. -/
def decoder : Decoder Complexity :=
  .choice [("Low", .low), ("low", .low), ("LOW", .low), ("Medium", .medium), ("medium", .medium),
    ("MEDIUM", .medium), ("High", .high), ("high", .high), ("HIGH", .high)]

end Complexity

namespace Mapping

/-- The JSON form of a hint. -/
def toJson (m : Mapping) : Json :=
  Json.ofMembers [("sourcePath", .str m.source), ("targetPath", .str m.target),
    ("rationale", .str m.rationale), ("confidence", (m.confidence.map Json.float).getD .null)]

/-- Read a hint. -/
def decoder : Decoder Mapping := fun depth s => do
  let f ← Fields.of? ["sourcePath", "targetPath", "rationale", "confidence"] depth s
  return {
    source := ← f.required? "sourcePath" .string
    target := ← f.required? "targetPath" .string
    rationale := ← f.withDefault? "rationale" .string ""
    confidence := ← f.withDefault? "confidence" (Decoder.nullable .float) none }

end Mapping

namespace Analysis

/-- The JSON form of an analysis. -/
def toJson (a : Analysis) : Json :=
  Json.ofMembers [("summary", .str a.summary), ("complexity", a.complexity.toJson),
    ("dependencies", .ofTexts a.dependencies), ("patterns", .ofTexts a.patterns),
    ("risks", .ofTexts a.risks), ("sourceFramework", .str a.sourceFramework),
    ("recommendedTarget", .str a.recommendedTarget), ("architecture", .str a.architecture),
    ("mappings", .arr (a.mappings.map Mapping.toJson)),
    ("migrationNotes", .ofText? a.migrationNotes)]

/-- Read an analysis, in which every field may be left out. -/
def decoder : Decoder Analysis := fun depth s => do
  let f ← Fields.of? ["summary", "complexity", "dependencies", "patterns", "risks",
    ⟨"sourceFramework", ["detectedFramework"]⟩, "recommendedTarget", "architecture",
    ⟨"mappings", ["fileMappings"]⟩, "migrationNotes"] depth s
  return {
    summary := ← f.withDefault? "summary" .string ""
    complexity := ← f.withDefault? "complexity" Complexity.decoder .medium
    dependencies := ← f.withDefault? "dependencies" (.list .string) []
    patterns := ← f.withDefault? "patterns" (.list .string) []
    risks := ← f.withDefault? "risks" (.list .string) []
    sourceFramework := ← f.withDefault? "sourceFramework" .string ""
    recommendedTarget := ← f.withDefault? "recommendedTarget" .string ""
    architecture := ← f.withDefault? "architecture" .string ""
    mappings := ← f.withDefault? "mappings" (.list Mapping.decoder) []
    migrationNotes := ← f.withDefault? "migrationNotes" (Decoder.nullable .string) none }

end Analysis

namespace Match

/-- The JSON form of a match. -/
def toJson (m : Match) : Json :=
  Json.ofMembers [("primarySourcePath", .ofText? m.primary),
    ("sourcePaths", .ofTexts m.sources.toList), ("confidence", .float m.confidence)]

/-- Read a match. -/
def decoder : Decoder Match := fun depth s => do
  let f ← Fields.of? ["primarySourcePath", "sourcePaths", "confidence"] depth s
  return {
    primary := ← f.nullable? "primarySourcePath" .string
    sources := ← f.required? "sourcePaths" .names
    confidence := ← f.required? "confidence" .float }

end Match

namespace Progress

/-- The members of the JSON form of a counter. -/
def jsonMembers (p : Progress) : List (String × Json) :=
  [("current", .ofNat p.current), ("total", .ofNat p.total), ("currentFile", .str p.currentFile)]

/-- The JSON form of a counter. -/
def toJson (p : Progress) : Json :=
  Json.ofMembers p.jsonMembers

/-- The fields of a counter. -/
def ofFields? (f : Fields) : Option Progress := do
  return {
    current := ← f.required? "current" .word
    total := ← f.required? "total" .word
    currentFile := ← f.required? "currentFile" .string }

/-- Read a counter. -/
def decoder : Decoder Progress := fun depth s =>
  (Fields.of? ["current", "total", "currentFile"] depth s).bind ofFields?

end Progress

namespace Verdict

/-- The members of the JSON form of a verdict. -/
def jsonMembers (v : Verdict) : List (String × Json) :=
  [("passed", .bool v.passed), ("issues", .ofTexts v.issues),
    ("unresolved", .ofTexts v.unresolved), ("fixedFilesApplied", .ofNat v.fixesApplied),
    ("passes", .ofNat v.passes)]

/-- The JSON form of a verdict. -/
def toJson (v : Verdict) : Json :=
  Json.ofMembers v.jsonMembers

/-- The fields of a verdict. -/
def ofFields? (f : Fields) : Option Verdict := do
  return {
    passed := ← f.required? "passed" .bool
    issues := ← f.required? "issues" (.list .string)
    unresolved := ← f.required? "unresolved" (.list .string)
    fixesApplied := ← f.required? "fixedFilesApplied" .word
    passes := ← f.required? "passes" .word }

/-- Read a verdict. -/
def decoder : Decoder Verdict := fun depth s =>
  (Fields.of? ["passed", "issues", "unresolved", "fixedFilesApplied", "passes"] depth s).bind
    ofFields?

end Verdict

end Replatform
