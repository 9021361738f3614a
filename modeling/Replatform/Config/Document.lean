import Replatform.Config.Basic
import Replatform.Toml.Document
import Replatform.Toml.Fields
import Replatform.Toml.Layout

/-!
# Configuration Documents

A configuration is kept as a TOML document with a table for each group of settings.
Every setting may be left out. A document that is read is refused if a setting is out of
bounds; a configuration with a number beyond what TOML has cannot be written.

## Main definitions

* `Config.ofToml?`: The configuration in a document.
* `Config.read`: Read and check a configuration.
* `Config.write?`: Write a configuration.
-/

namespace Replatform

open Toml (Fields Plain Value)

namespace ModelNames

/-- The settings of this group. -/
def fieldNames : List String :=
  ["analysis", "structure", "generation", "verification", "diagram"]

/-- The names in a document. -/
def ofToml? (v : Value) : Option ModelNames := do
  let f ← Fields.of? fieldNames v
  let d : ModelNames := {}
  return {
    analysis := ← f.get? "analysis" Value.string? d.analysis
    layout := ← f.get? "structure" Value.string? d.layout
    generation := ← f.get? "generation" Value.string? d.generation
    verification := ← f.get? "verification" Value.string? d.verification
    diagram := ← f.get? "diagram" Value.string? d.diagram }

/-- The entries of a document. -/
def toToml (m : ModelNames) : List (String × Plain) :=
  fieldNames.zip
    [.string m.analysis, .string m.layout, .string m.generation, .string m.verification,
      .string m.diagram]

end ModelNames

namespace ThinkingBudgets

/-- The settings of this group. -/
def fieldNames : List String :=
  ["analysis", "structure", "generation", "verification"]

/-- The budgets in a document. -/
def ofToml? (v : Value) : Option ThinkingBudgets := do
  let f ← Fields.of? fieldNames v
  let d : ThinkingBudgets := {}
  return {
    analysis := ← f.get? "analysis" (Value.nat? UInt32.size) d.analysis
    layout := ← f.get? "structure" (Value.nat? UInt32.size) d.layout
    generation := ← f.get? "generation" (Value.nat? UInt32.size) d.generation
    verification := ← f.get? "verification" (Value.nat? UInt32.size) d.verification }

/-- The entries of a document. -/
def toToml (b : ThinkingBudgets) : List (String × Plain) :=
  fieldNames.zip
    [.natural b.analysis, .natural b.layout, .natural b.generation, .natural b.verification]

end ThinkingBudgets

namespace RetryPolicy

/-- The settings of this group. -/
def fieldNames : List String :=
  ["maxRetries", "baseDelayMs", "maxDelayMs", "jitter"]

/-- The policy in a document. -/
def ofToml? (v : Value) : Option RetryPolicy := do
  let f ← Fields.of? fieldNames v
  let d : RetryPolicy := {}
  return {
    maxRetries := ← f.get? "maxRetries" (Value.nat? UInt32.size) d.maxRetries
    baseDelayMs := ← f.get? "baseDelayMs" (Value.nat? UInt64.size) d.baseDelayMs
    maxDelayMs := ← f.get? "maxDelayMs" (Value.nat? UInt64.size) d.maxDelayMs
    jitter := ← f.get? "jitter" Value.float? d.jitter }

/-- The entries of a document. -/
def toToml (p : RetryPolicy) : List (String × Plain) :=
  fieldNames.zip
    [.natural p.maxRetries, .natural p.baseDelayMs, .natural p.maxDelayMs, .float p.jitter]

end RetryPolicy

namespace ContextLimits

/-- The settings of this group. -/
def fieldNames : List String :=
  ["primaryFileChars", "relatedFileChars", "relatedTotalChars", "legacyTotalChars",
    "relatedFileCount", "generatedDependencyCount"]

/-- The limits in a document. -/
def ofToml? (v : Value) : Option ContextLimits := do
  let f ← Fields.of? fieldNames v
  let d : ContextLimits := {}
  let word := Value.nat? UInt64.size
  return {
    primaryFileChars := ← f.get? "primaryFileChars" word d.primaryFileChars
    relatedFileChars := ← f.get? "relatedFileChars" word d.relatedFileChars
    relatedTotalChars := ← f.get? "relatedTotalChars" word d.relatedTotalChars
    legacyTotalChars := ← f.get? "legacyTotalChars" word d.legacyTotalChars
    relatedFileCount := ← f.get? "relatedFileCount" word d.relatedFileCount
    generatedDependencyCount :=
      ← f.get? "generatedDependencyCount" word d.generatedDependencyCount }

/-- The entries of a document. -/
def toToml (l : ContextLimits) : List (String × Plain) :=
  fieldNames.zip
    [.natural l.primaryFileChars, .natural l.relatedFileChars, .natural l.relatedTotalChars,
      .natural l.legacyTotalChars, .natural l.relatedFileCount,
      .natural l.generatedDependencyCount]

end ContextLimits

namespace Scope

/-- The settings of this group. -/
def fieldNames : List String :=
  ["include", "exclude"]

/-- The filters in a document. -/
def ofToml? (v : Value) : Option Scope := do
  let f ← Fields.of? fieldNames v
  return {
    includes := ← f.get? "include" Value.strings? []
    excludes := ← f.get? "exclude" Value.strings? [] }

/-- The entries of a document. -/
def toToml (s : Scope) : List (String × Plain) :=
  fieldNames.zip [.strings s.includes, .strings s.excludes]

end Scope

namespace Config

/-- The configuration in a document, whose root is always a table. -/
def ofToml? (v : Value) : Option Config := do
  let f ← Fields.of? [] v
  let d : Config := {}
  return {
    models := ← f.get? "models" ModelNames.ofToml? d.models
    thinking := ← f.get? "thinking" ThinkingBudgets.ofToml? d.thinking
    retry := ← f.get? "retry" RetryPolicy.ofToml? d.retry
    context := ← f.get? "context" ContextLimits.ofToml? d.context
    scaffoldFileLimit := ← f.get? "scaffoldFileLimit" (Value.nat? UInt64.size) d.scaffoldFileLimit
    verificationPasses := ← f.get? "verificationPasses" (Value.nat? UInt32.size) d.verificationPasses
    fallbackThreshold := ← f.get? "fallbackThreshold" Value.float? d.fallbackThreshold
    scope := ← f.get? "scope" Scope.ofToml? d.scope
    generateDiagram := ← f.get? "generateDiagram" Value.bool? d.generateDiagram
    targetStack := ← f.get? "targetStack" (fun v => v.string?.map some) d.targetStack }

/-- Read and check a configuration. -/
def read (text : String) : Except ConfigError Config :=
  match (Toml.read? text).bind ofToml? with
  | none => .error .unreadable
  | some c => c.validate.map fun () => c

/-- Reading a text gives this very configuration. -/
def isReadFrom (c : Config) (text : String) : Bool :=
  match read text with
  | .ok d => d == c
  | .error _ => false

/-- Write a configuration. -/
def write? (c : Config) : Option String :=
  Toml.write?
    ([("scaffoldFileLimit", Plain.natural c.scaffoldFileLimit),
      ("verificationPasses", .natural c.verificationPasses),
      ("fallbackThreshold", .float c.fallbackThreshold),
      ("generateDiagram", .bool c.generateDiagram)] ++
      (c.targetStack.map fun stack => ("targetStack", Plain.string stack)).toList)
    [("models", c.models.toToml), ("thinking", c.thinking.toToml), ("retry", c.retry.toToml),
      ("context", c.context.toToml), ("scope", c.scope.toToml)]

end Config

end Replatform
