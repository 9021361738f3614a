import Replatform.Config.Basic
import Replatform.Wire.Plan
import Replatform.Wire.Service

/-!
# Configurations on the Wire

The JSON forms of the settings of a migration. Every setting may be left out.

## Main definitions

* `toJson` and `decoder` of `ModelNames`, `ThinkingBudgets`, `Scope` and `Config`.
-/

namespace Replatform

open Json (Decoder Fields)

namespace ModelNames

/-- The JSON form of the names. -/
def toJson (m : ModelNames) : Json :=
  Json.ofMembers [("analysis", .str m.analysis), ("structure", .str m.layout),
    ("generation", .str m.generation), ("verification", .str m.verification),
    ("diagram", .str m.diagram)]

/-- Read names. -/
def decoder : Decoder ModelNames := fun depth s => do
  let f ← Fields.of? ["analysis", "structure", "generation", "verification", "diagram"] depth s
  let d : ModelNames := {}
  return {
    analysis := ← f.withDefault? "analysis" .string d.analysis
    layout := ← f.withDefault? "structure" .string d.layout
    generation := ← f.withDefault? "generation" .string d.generation
    verification := ← f.withDefault? "verification" .string d.verification
    diagram := ← f.withDefault? "diagram" .string d.diagram }

end ModelNames

namespace ThinkingBudgets

/-- The JSON form of the budgets. -/
def toJson (b : ThinkingBudgets) : Json :=
  Json.ofMembers [("analysis", .ofNat b.analysis), ("structure", .ofNat b.layout),
    ("generation", .ofNat b.generation), ("verification", .ofNat b.verification)]

/-- Read budgets. -/
def decoder : Decoder ThinkingBudgets := fun depth s => do
  let f ← Fields.of? ["analysis", "structure", "generation", "verification"] depth s
  let d : ThinkingBudgets := {}
  return {
    analysis := ← f.withDefault? "analysis" .halfWord d.analysis
    layout := ← f.withDefault? "structure" .halfWord d.layout
    generation := ← f.withDefault? "generation" .halfWord d.generation
    verification := ← f.withDefault? "verification" .halfWord d.verification }

end ThinkingBudgets

namespace Scope

/-- The JSON form of the filters. -/
def toJson (s : Scope) : Json :=
  Json.ofMembers [("include", .ofTexts s.includes), ("exclude", .ofTexts s.excludes)]

/-- Read filters. -/
def decoder : Decoder Scope := fun depth s => do
  let f ← Fields.of? ["include", "exclude"] depth s
  return {
    includes := ← f.withDefault? "include" (.list .string) []
    excludes := ← f.withDefault? "exclude" (.list .string) [] }

end Scope

namespace Config

/-- The JSON form of a configuration. -/
def toJson (c : Config) : Json :=
  Json.ofMembers [("models", c.models.toJson), ("thinking", c.thinking.toJson),
    ("retry", c.retry.toJson), ("context", c.context.toJson),
    ("scaffoldFileLimit", .ofNat c.scaffoldFileLimit),
    ("verificationPasses", .ofNat c.verificationPasses),
    ("fallbackThreshold", .float c.fallbackThreshold), ("scope", c.scope.toJson),
    ("generateDiagram", .bool c.generateDiagram), ("targetStack", .ofText? c.targetStack)]

/-- Read a configuration. -/
def decoder : Decoder Config := fun depth s => do
  let f ← Fields.of? ["models", "thinking", "retry", "context", "scaffoldFileLimit",
    "verificationPasses", "fallbackThreshold", "scope", "generateDiagram", "targetStack"] depth s
  let d : Config := {}
  return {
    models := ← f.withDefault? "models" ModelNames.decoder d.models
    thinking := ← f.withDefault? "thinking" ThinkingBudgets.decoder d.thinking
    retry := ← f.withDefault? "retry" RetryPolicy.decoder d.retry
    context := ← f.withDefault? "context" ContextLimits.decoder d.context
    scaffoldFileLimit := ← f.withDefault? "scaffoldFileLimit" .word d.scaffoldFileLimit
    verificationPasses := ← f.withDefault? "verificationPasses" .halfWord d.verificationPasses
    fallbackThreshold := ← f.withDefault? "fallbackThreshold" .float d.fallbackThreshold
    scope := ← f.withDefault? "scope" Scope.decoder d.scope
    generateDiagram := ← f.withDefault? "generateDiagram" .bool d.generateDiagram
    targetStack := ← f.withDefault? "targetStack" (Decoder.nullable .string) d.targetStack }

end Config

end Replatform
