import Replatform.Plan.Context
import Replatform.Plan.Schedule
import Replatform.Wire.Analysis

/-!
# Plans on the Wire

The JSON forms of priorities and of the ceilings of a context.

## Main definitions

* `Tier.toJson`, `Tier.decoder`: Tiers by name.
* `ContextLimits.toJson`, `ContextLimits.decoder`: Ceilings, each with a default.
-/

namespace Replatform

open Json (Decoder Fields)

namespace Tier

/-- The name of a tier. -/
def label : Tier → String
  | .rootConfig => "RootConfig"
  | .shared => "Shared"
  | .component => "Component"
  | .api => "Api"
  | .other => "Other"
  | .test => "Test"

/-- The JSON form of a tier. -/
def toJson (t : Tier) : Json :=
  .str t.label

/-- Read a tier. -/
def decoder : Decoder Tier :=
  .choice ([rootConfig, shared, component, api, other, test].map fun t => (t.label, t))

end Tier

namespace ContextLimits

/-- The JSON form of the ceilings. -/
def toJson (l : ContextLimits) : Json :=
  Json.ofMembers [("primaryFileChars", .ofNat l.primaryFileChars),
    ("relatedFileChars", .ofNat l.relatedFileChars),
    ("relatedTotalChars", .ofNat l.relatedTotalChars),
    ("legacyTotalChars", .ofNat l.legacyTotalChars),
    ("relatedFileCount", .ofNat l.relatedFileCount),
    ("generatedDependencyCount", .ofNat l.generatedDependencyCount)]

/-- Read ceilings. -/
def decoder : Decoder ContextLimits := fun depth s => do
  let f ← Fields.of? ["primaryFileChars", "relatedFileChars", "relatedTotalChars",
    "legacyTotalChars", "relatedFileCount", "generatedDependencyCount"] depth s
  let d : ContextLimits := {}
  return {
    primaryFileChars := ← f.withDefault? "primaryFileChars" .word d.primaryFileChars
    relatedFileChars := ← f.withDefault? "relatedFileChars" .word d.relatedFileChars
    relatedTotalChars := ← f.withDefault? "relatedTotalChars" .word d.relatedTotalChars
    legacyTotalChars := ← f.withDefault? "legacyTotalChars" .word d.legacyTotalChars
    relatedFileCount := ← f.withDefault? "relatedFileCount" .word d.relatedFileCount
    generatedDependencyCount :=
      ← f.withDefault? "generatedDependencyCount" .word d.generatedDependencyCount }

end ContextLimits

end Replatform
