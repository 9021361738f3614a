import Replatform.Names
import Replatform.Text.Blank

/-!
# Analysis Results

What the analysis of a legacy project yields: a description, and hints that name
which legacy file becomes which target file.

## Main definitions

* `Complexity`: How hard the migration looks.
* `Mapping`: A hint that pairs legacy paths with target paths.
* `Mapping.effectiveConfidence`: The weight of a hint.
* `Analysis`: The whole result.
-/

namespace Replatform

/-- The difficulty of a legacy project. -/
inductive Complexity where
  | low
  | medium
  | high
deriving DecidableEq, Repr, Inhabited

/-- Read a free-form label. Anything not known is of medium complexity. -/
def Complexity.ofLabel (label : String) : Complexity :=
  let word := (Text.trim label).map Char.toLower
  if word = "low" ∨ word = "simple" then .low
  else if word = "high" ∨ word = "complex" then .high
  else .medium

/-- A number moved into the unit interval. Not-a-number stays what it is. -/
def clampUnit (x : Float) : Float :=
  if x < 0.0 then 0.0 else if 1.0 < x then 1.0 else x

/-- A hint that the legacy files matching one pattern become the target files matching
    another. -/
structure Mapping where
  source : String
  target : String
  rationale : String := ""
  confidence : Option Float := none

/-- The confidence of a hint that declares none, or none that is a number. -/
def Mapping.defaultConfidence : Float := 0.8

/-- The declared confidence, moved into the unit interval, or the default. -/
def Mapping.effectiveConfidence (m : Mapping) : Float :=
  match m.confidence with
  | some c => if c.isFinite then clampUnit c else defaultConfidence
  | none => defaultConfidence

/-- The result of analysing a legacy project. -/
structure Analysis where
  summary : String := ""
  complexity : Complexity := .medium
  dependencies : List String := []
  patterns : List String := []
  risks : List String := []
  sourceFramework : String := ""
  recommendedTarget : String := ""
  architecture : String := ""
  mappings : List Mapping := []
  migrationNotes : Option String := none
deriving Inhabited

end Replatform
