import Replatform.Config.Scope
import Replatform.Plan.Context
import Replatform.Plan.Mapper
import Replatform.Service.Policy

/-!
# Configuration

How a migration is carried out: which models are asked, how long they may think, how
calls are tried again, how much context goes along, and which files are considered.
Every setting has a standard value.

## Main definitions

* `ModelNames`, `ThinkingBudgets`, `Config`: The settings.
* `ConfigError`: Why a configuration is refused.
* `Config.validate`: The first setting that is out of bounds.
-/

namespace Replatform

/-- The model for each kind of request. -/
structure ModelNames where
  analysis : String := "gemini-2.5-pro"
  layout : String := "gemini-2.5-pro"
  generation : String := "gemini-2.5-flash"
  verification : String := "gemini-2.5-pro"
  diagram : String := "gemini-2.5-flash-image"
deriving DecidableEq, Repr, Inhabited

/-- How many tokens may go into reasoning for each kind of request. -/
structure ThinkingBudgets where
  analysis : Nat := 4096
  layout : Nat := 2048
  generation : Nat := 1024
  verification : Nat := 4096
deriving DecidableEq, Repr, Inhabited

/-- How a migration is carried out. -/
structure Config where
  models : ModelNames := {}
  thinking : ThinkingBudgets := {}
  retry : RetryPolicy := {}
  context : ContextLimits := {}
  /-- How many legacy files are read for the plan. -/
  scaffoldFileLimit : Nat := 60
  verificationPasses : Nat := 2
  /-- The similarity from which on a legacy file without a hint counts as a source. -/
  fallbackThreshold : Float := Mapper.defaultThreshold
  scope : Scope := {}
  generateDiagram : Bool := true
  targetStack : Option String := none
deriving BEq, Inhabited

/-- Why a configuration is refused. -/
inductive ConfigError where
  /-- The text is no configuration. -/
  | unreadable
  /-- A setting is out of bounds. -/
  | invalid (field reason : String)
deriving DecidableEq, Repr

namespace Config

/-- The number is in the unit interval. -/
def isUnit (x : Float) : Bool :=
  0.0 ≤ x && x ≤ 1.0

/-- The settings that name a model. -/
def modelFields (c : Config) : List (String × String) :=
  [("models.analysis", c.models.analysis), ("models.structure", c.models.layout),
    ("models.generation", c.models.generation), ("models.verification", c.models.verification),
    ("models.diagram", c.models.diagram)]

/-- A setting that names no model. -/
def blankModel? (c : Config) : Option String :=
  (c.modelFields.find? fun f => Text.isBlankText f.2).map Prod.fst

/-- Refuse a configuration for the first setting that is out of bounds. -/
def validate (c : Config) : Except ConfigError Unit :=
  if c.verificationPasses = 0 then .error (.invalid "verificationPasses" "must be at least 1")
  else if !isUnit c.fallbackThreshold then
    .error (.invalid "fallbackThreshold" "must be within [0, 1]")
  else
    match c.blankModel? with
    | some field => .error (.invalid field "model name is empty")
    | none =>
      if !isUnit c.retry.jitter then .error (.invalid "retry.jitter" "must be within [0, 1]")
      else if c.retry.maxDelayMs < c.retry.baseDelayMs then
        .error (.invalid "retry.maxDelayMs" "below baseDelayMs")
      else if c.context.relatedFileChars = 0 ∨ c.context.primaryFileChars = 0 then
        .error (.invalid "context" "unit ceilings must be positive")
      else .ok ()

end Config

end Replatform
