import Replatform.Analysis
import Replatform.Migration.Event
import Replatform.Time.Duration

/-!
# Outcomes and Reports

What a generation came to, how long the phases took, and the report that sums up a
migration in Markdown.

## Main definitions

* `GenerationOutcome`: The files that were generated and those that failed.
* `PhaseTiming`: How long a phase took.
* `Report`: The summary of a migration.
* `Report.markdown`: Its text.
-/

namespace Replatform

/-- What a generation came to. -/
structure GenerationOutcome where
  generated : List String := []
  failed : List String := []
  progress : Progress
deriving DecidableEq, Repr, Inhabited

/-- Every file was generated. -/
def GenerationOutcome.isComplete (o : GenerationOutcome) : Bool :=
  o.failed.isEmpty

/-- How long a phase took. -/
structure PhaseTiming where
  phase : Phase
  elapsed : Duration
deriving DecidableEq, Repr

/-- The summary of a migration. -/
structure Report where
  runId : Option String := none
  repoUrl : String
  sourceFramework : String
  recommendedTarget : String
  complexity : Complexity
  totalFiles : Nat
  generated : Nat
  failed : List String
  timings : List PhaseTiming
  verification : Option Verdict
deriving DecidableEq, Repr

namespace Report

/-- How long all phases took together. -/
def total (r : Report) : Duration :=
  Duration.sum (r.timings.map PhaseTiming.elapsed)

/-- A name, or a word that says that there is none. -/
def orUnknown (name : String) : String :=
  if name = "" then "unknown" else name

/-- How hard the migration looked. -/
def complexityText : Complexity → String
  | .low => "Low"
  | .medium => "Medium"
  | .high => "High"

/-- The lines at the top. -/
def headLines (r : Report) : List String :=
  (match r.runId with
    | some id => ["- Run: `" ++ id ++ "`"]
    | none => []) ++
  ["- Repository: " ++ r.repoUrl,
    "- Stack: " ++ orUnknown r.sourceFramework ++ " -> " ++ orUnknown r.recommendedTarget,
    "- Complexity: " ++ complexityText r.complexity,
    "- Files: " ++ toString r.generated ++ " generated, " ++ toString r.failed.length ++
      " failed, " ++ toString r.totalFiles ++ " planned",
    "- Duration: " ++ r.total.text]

/-- The table of the phases. -/
def timingLines (r : Report) : List String :=
  if r.timings = [] then []
  else ["", "## Phases", "", "| Phase | Duration |", "|---|---|"] ++
    r.timings.map fun t => "| " ++ t.phase.label ++ " | " ++ t.elapsed.text ++ " |"

/-- The files that failed. -/
def failedLines (r : Report) : List String :=
  if r.failed = [] then []
  else ["", "## Failed files", ""] ++ r.failed.map fun path => "- `" ++ path ++ "`"

/-- The verdict. -/
def verdictLines (v : Verdict) : List String :=
  ["", "## Verification", "",
    (if v.passed then "passed" else "failed") ++ " after " ++ toString v.passes ++ " passes, " ++
      toString v.fixesApplied ++ " fixes applied"] ++
  if v.unresolved = [] then [] else ["", "Unresolved:"] ++ v.unresolved.map fun i => "- " ++ i

/-- The text of a report. -/
def markdown (r : Report) : String :=
  let lines := ["# Migration Report", ""] ++ r.headLines ++ r.timingLines ++ r.failedLines ++
    (r.verification.map verdictLines).getD []
  String.join (lines.map (· ++ "\n"))

end Report

end Replatform
