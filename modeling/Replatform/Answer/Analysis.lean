import Replatform.Analysis
import Replatform.Answer.Data

/-!
# Reading an Analysis

The analysis in an answer. Several fields go by two names. An answer without a JSON
object becomes the summary.

## Main definitions

* `Answer.hint?`: A mapping hint.
* `Answer.analysis`: The analysis in an answer.
-/

namespace Replatform

namespace Answer

/-- A mapping hint, if it names a source and a target. -/
def hint? : Json → Option Mapping
  | .obj o => do
    let source ← textField? o ["sourcePath", "source"]
    let target ← textField? o ["targetPath", "target"]
    if source = "" ∨ target = "" then none
    else
      some {
        source
        target
        rationale := (textField? o ["rationale", "reason"]).getD ""
        confidence := (List.lookup "confidence" o).bind Json.number? }
  | _ => none

/-- The mapping hints of an answer. -/
def hints (o : Members) : List Mapping :=
  match firstField? o ["mappings", "fileMappings"] with
  | some (.arr items) => items.filterMap hint?
  | _ => []

/-- The analysis in an answer. -/
def analysis (text : String) : Analysis :=
  match extract? text with
  | some (.obj o) =>
    { summary := (textField? o ["summary"]).getD ""
      complexity := ((textField? o ["complexity"]).map Complexity.ofLabel).getD .medium
      dependencies := textList o "dependencies"
      patterns := textList o "patterns"
      risks := textList o "risks"
      sourceFramework := (textField? o ["sourceFramework", "detectedFramework"]).getD ""
      recommendedTarget := (textField? o ["recommendedTarget", "targetStack"]).getD ""
      architecture := (textField? o ["architecture", "architectureDescription"]).getD ""
      mappings := hints o
      migrationNotes := (textField? o ["migrationNotes", "notes"]).filter (· ≠ "") }
  | _ => { summary := Text.trim text }

end Answer

end Replatform
