import Replatform.Migration.Orchestrator
import Replatform.Tree.Valid
import Replatform.Wire.Event
import Replatform.Wire.Service

/-!
# Migrations on the Wire

The JSON forms of what a migration came to so far, of its parts, and of its failures.
The text of a failure is left out where a text was no configuration.

## Main definitions

* `Schedule.members`, `Graph.toJson`, `GenerationOutcome.toJson`: Parts of a migration.
* `Run.toJson`: The state of a migration.
* `TreeError.toJson`, `ConfigError.toJson`, `MigrationError.toJson`: Failures.
-/

namespace Replatform

/-- An object with a form for each value. -/
def Json.ofTable {α : Type} (f : α → Json) (t : Table α) : Json :=
  .obj (t.entries.map fun e => (e.1, f e.2))

/-- The members of the JSON form of a schedule. -/
def Schedule.members (s : Schedule) : List (String × Json) :=
  [("order", .ofTexts s.order), ("cyclic", .ofTexts s.cyclic),
    ("dependencies", .ofTable .ofTexts s.dependencies)]

/-- The JSON form of a graph: every file with what it imports. -/
def Graph.toJson (g : Graph) : Json :=
  .arr (g.edges.map fun e => .arr [.str e.1, .ofTexts e.2])

/-- The JSON form of what a generation came to. -/
def GenerationOutcome.toJson (o : GenerationOutcome) : Json :=
  .ofMembers [("generated", .ofTexts o.generated), ("failed", .ofTexts o.failed),
    ("progress", o.progress.toJson), ("complete", .bool o.isComplete)]

/-- The JSON form of the time a phase took, in milliseconds. -/
def PhaseTiming.brief (t : PhaseTiming) : Json :=
  .arr [.str t.phase.label, .ofNat (t.elapsed.totalNanos / 1000000)]

/-- The JSON form of the state of a migration. -/
def Run.toJson (r : Run) : Json :=
  .ofMembers [("repo_url", .str r.repoUrl), ("legacy_files", .ofTexts r.legacyTree.filePaths),
    ("scoped", .ofTexts r.scopedFiles), ("readme", .ofText? r.readme),
    ("analysis", r.analysis.toJson), ("diagram", (r.diagram.map InlineData.toJson).getD .null),
    ("sources", .ofTexts r.sources.keys), ("graph", r.graph.toJson), ("targets", .ofTexts r.targets),
    ("scaffolded", .bool r.isScaffolded), ("tree", r.tree.toJson),
    ("matches", .ofTable Match.toJson r.matched), ("schedule", .ofMembers r.schedule.members),
    ("generation", (r.generation.map GenerationOutcome.toJson).getD .null),
    ("verification", (r.verification.map Verdict.toJson).getD .null),
    ("timings", .arr (r.timings.map PhaseTiming.brief)),
    ("files", .ofTable .str r.generatedFiles)]

/-- A failure of a kind with a text. -/
def Json.failure (kind message : String) : Json :=
  .ofMembers [("error", .str kind), ("message", .str message)]

namespace TreeError

/-- The name of a kind of failure. -/
def label : TreeError → String
  | .emptyPath => "EmptyPath"
  | .invalidPath _ => "InvalidPath"
  | .duplicatePath _ => "DuplicatePath"
  | .missingParent _ _ => "MissingParent"
  | .fileWithChildren _ => "FileWithChildren"
  | .notFound _ => "NotFound"

/-- The JSON form of a failure. -/
def toJson (e : TreeError) : Json :=
  .failure e.label e.message

end TreeError

/-- The JSON form of the refusal of a configuration. -/
def ConfigError.toJson (e : ConfigError) : Json :=
  match e with
  | .unreadable => .ofMembers [("error", .str "Parse")]
  | .invalid field _ =>
    .ofMembers [("error", .str "Invalid"), ("field", .str field), ("message", .str e.message)]

namespace MigrationError

/-- The name of a kind of failure. -/
def label : MigrationError → String
  | .cancelled => "Cancelled"
  | .remote _ => "Remote"
  | .repository _ => "Repository"
  | .emptyScope _ => "EmptyScope"
  | .emptyScaffold => "EmptyScaffold"
  | .unknownTarget _ => "UnknownTarget"
  | .invalidState _ => "InvalidState"
  | .config _ => "Config"

/-- The JSON form of a failure, with what it means. -/
def toJson (e : MigrationError) : Json :=
  let text := match e with
    | .config .unreadable => []
    | _ => [("message", .str e.message)]
  .ofMembers ([("error", .str e.label), ("cancelled", .bool e.isCancelled),
    ("fatal", .bool e.isFatal), ("retryable", .bool e.isRetryable)] ++ text)

end MigrationError

end Replatform
