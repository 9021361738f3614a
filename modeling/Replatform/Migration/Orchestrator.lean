import Replatform.Answer.Analysis
import Replatform.Answer.Plan
import Replatform.Migration.Generation
import Replatform.Migration.Verification
import Replatform.Plan.Priority
import Replatform.Text.Quoted
import Replatform.Tree.Build

/-!
# The Phases of a Migration

A migration goes through four phases, each of which takes up what the one before left:
the legacy repository is analysed, a scaffold of the new project is planned, its files
are generated, and the project is verified. Afterwards single files can be generated
again. A phase that fails leaves the migration with what it did up to then.

## Main definitions

* `Run`: The state of a migration.
* `Orchestrator`: Where the files come from, who generates them, and how.
* `Orchestrator.analyze`, `scaffold`, `generate`, `verify`, `regenerate`: The phases.
* `Orchestrator.runAll`: All phases in a row.
-/

namespace Replatform

/-- The state of a migration. -/
structure Run where
  repoUrl : String := ""
  legacyTree : Tree := []
  /-- The legacy files in scope. -/
  scopedFiles : List String := []
  /-- The introduction to the legacy project. -/
  readme : Option String := none
  analysis : Analysis := {}
  diagram : Option InlineData := none
  /-- The legacy files that were read for the plan. -/
  sources : SourceFiles := ∅
  graph : Graph := .build []
  /-- The files of the new project. -/
  targets : List String := []
  /-- The new project as far as it is generated. -/
  tree : Tree := []
  matched : MatchTable := ∅
  schedule : Schedule := {}
  generation : Option GenerationOutcome := none
  verification : Option Verdict := none
  /-- How long the phases took, in order. -/
  timings : List PhaseTiming := []
deriving Inhabited

namespace Run

/-- There is a plan. -/
def isScaffolded (r : Run) : Bool :=
  !r.targets.isEmpty

/-- The files that are generated. -/
def generatedFiles (r : Run) : ProjectFiles :=
  Table.ofList ((r.tree.files.filter (·.status == .done)).map fun node => (node.path, node.text))

/-- What a file is generated from. -/
def inputs (r : Run) : Generation.Inputs :=
  { analysis := r.analysis, sources := r.sources, graph := r.graph, matched := r.matched
    schedule := r.schedule }

/-- Note how long a phase took that began at a time and has ended now. -/
def record (phase : Phase) (started now : Nat) (r : Run) : Run :=
  { r with timings := r.timings ++ [{ phase, elapsed := Duration.ofMillis (now - started) }] }

/-- The report on a migration. -/
def report (r : Run) : Report :=
  { repoUrl := r.repoUrl
    sourceFramework := r.analysis.sourceFramework
    recommendedTarget := r.analysis.recommendedTarget
    complexity := r.analysis.complexity
    totalFiles := r.targets.length
    generated := (r.generation.map (·.generated.length)).getD 0
    failed := (r.generation.map (·.failed)).getD []
    timings := r.timings
    verification := r.verification }

/-- Begin all files anew. -/
def clearFiles (r : Run) : Run :=
  { r with tree := r.tree.mapFiles fun node => { node with status := .pending, content := none } }

end Run

/-- Where the legacy files come from, who generates the new ones, and how. -/
structure Orchestrator (σ : Type) where
  service : Service σ
  repository : Repository σ
  config : Config := {}

namespace Orchestrator

variable {σ : Type} (o : Orchestrator σ)

/-- Send a request as often as it takes. -/
def call (signal : SignalId) (r : Request) : Work σ MigrationError Response :=
  (o.service.callRetrying o.config.retry signal r).asPhase

/-- Read a legacy file. -/
def readSource (url path : String) (signal : SignalId) :
    Work σ MigrationError (Except RepositoryError String) :=
  (o.repository.fetchFile signal url path).asPhase

/-- The filters as they are shown. -/
def scopeText (s : Scope) : String :=
  if s.isUnrestricted then "repository has no files"
  else "include " ++ Text.quotedList s.includes ++ ", exclude " ++ Text.quotedList s.excludes

/-- List the legacy repository and find the files in scope. -/
def survey (url : String) (signal : SignalId) : Work σ MigrationError Run := do
  Work.log .analyze .info ("Fetching repository structure for " ++ url)
  match ← (o.repository.fetch signal url).asPhase with
  | .error e => Work.fail (.repository e)
  | .ok tree =>
    let all := tree.filePaths
    let inScope := all.filter o.config.scope.allows
    if inScope.isEmpty then
      let filters := scopeText o.config.scope
      Work.log .analyze .error ("No files in scope (" ++ filters ++ ")")
      Work.fail (.emptyScope filters)
    else
      Work.log .analyze .info
        (toString inScope.length ++ " of " ++ toString all.length ++ " files in scope")
      return { repoUrl := url, legacyTree := tree, scopedFiles := inScope }

/-- Read the introduction to the legacy project, if there is one. -/
def readReadme (signal : SignalId) (run : Run) : Work σ MigrationError (Option String) := do
  match run.legacyTree.readme? with
  | none => return none
  | some path =>
    match ← o.readSource run.repoUrl path signal with
    | .ok content => return some content
    | .error e =>
      Work.log .analyze .warning ("Could not read " ++ path ++ ": " ++ e.message)
      return none

/-- The request for the analysis. -/
def analysisRequest (run : Run) : Request :=
  let prompt := Prompt.analysis run.repoUrl run.scopedFiles run.readme o.config.targetStack
  (((Request.ofText o.config.models.analysis prompt).withSystem Prompt.analysisSystem).asJson).withBudget
    o.config.thinking.analysis

/-- What is told of an analysis. -/
def analysisText (a : Analysis) : String :=
  "Analysis complete: " ++ (if a.sourceFramework = "" then "unknown framework" else a.sourceFramework) ++
    " (" ++ Report.complexityText a.complexity ++ " complexity, " ++ toString a.mappings.length ++
    " mapping hints)"

/-- Ask for the analysis, in which the stack that was asked for takes precedence. -/
def askAnalysis (signal : SignalId) (run : Run) : Work σ MigrationError Analysis := do
  let response ← o.call signal (o.analysisRequest run)
  let a := Answer.analysis response.textOrEmpty
  let a := { a with recommendedTarget := o.config.targetStack.getD a.recommendedTarget }
  Work.log .analyze .success (analysisText a)
  return a

/-- Ask for a picture of the architecture. To be left without one is not a failure. -/
def askDiagram (signal : SignalId) (a : Analysis) : Work σ MigrationError (Option InlineData) := do
  if !o.service.hasKey (← get).state then
    Work.log .analyze .warning "Skipping architecture diagram: no API key configured"
    return none
  else
    let request := (Request.ofText o.config.models.diagram (Prompt.diagram a)).withImage
      { aspectRatio := "16:9" }
    match ← (Work.attempt (o.call signal request) : Work σ MigrationError _) with
    | .ok response =>
      match response.firstImage? with
      | some image =>
        Work.log .analyze .success "Architecture diagram generated"
        return some image
      | none =>
        Work.log .analyze .warning "Diagram response contained no image"
        return none
    | .error e =>
      -- Only a cancellation ends the analysis.
      if e.isCancelled then Work.fail e
      else
        Work.log .analyze .warning ("Architecture diagram failed: " ++ e.message)
        return none

/-- Analyse a legacy repository. -/
def analyze (url : String) (signal : SignalId) : Work σ MigrationError Run := do
  let started ← Work.now
  let run ← o.survey url signal
  let run := { run with readme := ← o.readReadme signal run }
  (Work.check signal).asPhase
  let run := { run with analysis := ← o.askAnalysis signal run }
  let run ← if o.config.generateDiagram then do
      pure { run with diagram := ← o.askDiagram signal run.analysis }
    else pure run
  return run.record .analyze started (← Work.now)

/-- Read legacy files into a table. A file that cannot be read is left out, unless no other
    can be expected to be readable. -/
def readSources (url : String) (signal : SignalId) :
    List String → SourceFiles → Work σ MigrationError SourceFiles
  | [], sources => pure sources
  | path :: paths, sources => do
    (Work.check signal).asPhase
    match ← o.readSource url path signal with
    | .ok content => readSources url signal paths (sources.insert path content)
    | .error e =>
      if e.isBlocking then
        Work.log .scaffold .error ("Reading " ++ path ++ " failed: " ++ e.message)
        Work.fail (.repository e)
      else
        Work.log .scaffold .warning ("Skipping " ++ path ++ ": " ++ e.message)
        readSources url signal paths sources

/-- The request for the plan. -/
def planRequest (run : Run) (overview : Context) : Request :=
  let prompt := Prompt.structureOf run.analysis overview.text o.config.targetStack
  (((Request.ofText o.config.models.layout prompt).withSystem Prompt.structureSystem).asJson).withBudget
    o.config.thinking.layout

/-- The run with a scaffold for planned files, and without what belonged to another. -/
def withScaffold (planned : List String) (run : Run) : Run :=
  let tree := Tree.build planned
  { run with
    tree, targets := tree.filePaths, matched := ∅, schedule := {}, generation := none
    verification := none }

/-- Ask for a plan that was prepared with legacy files, and take it up. -/
def adopt (sources : SourceFiles) (request : Request) (signal : SignalId) (started : Nat) :
    WorkOn Run σ MigrationError Unit := do
  WorkOn.change fun run => { run with sources }
  let response ← .ofWork (o.call signal request)
  let planned := Answer.plan response.textOrEmpty
  if planned.isEmpty then
    WorkOn.log .scaffold .error "Structure call returned no files"
    WorkOn.fail .emptyScaffold
  else
    WorkOn.change (withScaffold planned)
    WorkOn.log .scaffold .success
      ("Scaffold planned: " ++ toString (← WorkOn.held).targets.length ++ " files")
    let now ← .ofWork Work.now
    WorkOn.change (Run.record .scaffold started now)

/-- Plan the scaffold of the new project. -/
def scaffold (signal : SignalId) : WorkOn Run σ MigrationError Unit := do
  let started ← .ofWork Work.now
  let run ← WorkOn.held
  let selected := Priority.first run.scopedFiles o.config.scaffoldFileLimit
  WorkOn.log .scaffold .info ("Reading " ++ toString selected.length ++ " legacy files")
  let sources ← .ofWork (o.readSources run.repoUrl signal selected ∅)
  let graph := Graph.build sources.entries
  -- The run has the new graph and sources from here on, even if no plan is made for them.
  WorkOn.change fun run => { run with graph }
  WorkOn.log .scaffold .info ("Dependency graph: " ++ toString graph.size ++ " files, " ++
    toString graph.edgeCount ++ " edges")
  let overview := Context.overview o.config.context sources
  if overview.truncated then
    WorkOn.log .scaffold .warning "Legacy overview truncated to fit the context ceiling"
  o.adopt sources (o.planRequest run overview) signal started

/-- The run with the targets matched to legacy files and put in order. -/
def withPlan (run : Run) : Run :=
  let matched := Mapper.table (clampUnit o.config.fallbackThreshold) run.targets run.sources.keys
    run.analysis.mappings
  { run with matched, schedule := .plan run.targets matched run.graph Schedule.defaultHorizon }

/-- Match the targets to legacy files and put them in order. -/
def plan (phase : Phase) : WorkOn Run σ MigrationError Unit := do
  WorkOn.change o.withPlan
  let run ← WorkOn.held
  let count := (run.matched.entries.filter (·.2.isMatched)).length
  WorkOn.log phase .info ("Matched " ++ toString count ++ " of " ++ toString run.targets.length ++
    " targets to legacy sources")

/-- Work on the tree of a run, which is not there meanwhile. -/
def onTree {α : Type} (task : WorkOn Tree σ MigrationError α) : WorkOn Run σ MigrationError α :=
  WorkOn.taking Run.tree (fun tree run => { run with tree }) [] task

/-- Generate the files of the scaffold. -/
def generate (signal : SignalId) : WorkOn Run σ MigrationError GenerationOutcome := do
  if !(← WorkOn.held).isScaffolded then
    WorkOn.fail (.invalidState "generate requires a scaffold")
  else
    let started ← .ofWork Work.now
    -- What an earlier generation left is gone before the first file is begun.
    WorkOn.change Run.clearFiles
    o.plan .generate
    let inputs := (← WorkOn.held).inputs
    let outcome ← onTree (Generation.generateAll o.service o.config inputs signal)
    let now ← .ofWork Work.now
    WorkOn.change fun run =>
      { run with generation := some outcome, verification := none }.record .generate started now
    return outcome

/-- Put corrected files in their places in the tree, and tell them. -/
def writeBack (files : ProjectFiles) : List String → WorkOn Run σ MigrationError Unit
  | [] => pure ()
  | path :: paths => do
    match (← WorkOn.held).tree.find? path, files.get? path with
    | some _, some content =>
      WorkOn.change fun run => { run with tree := run.tree.setContent path content }
      WorkOn.tell (.fileContent path content false)
    | _, _ => pure ()
    writeBack files paths

/-- Verify the generated files, and put corrected ones in their places. -/
def verify (signal : SignalId) : WorkOn Run σ MigrationError Verdict := do
  let files := (← WorkOn.held).generatedFiles
  if files.isEmpty then
    WorkOn.fail (.invalidState "verify requires generated files")
  else
    let started ← .ofWork Work.now
    -- The corrections reach the tree only when all passes are done.
    let outcome ← .ofWork (Verification.run o.service o.config signal files)
    writeBack outcome.files outcome.fixed.toList
    let now ← .ofWork Work.now
    WorkOn.change fun run =>
      { run with verification := some outcome.verdict }.record .verify started now
    return outcome.verdict

/-- Generate a file again once there is a schedule. -/
def regeneratePlanned (path : String) (instructions : Option String) (signal : SignalId)
    (started : Nat) : WorkOn Run σ MigrationError Bool := do
  let inputs := (← WorkOn.held).inputs
  let generated ← onTree (Generation.regenerate o.service o.config inputs signal path instructions)
  let now ← .ofWork Work.now
  WorkOn.change fun run => { run with verification := none }.record .regenerate started now
  return generated

/-- Generate a file of the scaffold again, and say whether that went well. -/
def regenerate (path : String) (instructions : Option String) (signal : SignalId) :
    WorkOn Run σ MigrationError Bool := do
  if !(← WorkOn.held).isScaffolded then
    WorkOn.fail (.invalidState "regenerate requires a scaffold")
  else
    let started ← .ofWork Work.now
    -- A scaffold that no file was generated for has no schedule yet.
    if (← WorkOn.held).schedule.isEmpty then o.plan .regenerate
    o.regeneratePlanned path instructions signal started

/-- Verify, unless there is nothing to verify. -/
def verifyIfAny (signal : SignalId) : WorkOn Run σ MigrationError Unit := do
  if (← WorkOn.held).generatedFiles.isEmpty then
    WorkOn.log .verify .warning "Nothing was generated, skipping verification"
  else
    let _ ← o.verify signal

/-- Go through all phases. -/
def runAll (url : String) (signal : SignalId) : Work σ MigrationError Run := do
  let run ← o.analyze url signal
  let ((), run) ← WorkOn.startingWith run do
    o.scaffold signal
    let _ ← o.generate signal
    o.verifyIfAny signal
  return run

end Orchestrator

end Replatform
