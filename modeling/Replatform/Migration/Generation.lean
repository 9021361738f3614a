import Replatform.Answer.Code
import Replatform.Migration.Outcome
import Replatform.Migration.Prompt
import Replatform.Plan.Schedule
import Replatform.Tree.Lookup
import Replatform.Migration.Telling

/-!
# Generation

Generating the files of the new project one after another. What a file needs of others
is taken from those that are finished. While an answer streams in, what there is of the
file so far is told. A file that fails after all attempts is marked and the next one is
begun; only a cancellation ends the phase, and leaves the file in work as if it had not
been begun.

## Main definitions

* `Generation.Inputs`: What a file is generated from.
* `Generation.prompt`: The text of the request for a file.
* `Generation.receive`: Take in a streamed answer.
* `Generation.generateFile`, `generateAll`, `regenerate`: One file, all of them, and one
  of them again.
-/

namespace Replatform

namespace Generation

/-- What a file is generated from. -/
structure Inputs where
  analysis : Analysis
  sources : SourceFiles
  graph : Graph
  matched : MatchTable
  schedule : Schedule

/-- Those of some files that are finished, with their contents. -/
def finished (tree : Tree) (paths : List String) : List (String × String) :=
  paths.filterMap fun path =>
    match tree.find? path with
    | some node =>
      match node.status, node.content with
      | .done, some content => some (path, content)
      | _, _ => none
    | none => none

/-- The text of the request for a file. -/
def prompt (limits : ContextLimits) (inputs : Inputs) (tree : Tree) (target : String)
    (instructions : Option String) : String :=
  let context := Context.assemble limits {
    matched := (inputs.matched.get? target).getD .unmatched
    sources := inputs.sources
    graph := inputs.graph
    generated := finished tree (inputs.schedule.dependenciesOf target)
    instructions }
  Prompt.generation target inputs.analysis context.text inputs.schedule.order

/-- The request for a file. -/
def request (c : Config) (prompt : String) : Request :=
  ((Request.ofText c.models.generation prompt).withSystem Prompt.generationSystem).withBudget
    c.thinking.generation

variable {σ ε : Type}

/-- Take in the steps of a streamed answer, where `text` is what came before. -/
def receive (signal : SignalId) (target : String) : List Beat → (text : String) →
    Work σ ServiceError String
  | [], text => pure text
  | .act act :: beats, text => do
    Work.perform signal act
    receive signal target beats text
  | .chunk piece :: beats, text => do
    -- What is told is the file so far and not the piece, which may end inside of a fence.
    let text := text ++ piece
    Work.tell (.fileContent target (Answer.stripFences text) true)
    receive signal target beats text

/-- Ask for a file once, and take in the answer. -/
def stream (s : Service σ) (c : Config) (signal : SignalId) (target prompt : String) :
    Work σ ServiceError String := do
  let reply ← s.openStream signal (request c prompt)
  let text ← receive signal target reply.beats ""
  match reply.failure with
  | some e => Work.fail e
  | none => return text

/-- Ask for a file as often as it takes and the policy allows. -/
def streamRetrying (s : Service σ) (c : Config) (signal : SignalId) (target prompt : String) :
    Work σ MigrationError String := do
  let text ← Work.asPhase (Work.retrying c.retry signal (stream s c signal target prompt))
  return Answer.stripFences text

/-- Set the status of a file, and tell it. -/
def setStatus (target : String) (status : FileStatus) : WorkOn Tree σ ε Unit := do
  WorkOn.change (Tree.setStatus target status)
  WorkOn.tell (.fileStatus target status)

/-- Put the content of a file in its place, and tell it. -/
def finish (phase : Phase) (target content : String) : WorkOn Tree σ ε Unit := do
  if Text.isBlankText content then
    WorkOn.log phase .warning (target ++ " was generated empty")
  WorkOn.tell (.fileContent target content false)
  WorkOn.change (Tree.setContent target content)
  setStatus target .done
  WorkOn.log phase .success ("Generated " ++ target)

/-- Generate a file, and say whether that went well. -/
def generateFile (s : Service σ) (c : Config) (phase : Phase) (signal : SignalId)
    (target prompt : String) : WorkOn Tree σ MigrationError Bool := do
  setStatus target .inProgress
  match ← .ofWork (Work.attempt (streamRetrying s c signal target prompt)) with
  | .ok content =>
    finish phase target content
    return true
  | .error e =>
    if e.isCancelled then
      -- The file is left as if it had not been begun.
      setStatus target .pending
      WorkOn.fail e
    else
      setStatus target .error
      WorkOn.log phase .error ("Failed to generate " ++ target ++ ": " ++ e.message)
      return false

/-- Count a file that was generated or failed. -/
def record (target : String) (generated : Bool) (o : GenerationOutcome) : GenerationOutcome :=
  if generated then { o with generated := o.generated ++ [target] }
  else { o with failed := o.failed ++ [target] }

/-- Generate the files of a list, where `o` is what those before came to. -/
def generateEach (s : Service σ) (c : Config) (inputs : Inputs) (signal : SignalId) :
    List String → GenerationOutcome → WorkOn Tree σ MigrationError GenerationOutcome
  | [], o => pure o
  | target :: targets, o => do
    WorkOn.check signal
    let o := { o with progress := o.progress.begin target }
    WorkOn.tell (.progress o.progress)
    -- The prompt is made only now, when the files before this one are finished.
    let prompt := prompt c.context inputs (← WorkOn.held) target none
    let o := record target (← generateFile s c .generate signal target prompt) o
    let o := { o with progress := o.progress.complete }
    WorkOn.tell (.progress o.progress)
    generateEach s c inputs signal targets o

/-- Generate the files of the schedule. -/
def generateAll (s : Service σ) (c : Config) (inputs : Inputs) (signal : SignalId) :
    WorkOn Tree σ MigrationError GenerationOutcome := do
  let order := inputs.schedule.order
  let start := Progress.start order.length
  WorkOn.log .generate .info ("Generating " ++ toString order.length ++ " files")
  if inputs.schedule.cyclic ≠ [] then
    WorkOn.log .generate .warning (toString inputs.schedule.cyclic.length ++
      " files are in dependency cycles and were appended in priority order")
  WorkOn.tell (.progress start)
  let o ← generateEach s c inputs signal order { progress := start }
  if o.isComplete then
    WorkOn.log .generate .success ("Generated " ++ toString o.generated.length ++ " files")
  else
    WorkOn.log .generate .warning ("Generated " ++ toString o.generated.length ++ " files, " ++
      toString o.failed.length ++ " failed")
  return o

/-- Generate one file of the tree again, and say whether that went well. -/
def regenerate (s : Service σ) (c : Config) (inputs : Inputs) (signal : SignalId) (target : String)
    (instructions : Option String) : WorkOn Tree σ MigrationError Bool := do
  let tree ← WorkOn.held
  if !(tree.find? target).any FileNode.isFile then WorkOn.fail (.unknownTarget target)
  WorkOn.log .regenerate .info ("Regenerating " ++ target)
  WorkOn.check signal
  generateFile s c .regenerate signal target (prompt c.context inputs tree target instructions)

end Generation

end Replatform
