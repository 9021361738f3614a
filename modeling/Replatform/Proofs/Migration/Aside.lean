import Replatform.Migration.Orchestrator
import Replatform.Proofs.Work.Deeds

/-!
# What Is Told of Files

Whoever watches a migration is told of the files: of each new status, and of each content when it is
complete. `Tree.replay` is what somebody makes of this who has only the tree that the migration began
with, and what else is told leaves that tree as it is.

Most of a migration is told aside. Calls, the analysis, the reading of sources and the passes of a
verification say nothing of the files in the tree, not even where they stream the content of a file
piece by piece or correct a file, which is not in the tree until all passes are done.

The tasks that do their work aside are gone through once, for every kind of deeds that has room for what
is done aside. Which legacy files are read is left open in such a kind, and whoever asks what a task does
has to answer for the files that it reads.

## Main definitions

* `Tree.follow`, `Tree.replay`: What events make of a tree.
* `Deed.IsAside`: A deed that says nothing of the files.
* `Deed.HasRoom`: A kind of deeds that has room for what is done aside.
* `Orchestrator.introduced`: An analysis from the introduction to the project on.

## Theorems

* `Tree.replay_eq_self`: What is told aside makes nothing of a tree.
* `World.Since.told`: What is told by deeds that say nothing of the files.
* `Generation.aside_streamRetrying`, `Verification.aside_run`, `Orchestrator.aside_analyze`: Tasks
  that do nothing but what is done aside.
-/

namespace Replatform

/-- What an event makes of a tree: a file has another status, or another content. -/
def Tree.follow (tree : Tree) : Event → Tree
  | .fileStatus path status => tree.setStatus path status
  | .fileContent path content false => tree.setContent path content
  | _ => tree

/-- What events make of a tree, one after another. -/
def Tree.replay (events : List Event) (tree : Tree) : Tree :=
  events.foldl follow tree

/-- A deed that says nothing of the files. -/
def Deed.IsAside : Deed → Prop
  | .told (.fileStatus _ _) | .told (.fileContent _ _ false) => False
  | _ => True

/-- A deed that reads a legacy file. -/
def Deed.isRead : Deed → Bool
  | .read _ _ => true
  | _ => false

/-- A kind of deeds that has room for all that says nothing of the files and reads none. -/
class Deed.HasRoom (allowed : Deed → Prop) : Prop where
  aside : ∀ {d : Deed}, d.IsAside → d.isRead = false → allowed d

instance : Deed.HasRoom Deed.IsAside :=
  ⟨fun haside _ => haside⟩

namespace Deed.HasRoom

variable {allowed : Deed → Prop} [HasRoom allowed]

theorem told {e : Event} (h : (Deed.told e).IsAside) : allowed (.told e) :=
  aside h rfl

theorem log (entry : LogEntry) : allowed (.told (.log entry)) :=
  told trivial

theorem asked (r : Request) : allowed (.asked r) :=
  aside trivial rfl

theorem listed (url : String) : allowed (.listed url) :=
  aside trivial rfl

theorem paused (ms : Nat) : allowed (.paused ms) :=
  aside trivial rfl

theorem cancelled (id : SignalId) : allowed (.cancelled id) :=
  aside trivial rfl

end Deed.HasRoom

variable {σ ε α : Type}

theorem Tree.replay_append (events later : List Event) (tree : Tree) :
    tree.replay (events ++ later) = (tree.replay events).replay later :=
  List.foldl_append

theorem Deed.IsAside.follow_eq {e : Event} (h : (Deed.told e).IsAside) (tree : Tree) :
    tree.follow e = tree := by
  cases e with
  | fileStatus path status => exact h.elim
  | fileContent path content isPartial =>
      cases isPartial with
      | true => rfl
      | false => exact h.elim
  | _ => rfl

theorem Tree.replay_eq_self {events : List Event} (h : ∀ e ∈ events, (Deed.told e).IsAside)
    (tree : Tree) : tree.replay events = tree := by
  induction events with
  | nil => rfl
  | cons e events ih =>
      rw [List.forall_mem_cons] at h
      rw [replay, List.foldl_cons, h.1.follow_eq]
      exact ih h.2

theorem World.events_note (w : World σ) (d : Deed) :
    (w.note d).events = w.events ++ (World.eventOf? d).toList :=
  seen_note World.eventOf? w d

theorem World.events_tell (w : World σ) (e : Event) : (w.tell e).events = w.events ++ [e] :=
  w.events_note (.told e)

/-- What is told by deeds that say nothing of the files. -/
theorem World.Since.told {w w' : World σ} (h : w.Since Deed.IsAside w') :
    ∃ told, w'.events = w.events ++ told ∧ ∀ e ∈ told, (Deed.told e).IsAside := by
  rcases h with ⟨deeds, hw, hall⟩
  -- Deeds are noted with the latest first, while events come in the order in which they were told.
  refine ⟨deeds.reverse.filterMap World.eventOf?, ?_, fun e he => ?_⟩
  · rw [World.events, hw, List.reverse_append, List.filterMap_append]
    rfl
  · rcases List.mem_filterMap.mp he with ⟨d, hd, hevent⟩
    cases d with
    | told e' =>
        rw [World.eventOf?, Option.some.injEq] at hevent
        exact hevent ▸ hall _ (List.mem_reverse.mp hd)
    | _ => exact nomatch hevent

/-- A task that says nothing of the files. -/
abbrev Aside (task : Work σ ε α) : Prop :=
  Does Deed.IsAside task

open Deed (HasRoom)

/-- A failure that is told in other words is no more than the failure. -/
theorem since_asPhase {allowed : Deed → Prop} {call : Work σ ServiceError α} {w₀ w : World σ}
    (h : EndsSince allowed w₀ call w) :
    EndsSince allowed w₀ call.asPhase w := by
  refine (Work.ends_mapError _ _ _).mpr ?_
  refine h.mono (fun _ _ h => h) (fun stop _ h => ?_)
  cases stop with
  | failed e => exact h
  | dropped => exact h

theorem aside_asPhase {allowed : Deed → Prop} {call : Work σ ServiceError α}
    (h : Does allowed call) : Does allowed call.asPhase :=
  fun w => since_asPhase (h w)

variable {allowed : Deed → Prop} [HasRoom allowed]

theorem aside_log (phase : Phase) (severity : Severity) (message : String) :
    Does allowed (Work.log phase severity message : Work σ ε Unit) :=
  Work.does_log HasRoom.log phase severity message

theorem aside_tell (e : Event) (h : (Deed.told e).IsAside) :
    Does allowed (Work.tell e : Work σ ε Unit) :=
  Work.does_tell (HasRoom.told h)

theorem aside_retrying (policy : RetryPolicy) (signal : SignalId) {task : Work σ ServiceError α}
    (h : Does allowed task) : Does allowed (Work.retrying policy signal task) :=
  Work.does_retrying HasRoom.cancelled HasRoom.paused policy signal h

theorem aside_performAll (signal : SignalId) (acts : List Act) :
    Does (σ := σ) allowed (Work.performAll signal acts) :=
  Work.does_performAll HasRoom.cancelled signal acts

variable (signal : SignalId)

/-- The request is what a call begins with. -/
theorem Service.since_call (s : Service σ) (r : Request) (w : World σ) :
    EndsSince allowed (w.note (.asked r)) (s.call signal r) w := by
  refine Work.ends_note_bind ((Work.does_consult signal _).bind fun reply => ?_) w
  exact (aside_performAll signal reply.acts).bind fun _ => Work.does_ofExcept reply.result

theorem Service.aside_call (s : Service σ) (r : Request) : Does allowed (s.call signal r) :=
  fun w => (s.since_call signal r w).after (World.since_note w (HasRoom.asked r))

theorem Service.aside_callRetrying (s : Service σ) (policy : RetryPolicy) (r : Request) :
    Does allowed (s.callRetrying policy signal r) :=
  aside_retrying policy signal (s.aside_call signal r)

namespace Repository

variable (r : Repository σ) (url : String)

theorem aside_fetch : Does allowed (r.fetch signal url) := by
  refine (Work.does_check signal).bind fun _ => (Work.does_note (HasRoom.listed url)).bind fun _ => ?_
  refine (Work.does_consult signal _).bind fun reply => ?_
  exact (aside_performAll signal reply.acts).bind fun _ => does_pure _

variable {url} {path : String}

/-- To read a file is noted first. -/
theorem since_readFile (w : World σ) :
    EndsSince allowed (w.note (.read url path)) (r.readFile signal url path) w := by
  refine Work.ends_note_bind ((Work.does_consult signal _).bind fun reply => ?_) w
  refine (aside_performAll signal reply.acts).bind fun _ => ?_
  cases reply.result with
  | ok content => exact Does.bind (fun w => .of_deeds_eq rfl) fun _ => does_pure _
  | error e => exact does_pure _

variable (hread : allowed (.read url path))
include hread

theorem does_readFile : Does allowed (r.readFile signal url path) :=
  fun w => (r.since_readFile signal w).after (World.since_note w hread)

/-- A file that is in the cache is not read. -/
theorem does_fetchFile : Does allowed (r.fetchFile signal url path) := by
  refine (Work.does_check signal).bind fun _ => does_get.bind fun w => ?_
  cases w.cache.get? url path with
  | some content => exact does_pure _
  | none => exact r.does_readFile signal hread

end Repository

namespace Generation

variable {signal}

/-- The pieces of a file are told as what there is of it so far. -/
theorem isAside_of_streams {target : String} {d : Deed} (h : Streams target d) : d.IsAside := by
  cases d with
  | told e =>
      cases e with
      | fileContent path content isPartial =>
          cases isPartial with
          | true => exact trivial
          | false => exact h.elim
      | fileStatus path status => exact h.elim
      | _ => exact trivial
  | _ => exact trivial

theorem isRead_of_streams {target : String} {d : Deed} (h : Streams target d) : d.isRead = false := by
  cases d with
  | read url path => exact h.elim
  | _ => rfl

theorem aside_streamRetrying (signal : SignalId) (s : Service σ) (c : Config)
    (target prompt : String) :
    Does allowed (streamRetrying s c signal target prompt) :=
  (does_streamRetrying s c signal target prompt).mono fun _ h =>
    HasRoom.aside (isAside_of_streams h) (isRead_of_streams h)

end Generation

namespace Verification

variable (s : Service σ) (c : Config)

theorem aside_complain (issue : String) (r : Review) :
    Does allowed (complain issue r : Work σ MigrationError Review) :=
  (aside_log _ _ _).bind fun _ => does_pure _

theorem aside_review (files : ProjectFiles) (issues : List String) (pass passes : Nat) :
    Does allowed (review s c signal files issues pass passes) := by
  refine (Work.does_attempt (s.aside_callRetrying signal c.retry _)).bind fun answer => ?_
  cases answer with
  | ok response =>
      simp only []
      generalize Answer.review response.textOrEmpty = r
      exact does_ite (aside_complain _ _) (does_pure _)
  | error e => exact does_ite (Work.does_fail _) (aside_complain _ _)

/-- A correction is told as such, and not as a content of the file. -/
theorem aside_applyFixes (pass : Nat) (fixes : List Fix) (state : ProjectFiles × Names) :
    Does (σ := σ) allowed (applyFixes pass fixes state) := by
  induction fixes generalizing state with
  | nil => exact does_pure state
  | cons fix fixes ih =>
      exact does_ite ((aside_tell (.fixApplied fix.path pass) trivial).bind fun _ => ih _)
        ((aside_log _ _ _).bind fun _ => ih state)

theorem aside_passesFrom (passes left pass : Nat) (f : Findings) :
    Does allowed (passesFrom s c signal passes left pass f) := by
  induction left generalizing pass f with
  | zero => exact does_pure f
  | succ left ih =>
      refine Does.bind ?_ fun f => ih (pass + 1) f
      refine (aside_asPhase (Work.does_check signal)).bind fun _ => (aside_log _ _ _).bind fun _ => ?_
      refine (aside_review signal s c _ _ _ _).bind fun r => ?_
      exact (aside_applyFixes pass r.fixes _).bind fun state => does_pure _

theorem aside_run (files : ProjectFiles) : Does allowed (run s c signal files) := by
  refine (aside_passesFrom signal s c _ _ _ _).bind fun f => ?_
  refine does_ite ?_ ?_
  · refine (aside_log _ _ _).bind fun _ => ?_
    exact (aside_tell (.verification _) trivial).bind fun _ => does_pure _
  · refine (aside_log _ _ _).bind fun _ => ?_
    exact (aside_tell (.verification _) trivial).bind fun _ => does_pure _

end Verification

namespace Orchestrator

variable (o : Orchestrator σ)

theorem aside_call (r : Request) : Does allowed (o.call signal r) :=
  aside_asPhase (o.service.aside_callRetrying signal o.config.retry r)

theorem does_readSource {url path : String} (hread : allowed (.read url path)) :
    Does allowed (o.readSource url path signal) :=
  aside_asPhase (o.repository.does_fetchFile signal hread)

theorem aside_survey (url : String) : Does allowed (o.survey url signal) := by
  refine (aside_log _ _ _).bind fun _ => ?_
  refine (aside_asPhase (o.repository.aside_fetch signal url)).bind fun fetched => ?_
  cases fetched with
  | error e => exact Work.does_fail _
  | ok tree =>
      exact does_ite ((aside_log _ _ _).bind fun _ => Work.does_fail _)
        ((aside_log _ _ _).bind fun _ => does_pure _)

theorem does_readReadme {run : Run}
    (hread : ∀ path, run.legacyTree.readme? = some path → allowed (.read run.repoUrl path)) :
    Does allowed (o.readReadme signal run) := by
  unfold readReadme
  cases hreadme : run.legacyTree.readme? with
  | none => exact does_pure none
  | some path =>
      refine (o.does_readSource signal (hread path hreadme)).bind fun content? => ?_
      cases content? with
      | ok content => exact does_pure _
      | error e => exact (aside_log _ _ _).bind fun _ => does_pure none

theorem aside_askAnalysis (run : Run) : Does allowed (o.askAnalysis signal run) :=
  (o.aside_call signal _).bind fun _ => (aside_log _ _ _).bind fun _ => does_pure _

theorem aside_askDiagram (a : Analysis) : Does allowed (o.askDiagram signal a) := by
  refine does_get.bind fun w => does_ite ((aside_log _ _ _).bind fun _ => does_pure none) ?_
  refine (Work.does_attempt (o.aside_call signal _)).bind fun answer => ?_
  cases answer with
  | ok response =>
      simp only []
      cases response.firstImage? with
      | some image => exact (aside_log _ _ _).bind fun _ => does_pure _
      | none => exact (aside_log _ _ _).bind fun _ => does_pure _
  | error e => exact does_ite (Work.does_fail e) ((aside_log _ _ _).bind fun _ => does_pure none)

theorem aside_drawn (run : Run) (started : Nat) : Does allowed (do
    let run ← if o.config.generateDiagram then do
        pure { run with diagram := ← o.askDiagram signal run.analysis }
      else pure run
    return run.record .analyze started (← Work.now) : Work σ MigrationError Run) := by
  refine does_ite ?_ ?_
  · refine (o.aside_askDiagram signal _).bind fun diagram => (does_pure _).bind fun _ => ?_
    exact Work.does_now.bind fun _ => does_pure _
  · exact (does_pure _).bind fun _ => Work.does_now.bind fun _ => does_pure _

/-- What is left of an analysis once the introduction was read. -/
def introduced (run : Run) (started : Nat) : Work σ MigrationError Run := do
  (Work.check signal).asPhase
  let run := { run with analysis := ← o.askAnalysis signal run }
  let run ← if o.config.generateDiagram then do
      pure { run with diagram := ← o.askDiagram signal run.analysis }
    else pure run
  return run.record .analyze started (← Work.now)

theorem aside_introduced (run : Run) (started : Nat) :
    Does allowed (o.introduced signal run started) := by
  refine (aside_asPhase (Work.does_check signal)).bind fun _ => ?_
  exact (o.aside_askAnalysis signal run).bind fun analysis => o.aside_drawn signal _ started

/-- There are no files yet of which an analysis could tell. -/
theorem aside_analyze (url : String) : Aside (o.analyze url signal) := by
  refine Work.does_now.bind fun started => (o.aside_survey signal url).bind fun run => ?_
  refine (o.does_readReadme signal fun _ _ => trivial).bind fun readme => ?_
  exact o.aside_introduced signal _ started

theorem does_readSources {url : String} {paths : List String}
    (hread : ∀ path ∈ paths, allowed (.read url path)) (sources : SourceFiles) :
    Does allowed (o.readSources url signal paths sources) := by
  induction paths generalizing sources with
  | nil => exact does_pure sources
  | cons path paths ih =>
      rw [List.forall_mem_cons] at hread
      refine (aside_asPhase (Work.does_check signal)).bind fun _ => ?_
      refine (o.does_readSource signal hread.1).bind fun content? => ?_
      cases content? with
      | ok content => exact ih hread.2 _
      | error e =>
          exact does_ite ((aside_log _ _ _).bind fun _ => Work.does_fail _)
            ((aside_log _ _ _).bind fun _ => ih hread.2 sources)

end Orchestrator

end Replatform
