import Replatform.Proofs.Migration.Aside
import Replatform.Proofs.Migration.History
import Replatform.Proofs.Plan.Order
import Replatform.Proofs.Work.Moves

/-!
# Which Legacy Files Are Read

Two phases read legacy files: the analysis, which looks for an introduction to the project, and the
planning of the scaffold, which goes through the files in scope. What comes after them works on the
files that were read by then, and reads no more.

The files in scope are found once, by the analysis. No phase adds to them, so that it can be said of a
run which files its phases may read.

## Main definitions

* `Deed.ReadsOnly`: A deed that reads no legacy file but those that may be read.
* `Tree.Reads`, `Run.Reads`: What is read between two moments may be read.

## Theorems

* `Generation.reads_generateAll`, `Orchestrator.reads_generate`, `reads_verify`: Tasks that read nothing.
* `Orchestrator.ends_reads_scaffold`: The planning of a scaffold reads files in scope.
* `PhaseCall.ends_reads`: The phases read files in scope.
-/

namespace Replatform

variable {σ ε α : Type} {may : String → String → Prop}

/-- A deed that reads no legacy file but those that may be read. -/
def Deed.ReadsOnly (may : String → String → Prop) : Deed → Prop
  | .read url path => may url path
  | _ => True

theorem Deed.readsOnly_of_isRead {d : Deed} (h : d.isRead = false) : d.ReadsOnly may := by
  cases d with
  | read url path => exact nomatch h
  | _ => exact trivial

theorem Deed.ReadsOnly.mono {may' : String → String → Prop} {d : Deed} (h : d.ReadsOnly may)
    (hmay : ∀ url path, may url path → may' url path) : d.ReadsOnly may' := by
  cases d with
  | read url path => exact hmay url path h
  | _ => exact trivial

instance : Deed.HasRoom (Deed.ReadsOnly may) :=
  ⟨fun _ h => Deed.readsOnly_of_isRead h⟩

/-- What is read between two moments of the work on a tree may be read. -/
def Tree.Reads (may : String → String → Prop) (s s' : World σ × Tree) : Prop :=
  s.1.Since (Deed.ReadsOnly may) s'.1

/-- What is read between two moments of a run may be read, and the files in scope are the same. -/
structure Run.Reads (may : String → String → Prop) (s s' : World σ × Run) : Prop where
  since : s.1.Since (Deed.ReadsOnly may) s'.1
  scopedFiles : s'.2.scopedFiles = s.2.scopedFiles
  repoUrl : s'.2.repoUrl = s.2.repoUrl

instance : Composes (Tree.Reads (σ := σ) may) where
  refl s := .refl s.1
  trans h h' := World.Since.trans h h'

instance : Composes (Run.Reads (σ := σ) may) where
  refl s := ⟨.refl s.1, rfl, rfl⟩
  trans h h' := ⟨h.since.trans h'.since, h'.scopedFiles.trans h.scopedFiles,
    h'.repoUrl.trans h.repoUrl⟩

open WorkOn

namespace Generation

open Replatform.Tree (Reads)

theorem reads_ofWork {task : Work σ ε α} (h : Does (Deed.ReadsOnly may) task) :
    Leads (Reads may) (ofWork task : WorkOn Tree σ ε α) :=
  leads_ofWork h fun _ _ _ hw => hw

theorem reads_log (phase : Phase) (severity : Severity) (message : String) :
    Leads (Reads may) (WorkOn.log phase severity message : WorkOn Tree σ ε Unit) :=
  reads_ofWork (aside_log phase severity message)

theorem reads_tell (e : Event) : Leads (Reads may) (WorkOn.tell e : WorkOn Tree σ ε Unit) :=
  reads_ofWork (Work.does_tell trivial)

theorem reads_change (f : Tree → Tree) :
    Leads (Reads may) (WorkOn.change f : WorkOn Tree σ ε Unit) :=
  leads_change fun w _ => .refl w

theorem reads_check (signal : SignalId) :
    Leads (Reads may) (WorkOn.check signal : WorkOn Tree σ MigrationError Unit) :=
  reads_ofWork (aside_asPhase (Work.does_check signal))

theorem reads_setStatus (target : String) (status : FileStatus) :
    Leads (Reads may) (setStatus target status : WorkOn Tree σ ε Unit) :=
  (reads_change _).bind fun _ => reads_tell _

theorem reads_finish (phase : Phase) (target content : String) :
    Leads (Reads may) (finish phase target content : WorkOn Tree σ ε Unit) := by
  refine (reads_log _ _ _).ite_bind fun _ => (reads_tell _).bind fun _ => ?_
  refine (reads_change _).bind fun _ => (reads_setStatus target .done).bind fun _ => ?_
  exact reads_log _ _ _

variable (s : Service σ) (c : Config) (inputs : Inputs) (signal : SignalId)

theorem reads_generateFile (phase : Phase) (target prompt : String) :
    Leads (Reads may) (generateFile s c phase signal target prompt) := by
  refine (reads_setStatus target .inProgress).bind fun _ => ?_
  refine (reads_ofWork (Work.does_attempt (aside_streamRetrying signal s c target prompt))).bind
    fun result => ?_
  cases result with
  | ok content => exact (reads_finish phase target content).bind fun _ => leads_pure true
  | error e =>
      refine leads_ite ?_ ?_
      · exact (reads_setStatus target .pending).bind fun _ => leads_fail e
      · refine (reads_setStatus target .error).bind fun _ => ?_
        exact (reads_log _ _ _).bind fun _ => leads_pure false

theorem reads_generateEach (targets : List String) (o : GenerationOutcome) :
    Leads (Reads may) (generateEach s c inputs signal targets o) := by
  induction targets generalizing o with
  | nil => exact leads_pure o
  | cons target targets ih =>
      refine (reads_check signal).bind fun _ => (reads_tell _).bind fun _ => ?_
      refine leads_held.bind fun _ => ?_
      refine (reads_generateFile s c signal .generate target _).bind fun _ => ?_
      exact (reads_tell _).bind fun _ => ih _

theorem reads_generateAll : Leads (Reads may) (generateAll s c inputs signal) := by
  refine (reads_log _ _ _).bind fun _ => (reads_log _ _ _).ite_bind fun _ => ?_
  refine (reads_tell _).bind fun _ => (reads_generateEach s c inputs signal _ _).bind fun o => ?_
  exact leads_ite ((reads_log _ _ _).bind fun _ => leads_pure o)
    ((reads_log _ _ _).bind fun _ => leads_pure o)

theorem reads_regenerate (target : String) (instructions : Option String) :
    Leads (Reads may) (regenerate s c inputs signal target instructions) := by
  refine leads_held.bind fun tree => (leads_fail _).ite_bind fun _ => ?_
  refine (reads_log _ _ _).bind fun _ => (reads_check signal).bind fun _ => ?_
  exact reads_generateFile s c signal .regenerate target _

end Generation

namespace Orchestrator

open Replatform.Run (Reads)

theorem reads_ofWork {task : Work σ ε α} (h : Does (Deed.ReadsOnly may) task) :
    Leads (Reads may) (ofWork task : WorkOn Run σ ε α) :=
  leads_ofWork h fun _ _ _ hw => ⟨hw, rfl, rfl⟩

theorem reads_log (phase : Phase) (severity : Severity) (message : String) :
    Leads (Reads may) (WorkOn.log phase severity message : WorkOn Run σ ε Unit) :=
  reads_ofWork (aside_log phase severity message)

/-- The files in scope are not what a phase changes. -/
theorem reads_change {f : Run → Run} (hscoped : ∀ r, (f r).scopedFiles = r.scopedFiles)
    (hurl : ∀ r, (f r).repoUrl = r.repoUrl) :
    Leads (Reads may) (WorkOn.change f : WorkOn Run σ ε Unit) :=
  leads_change fun w r => ⟨.refl w, hscoped r, hurl r⟩

/-- What is noted of a phase at its end. -/
theorem reads_noted {f : Nat → Run → Run} (hscoped : ∀ now r, (f now r).scopedFiles = r.scopedFiles)
    (hurl : ∀ now r, (f now r).repoUrl = r.repoUrl) (a : α) :
    Leads (Reads may) (do
      let now ← .ofWork Work.now
      WorkOn.change (f now)
      return a : WorkOn Run σ MigrationError α) := by
  refine (reads_ofWork Work.does_now).bind fun now => ?_
  exact (reads_change (hscoped now) (hurl now)).bind fun _ => leads_pure a

theorem reads_onTree {task : WorkOn Tree σ MigrationError α} (h : Leads (Tree.Reads may) task) :
    Leads (Reads may) (onTree task) :=
  leads_taking h fun _ _ _ _ _ hw => ⟨hw, rfl, rfl⟩

variable (o : Orchestrator σ) (signal : SignalId)

theorem reads_plan (phase : Phase) :
    Leads (Reads may) (o.plan phase : WorkOn Run σ MigrationError Unit) := by
  refine (reads_change (fun _ => by rfl) fun _ => by rfl).bind fun _ => ?_
  exact leads_held.bind fun _ => reads_log _ _ _

theorem reads_generate : Leads (Reads may) (o.generate signal) := by
  refine leads_held.bind fun _ => leads_ite (leads_fail _) ?_
  refine (reads_ofWork Work.does_now).bind fun _ => ?_
  refine (reads_change (fun _ => by rfl) fun _ => by rfl).bind fun _ => ?_
  refine (o.reads_plan .generate).bind fun _ => leads_held.bind fun r => ?_
  refine (reads_onTree (Generation.reads_generateAll o.service o.config _ signal)).bind fun _ => ?_
  exact reads_noted (fun _ _ => by rfl) (fun _ _ => by rfl) _

theorem reads_writeBack (files : ProjectFiles) (paths : List String) :
    Leads (Reads may) (writeBack files paths : WorkOn Run σ MigrationError Unit) := by
  induction paths with
  | nil => exact leads_pure ()
  | cons path paths ih =>
      refine leads_held.bind fun run => ?_
      cases run.tree.find? path with
      | none => exact ih
      | some node =>
          cases files.get? path with
          | none => exact ih
          | some content =>
              refine (reads_change (fun _ => by rfl) fun _ => by rfl).bind fun _ => ?_
              exact (reads_ofWork (Work.does_tell trivial)).bind fun _ => ih

theorem reads_verify : Leads (Reads may) (o.verify signal) := by
  refine leads_held.bind fun run => leads_ite (leads_fail _) ?_
  refine (reads_ofWork Work.does_now).bind fun _ => ?_
  refine (reads_ofWork (Verification.aside_run signal o.service o.config _)).bind fun outcome => ?_
  refine (reads_writeBack _ _).bind fun _ => ?_
  exact reads_noted (fun _ _ => by rfl) (fun _ _ => by rfl) _

theorem reads_verifyIfAny : Leads (Reads may) (o.verifyIfAny signal) := by
  refine leads_held.bind fun run => leads_ite (reads_log _ _ _) ?_
  exact (o.reads_verify signal).bind fun _ => leads_pure ()

theorem reads_regenerate (path : String) (instructions : Option String) :
    Leads (Reads may) (o.regenerate path instructions signal) := by
  have hplanned : ∀ started,
      Leads (Reads may) (o.regeneratePlanned path instructions signal started) := by
    intro started
    refine leads_held.bind fun r => ?_
    refine (reads_onTree (Generation.reads_regenerate o.service o.config _ signal path
      instructions)).bind fun generated => ?_
    exact reads_noted (fun _ _ => by rfl) (fun _ _ => by rfl) generated
  refine leads_held.bind fun _ => leads_ite (leads_fail _) ?_
  refine (reads_ofWork Work.does_now).bind fun started => leads_held.bind fun _ => ?_
  exact (o.reads_plan .regenerate).ite_bind fun _ => hplanned started

theorem reads_adopt (sources : SourceFiles) (request : Request) (started : Nat) :
    Leads (Reads may) (o.adopt sources request signal started) := by
  refine (reads_change (fun _ => by rfl) fun _ => by rfl).bind fun _ => ?_
  refine (reads_ofWork (o.aside_call signal request)).bind fun response => ?_
  generalize Answer.plan response.textOrEmpty = planned
  refine leads_ite ((reads_log _ _ _).bind fun _ => leads_fail _) ?_
  refine (reads_change (fun _ => by rfl) fun _ => by rfl).bind fun _ => leads_held.bind fun _ => ?_
  refine (reads_log _ _ _).bind fun _ => (reads_ofWork Work.does_now).bind fun now => ?_
  exact reads_change (fun _ => by rfl) fun _ => by rfl

/-- The planning of a scaffold reads files in scope. -/
theorem ends_reads_scaffold (w : World σ) {r : Run}
    (hmay : ∀ path ∈ r.scopedFiles, may r.repoUrl path) :
    Ends (o.scaffold signal) (w, r) (fun _ s => Reads may (w, r) s)
      (fun _ s => Reads may (w, r) s) := by
  have hselected : ∀ path ∈ Priority.first r.scopedFiles o.config.scaffoldFileLimit,
      may r.repoUrl path := fun path hpath => hmay path (Priority.mem_of_mem_first hpath)
  rw [scaffold, ends_bind, ends_ofWork]
  change Ends (held >>= _) (w, r) _ _
  rw [ends_bind, ends_held]
  -- From here on nothing depends on the run in the hands any more.
  refine LeadsIf.ends ((reads_log _ _ _).bind fun _ => ?_) (w, r)
  refine (reads_ofWork (o.does_readSources signal hselected ∅)).bind fun sources => ?_
  refine (reads_change (fun _ => by rfl) fun _ => by rfl).bind fun _ => ?_
  refine (reads_log _ _ _).bind fun _ => ?_
  exact (reads_log _ _ _).ite_bind fun _ => o.reads_adopt signal sources _ _

end Orchestrator

/-- What a phase reads that is called on a run may be read, if what is in scope may. -/
theorem PhaseCall.ends_reads (call : PhaseCall) (o : Orchestrator σ) (signal : SignalId) (w : World σ)
    {r : Run} (hmay : ∀ path ∈ r.scopedFiles, may r.repoUrl path) :
    Ends (call.task o signal) (w, r) (fun _ s => Run.Reads may (w, r) s)
      (fun _ s => Run.Reads may (w, r) s) := by
  cases call with
  | scaffold => exact o.ends_reads_scaffold signal w hmay
  | generate => exact ((o.reads_generate signal).bind fun _ => leads_pure ()).ends (w, r)
  | verify => exact ((o.reads_verify signal).bind fun _ => leads_pure ()).ends (w, r)
  | regenerate path instructions =>
      exact ((o.reads_regenerate signal path instructions).bind fun _ => leads_pure ()).ends (w, r)

end Replatform
