import Replatform.Proofs.Migration.Aside
import Replatform.Proofs.Tree.Each
import Replatform.Proofs.Tree.Rebuild
import Replatform.Proofs.Work.Moves

/-!
# Files as They Are Told

Whoever has the tree that a migration began with and is told of the files has the tree of the
migration. A file is never changed without being told of, and what is told of a file has happened to
it, in the same order.

`Tree.Mirrors` says that of what lies between two moments. Each change of a file and what is told of it
are one step, and `Run.Mirrors` is what the steps of a phase come to, in whatever way the phase ends. A
phase that is dropped is left out, since it may have the tree in its hands at that time.

Most of what a phase does to a run concerns neither the project nor what is recorded of its generation:
plans are made, times and verdicts are noted, and much is said that is not about the files. A relation
between runs that overlooks all this (`Run.Overlooks`) goes through such parts of a phase without another
look. A verification does one thing besides, which is to correct files. It has the relation if the
correction of a single file has it.

Two things are not told. The tree of a scaffold takes the place of the one before, and can be built
again from the targets. A generation begins all files anew, which changes nothing in such a tree.

## Main definitions

* `Run.Overlooks`: A relation that only the project matters to, and what is told and recorded of it.
* `Run.corrected`: A run with the content of a file corrected.
* `Tree.Mirrors`, `Run.Mirrors`: What is told between two moments is what happened to the files.
* `Run.Founds`: Nothing is told of files, and the tree is as fresh as it was.
* `Run.Recounts`: What was told since some moment leads from the targets to the tree.

## Theorems

* `Orchestrator.moves_ofWork`, `moves_others`, `moves_noted`: What is overlooked.
* `Orchestrator.moves_writeBack`, `moves_verify`: A verification has what a correction has.
* `Generation.mirrors_generateFile`, `Orchestrator.mirrors_corrected`: A file is told of when it is
  changed.
* `Orchestrator.founds_scaffold`, `mirrors_generate`, `mirrors_regenerate`: The phases.
* `Orchestrator.ends_recounts`: The phases of a migration, one after another.
-/

namespace Replatform

section Overlooked

variable {σ ε α : Type}

/-- A relation between runs that only the project matters to, what is told of its files, and what is
    recorded of their generation. -/
class Run.Overlooks (R : World σ × Run → World σ × Run → Prop) : Prop extends Composes R where
  aside : ∀ {w w' : World σ} (r : Run), w.Since Deed.IsAside w' → R (w, r) (w', r)
  others : ∀ (w : World σ) {r r' : Run}, r'.targets = r.targets → r'.tree = r.tree →
    r'.generation = r.generation → R (w, r) (w, r')

/-- A run with the content of a file corrected. -/
def Run.corrected (r : Run) (path content : String) : Run :=
  { r with tree := r.tree.setContent path content }

namespace Orchestrator

open WorkOn

variable {R : World σ × Run → World σ × Run → Prop} [Run.Overlooks R]

theorem moves_ofWork {task : Work σ ε α} (h : Aside task) :
    Moves R (ofWork task : WorkOn Run σ ε α) :=
  leads_ofWork h fun _ _ r hw => Run.Overlooks.aside r hw

theorem moves_log (phase : Phase) (severity : Severity) (message : String) :
    Moves R (WorkOn.log phase severity message : WorkOn Run σ ε Unit) :=
  moves_ofWork (aside_log phase severity message)

theorem moves_others {f : Run → Run} (htargets : ∀ r, (f r).targets = r.targets)
    (htree : ∀ r, (f r).tree = r.tree) (hgeneration : ∀ r, (f r).generation = r.generation) :
    Moves R (WorkOn.change f : WorkOn Run σ ε Unit) :=
  moves_change fun w r => Run.Overlooks.others w (htargets r) (htree r) (hgeneration r)

/-- What is noted of a phase at its end. -/
theorem moves_noted {f : Nat → Run → Run} (htargets : ∀ now r, (f now r).targets = r.targets)
    (htree : ∀ now r, (f now r).tree = r.tree)
    (hgeneration : ∀ now r, (f now r).generation = r.generation) (a : α) :
    Moves R (do
      let now ← .ofWork Work.now
      WorkOn.change (f now)
      return a : WorkOn Run σ MigrationError α) := by
  refine (moves_ofWork Work.does_now).bind fun now => ?_
  exact (moves_others (htargets now) (htree now) (hgeneration now)).bind fun _ => moves_pure a

variable (o : Orchestrator σ) (signal : SignalId)

theorem moves_plan (phase : Phase) : Moves R (o.plan phase : WorkOn Run σ MigrationError Unit) := by
  refine (moves_others (fun _ => by rfl) (fun _ => by rfl) fun _ => by rfl).bind fun _ => ?_
  exact moves_held.bind fun _ => moves_log _ _ _

section Verification

variable (hcorrected : ∀ w r path content,
  R (w, r) (w.tell (.fileContent path content false), Run.corrected r path content))
include hcorrected

/-- A file is corrected and told of. -/
theorem moves_writeBack (files : ProjectFiles) (paths : List String) :
    Moves R (writeBack files paths : WorkOn Run σ MigrationError Unit) := by
  induction paths with
  | nil => exact moves_pure ()
  | cons path paths ih =>
      refine moves_held.bind fun run => ?_
      cases run.tree.find? path with
      | none => exact ih
      | some node =>
          cases files.get? path with
          | none => exact ih
          | some content =>
              -- The correction and its event are one step.
              rintro ⟨w, r⟩
              simp only []
              rw [ends_bind, ends_change, ends_bind, ends_tell]
              exact ih.after (hcorrected w r path content)

theorem moves_verify : Moves R (o.verify signal) := by
  refine moves_held.bind fun run => moves_ite (moves_fail _) ?_
  refine (moves_ofWork Work.does_now).bind fun _ => ?_
  refine (moves_ofWork (Verification.aside_run signal o.service o.config _)).bind fun outcome => ?_
  refine (moves_writeBack hcorrected _ _).bind fun _ => ?_
  exact moves_noted (fun _ _ => by rfl) (fun _ _ => by rfl) (fun _ _ => by rfl) _

theorem moves_verifyIfAny : Moves R (o.verifyIfAny signal) := by
  refine moves_held.bind fun run => moves_ite (moves_log _ _ _) ?_
  exact (o.moves_verify signal hcorrected).bind fun _ => moves_pure ()

end Verification

end Orchestrator

end Overlooked

variable {σ ε α : Type}

open WorkOn

/-- What is told between two moments is what happened to a tree. -/
def Tree.Mirrors (s s' : World σ × Tree) : Prop :=
  ∃ told, s'.1.events = s.1.events ++ told ∧ s'.2 = s.2.replay told

instance : Composes (Tree.Mirrors (σ := σ)) where
  refl s := ⟨[], (List.append_nil _).symm, rfl⟩
  trans := by
    rintro s s' s'' ⟨told, hevents, htree⟩ ⟨told', hevents', htree'⟩
    refine ⟨told ++ told', ?_, ?_⟩
    · rw [hevents', hevents, List.append_assoc]
    · rw [htree', htree, Tree.replay_append]

theorem Tree.Mirrors.of_since {w w' : World σ} (h : w.Since Deed.IsAside w') (tree : Tree) :
    Mirrors (w, tree) (w', tree) := by
  rcases h.told with ⟨told, hevents, haside⟩
  exact ⟨told, hevents, (Tree.replay_eq_self haside tree).symm⟩

/-- A file is changed and told of. -/
theorem Tree.mirrors_tell (w : World σ) (tree : Tree) (e : Event) :
    Mirrors (w, tree) (w.tell e, tree.follow e) :=
  ⟨[e], w.events_tell e, rfl⟩

namespace Generation

open Replatform.Tree (Mirrors)

theorem mirrors_ofWork {task : Work σ ε α} (h : Aside task) :
    Moves Mirrors (ofWork task : WorkOn Tree σ ε α) :=
  leads_ofWork h fun _ _ tree hw => .of_since hw tree

theorem mirrors_log (phase : Phase) (severity : Severity) (message : String) :
    Moves Mirrors (WorkOn.log phase severity message : WorkOn Tree σ ε Unit) :=
  mirrors_ofWork (aside_log phase severity message)

theorem mirrors_progress (p : Progress) :
    Moves Mirrors (WorkOn.tell (.progress p) : WorkOn Tree σ ε Unit) :=
  mirrors_ofWork (Work.does_tell trivial)

theorem mirrors_check (signal : SignalId) :
    Moves Mirrors (WorkOn.check signal : WorkOn Tree σ MigrationError Unit) :=
  mirrors_ofWork (aside_asPhase (Work.does_check signal))

theorem mirrors_setStatus (target : String) (status : FileStatus) :
    Moves Mirrors (setStatus target status : WorkOn Tree σ ε Unit) :=
  fun st => Tree.mirrors_tell st.1 st.2 (.fileStatus target status)

theorem mirrors_finish (phase : Phase) (target content : String) :
    Moves Mirrors (finish phase target content : WorkOn Tree σ ε Unit) := by
  unfold finish
  refine (mirrors_log _ _ _).ite_bind fun _ => ?_
  -- The content is told before it is in its place, and nothing lies in between.
  rintro ⟨w, tree⟩
  rw [ends_bind, ends_tell, ends_bind, ends_change]
  have hdone := (mirrors_setStatus (σ := σ) (ε := ε) target .done).bind fun _ =>
    mirrors_log phase .success ("Generated " ++ target)
  exact hdone.after (Tree.mirrors_tell w tree (.fileContent target content false))

variable (s : Service σ) (c : Config) (inputs : Inputs) (signal : SignalId)

/-- A file is told of when it is begun, when it is finished or fails, and when it is taken back. -/
theorem mirrors_generateFile (phase : Phase) (target prompt : String) :
    Moves Mirrors (generateFile s c phase signal target prompt) := by
  refine (mirrors_setStatus target .inProgress).bind fun _ => ?_
  have hstream : Aside (Work.attempt (δ := MigrationError) (streamRetrying s c signal target prompt)) :=
    Work.does_attempt (aside_streamRetrying signal s c target prompt)
  refine (mirrors_ofWork hstream).bind fun result => ?_
  cases result with
  | ok content => exact (mirrors_finish phase target content).bind fun _ => moves_pure true
  | error e =>
      refine moves_ite ?_ ?_
      · exact (mirrors_setStatus target .pending).bind fun _ => moves_fail e
      · refine (mirrors_setStatus target .error).bind fun _ => ?_
        exact (mirrors_log _ _ _).bind fun _ => moves_pure false

theorem mirrors_generateEach (targets : List String) (o : GenerationOutcome) :
    Moves Mirrors (generateEach s c inputs signal targets o) := by
  induction targets generalizing o with
  | nil => exact moves_pure o
  | cons target targets ih =>
      refine (mirrors_check signal).bind fun _ => (mirrors_progress _).bind fun _ => ?_
      refine moves_held.bind fun _ => ?_
      refine (mirrors_generateFile s c signal .generate target _).bind fun _ => ?_
      exact (mirrors_progress _).bind fun _ => ih _

theorem mirrors_generateAll : Moves Mirrors (generateAll s c inputs signal) := by
  refine (mirrors_log _ _ _).bind fun _ => (mirrors_log _ _ _).ite_bind fun _ => ?_
  refine (mirrors_progress _).bind fun _ => (mirrors_generateEach s c inputs signal _ _).bind fun o => ?_
  exact moves_ite ((mirrors_log _ _ _).bind fun _ => moves_pure o)
    ((mirrors_log _ _ _).bind fun _ => moves_pure o)

theorem mirrors_regenerate (target : String) (instructions : Option String) :
    Moves Mirrors (regenerate s c inputs signal target instructions) := by
  refine moves_held.bind fun tree => (moves_fail _).ite_bind fun _ => ?_
  refine (mirrors_log _ _ _).bind fun _ => (mirrors_check signal).bind fun _ => ?_
  exact mirrors_generateFile s c signal .regenerate target _

end Generation

namespace Run

/-- What is told between two moments is what happened to the files of a run, and the targets are the
    same. -/
def Mirrors (s s' : World σ × Run) : Prop :=
  s'.2.targets = s.2.targets ∧ Tree.Mirrors (s.1, s.2.tree) (s'.1, s'.2.tree)

/-- Nothing is told of files between two moments, and the tree is as fresh as it was. -/
def Founds (s s' : World σ × Run) : Prop :=
  s.1.Since Deed.IsAside s'.1 ∧
    (s.2.tree = Tree.build s.2.targets → s'.2.tree = Tree.build s'.2.targets)

/-- What was told since the world `w` leads from the targets to the tree. -/
def Recounts (w : World σ) (s : World σ × Run) : Prop :=
  Tree.Mirrors (w, Tree.build s.2.targets) (s.1, s.2.tree)

instance : Overlooks (Mirrors (σ := σ)) where
  refl _ := ⟨rfl, Composes.refl _⟩
  trans h h' := ⟨h'.1.trans h.1, Composes.trans h.2 h'.2⟩
  aside r hw := ⟨rfl, .of_since hw r.tree⟩
  others _ _ _ htargets htree _ := ⟨htargets, htree ▸ Composes.refl _⟩

instance : Overlooks (Founds (σ := σ)) where
  refl _ := ⟨.refl _, id⟩
  trans h h' := ⟨h.1.trans h'.1, h'.2 ∘ h.2⟩
  aside _ hw := ⟨hw, id⟩
  others _ _ _ htargets htree _ := ⟨.refl _, fun h => htree.trans (h.trans (htargets ▸ rfl))⟩

theorem Recounts.trans {w : World σ} {s s' : World σ × Run} (h : Recounts w s) (h' : Mirrors s s') :
    Recounts w s' := by
  rw [Recounts, h'.1]
  exact Composes.trans h h'.2

theorem Recounts.of_since {w w' : World σ} {r : Run} (h : r.tree = Tree.build r.targets)
    (hw : w.Since Deed.IsAside w') : Recounts w (w', r) := by
  rw [Recounts, h]
  exact .of_since hw _

/-- To begin anew what was not begun is no change. -/
theorem clearFiles_eq_self {r : Run} (h : r.tree = Tree.build r.targets) : r.clearFiles = r := by
  have hfresh : ∀ file ∈ r.tree.files,
      { file with status := .pending, content := none } = file := by
    intro file hfile
    -- A file of a tree that was just built is pending and has no content.
    rw [h] at hfile
    rcases file with ⟨path, name, kind, status, content, children⟩
    rcases (Tree.each_build r.targets).of_mem_files hfile with ⟨rfl, rfl⟩
    rfl
  rw [clearFiles, Tree.mapFiles_eq_self hfresh]

end Run

namespace Orchestrator

open Run (Mirrors Founds)

variable (o : Orchestrator σ) (signal : SignalId)

/-- The tree of a scaffold can be built again from its targets. -/
theorem founds_adopt (sources : SourceFiles) (request : Request) (started : Nat) :
    Moves Founds (o.adopt sources request signal started) := by
  have hscaffold : ∀ planned,
      Moves Founds (WorkOn.change (withScaffold planned) : WorkOn Run σ MigrationError Unit) :=
    fun planned => moves_change fun w _ => ⟨.refl w, fun _ => (Tree.build_filePaths planned).symm⟩
  refine (moves_others (fun _ => by rfl) (fun _ => by rfl) fun _ => by rfl).bind fun _ => ?_
  refine (moves_ofWork (o.aside_call signal request)).bind fun response => ?_
  generalize Answer.plan response.textOrEmpty = planned
  refine moves_ite ((moves_log _ _ _).bind fun _ => moves_fail _) ?_
  refine (hscaffold planned).bind fun _ => moves_held.bind fun _ => (moves_log _ _ _).bind fun _ => ?_
  refine (moves_ofWork Work.does_now).bind fun _ => ?_
  exact moves_others (fun _ => by rfl) (fun _ => by rfl) fun _ => by rfl

/-- A scaffold that is not made leaves what there was. -/
theorem founds_scaffold : Moves Founds (o.scaffold signal) := by
  refine (moves_ofWork Work.does_now).bind fun started => moves_held.bind fun run => ?_
  refine (moves_log _ _ _).bind fun _ => ?_
  refine (moves_ofWork (o.does_readSources signal (fun _ _ => trivial) _)).bind fun sources => ?_
  refine (moves_others (fun _ => by rfl) (fun _ => by rfl) fun _ => by rfl).bind fun _ => ?_
  refine (moves_log _ _ _).bind fun _ => ?_
  exact (moves_log _ _ _).ite_bind fun _ => o.founds_adopt signal sources _ started

theorem mirrors_onTree {task : WorkOn Tree σ MigrationError α} (h : Moves Tree.Mirrors task) :
    Moves Mirrors (onTree task) :=
  moves_taking h fun _ _ _ _ hw => ⟨rfl, hw⟩

/-- A generation of a scaffold tells of everything that it does. -/
theorem mirrors_generate {w : World σ} {r : Run} (h : r.tree = Tree.build r.targets) :
    Ends (o.generate signal) (w, r) (fun _ st => Mirrors (w, r) st)
      (fun stop st => stop ≠ .dropped → Mirrors (w, r) st) := by
  rw [generate, ends_bind, ends_held]
  by_cases hready : (!r.isScaffolded) = true
  · rw [if_pos hready]
    exact fun _ => Composes.refl (w, r)
  · rw [if_neg hready, ends_bind, ends_ofWork]
    change Ends _ (w, r) _ _
    -- No file has been begun since the scaffold, so there is nothing to clear.
    rw [ends_bind, ends_change, Run.clearFiles_eq_self h]
    have hrecord : ∀ {f : Run → Run}, (∀ r, (f r).targets = r.targets) → (∀ r, (f r).tree = r.tree) →
        Moves Mirrors (WorkOn.change f : WorkOn Run σ MigrationError Unit) := fun htargets htree =>
      moves_change fun w r => ⟨htargets r, htree r ▸ Composes.refl _⟩
    refine (o.moves_plan .generate).bind (fun _ => moves_held.bind fun run => ?_) (w, r)
    have hall := Generation.mirrors_generateAll o.service o.config run.inputs signal
    refine (mirrors_onTree hall).bind fun _ => (moves_ofWork Work.does_now).bind fun _ => ?_
    exact (hrecord (fun _ => by rfl) fun _ => by rfl).bind fun _ => moves_pure _

/-- A corrected file is told of when it is put in its place. -/
theorem mirrors_corrected (w : World σ) (r : Run) (path content : String) :
    Mirrors (w, r) (w.tell (.fileContent path content false), r.corrected path content) :=
  ⟨rfl, Tree.mirrors_tell w r.tree (.fileContent path content false)⟩

theorem mirrors_regenerate (path : String) (instructions : Option String) :
    Moves Mirrors (o.regenerate path instructions signal) := by
  have hplanned : ∀ started,
      Moves Mirrors (o.regeneratePlanned path instructions signal started) := by
    intro started
    refine moves_held.bind fun run => ?_
    have hfile := Generation.mirrors_regenerate o.service o.config run.inputs signal path instructions
    refine (mirrors_onTree hfile).bind fun _ => ?_
    exact moves_noted (fun _ _ => by rfl) (fun _ _ => by rfl) (fun _ _ => by rfl) _
  refine moves_held.bind fun run => moves_ite (moves_fail _) ?_
  refine (moves_ofWork Work.does_now).bind fun started => moves_held.bind fun _ => ?_
  exact (o.moves_plan .regenerate).ite_bind fun _ => hplanned started

/-- The phases after the analysis tell of all that they do. -/
theorem ends_recounts {signal : SignalId} {w w' : World σ} {r : Run}
    (h : r.tree = Tree.build r.targets) (hw : w.Since Deed.IsAside w') :
    Ends (do
      o.scaffold signal
      let _ ← o.generate signal
      o.verifyIfAny signal) (w', r) (fun _ st => Run.Recounts w st)
      (fun stop st => stop ≠ .dropped → Run.Recounts w st) := by
  rw [ends_bind]
  refine (o.founds_scaffold signal (w', r)).mono (fun _ st hst => ?_) (fun stop st hst hnot => ?_)
  · -- The generation begins with the tree of the targets.
    have hfresh := hst.2 h
    rw [ends_bind]
    refine (o.mirrors_generate signal hfresh).mono (fun _ st' hst' => ?_) (fun stop st' hst' hnot => ?_)
    · have hgenerated := (Run.Recounts.of_since hfresh (hw.trans hst.1)).trans hst'
      exact (o.moves_verifyIfAny signal mirrors_corrected st').mono (fun _ _ h => hgenerated.trans h)
        (fun _ _ h hnot => hgenerated.trans (h hnot))
    · exact (Run.Recounts.of_since hfresh (hw.trans hst.1)).trans (hst' hnot)
  · exact .of_since ((hst hnot).2 h) (hw.trans (hst hnot).1)

end Orchestrator

end Replatform
