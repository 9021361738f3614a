import Replatform.Proofs.Migration.Settling
import Replatform.Proofs.Migration.WriteBack
import Replatform.Proofs.Tree.Refill

/-!
# What the Phases Leave

What is in the tree of a run after each phase, and which verdict stands next to it, for each
way in which the phase can end.

A generation does nothing to the tree but give files new statuses and contents. What does not
depend on these holds of the tree at the end, however the generation ends; `Tree.Steady` names
such properties. A file that fails is no failure of the generation, so there are two ways only in
which it comes to nothing: it is dropped, or it is cancelled.

A phase that comes to a result leaves a rooted tree and no verdict, except for a verification.
A phase that fails leaves the tree and the verdict alone, with two exceptions, both of which
concern a generation that was interrupted. The tree of one that was dropped is lost. One that
was cancelled leaves the tree as far as it was filled, and leaves the verdict next to it.

## Main definitions

* `Stop.Interrupts`: A phase was dropped or cancelled.
* `Tree.Steady`: A property of trees that new statuses and contents do not affect.
* `Run.SameProject`: Two runs have the same tree and the same verdict.
* `Run.IsBlank`: A run has no project yet.
* `Run.Interrupted`: What an interrupted generation leaves.
* `Run.cleared`: A file that is begun anew.

## Theorems

* `Tree.Steady.settle`: What holds of a tree when files are settled.
* `keeps_generateAll`, `steady_regenerate`: What a generation leaves.
* `ends_analyze`, `ends_scaffold`, `ends_generate`, `ends_regenerate`: What the phases leave.
-/

namespace Replatform

/-- A phase was dropped or cancelled. -/
def Stop.Interrupts (stop : Stop MigrationError) : Prop :=
  stop = .dropped ∨ stop = .failed .cancelled

/-- A property of trees that new statuses and contents do not affect. -/
structure Tree.Steady (P : Tree → Prop) : Prop where
  setStatus : ∀ path status tree, P tree → P (Tree.setStatus path status tree)
  setContent : ∀ path content tree, P tree → P (Tree.setContent path content tree)

section Generations

variable {σ : Type} {P : Tree → Prop} {tree tree' : Tree}

theorem Tree.Steady.fill (hP : Tree.Steady P) (path : String) (result : Option String)
    (h : P tree) : P (Tree.modify path (Generation.fill result) tree) := by
  cases result with
  | none => exact hP.setStatus path .error tree h
  | some content =>
      rw [Generation.modify_fill_some]
      exact hP.setStatus path .done _ (hP.setContent path content tree h)

theorem Tree.Steady.settle (hP : Tree.Steady P) (results : List (String × Option String))
    (h : P tree) : P (Generation.settle results tree) := by
  induction results generalizing tree with
  | nil => exact h
  | cons r results ih => exact ih (hP.fill r.1 r.2 h)

namespace Generation

theorem Broken.interrupts {targets : List String} {stop : Stop MigrationError}
    (h : Broken targets stop tree tree') : stop.Interrupts := by
  rcases h with ⟨-, -, -, -, ⟨hcancelled, -⟩ | ⟨hdropped, -⟩⟩
  · exact Or.inr hcancelled
  · exact Or.inl hdropped

theorem Broken.steady {targets : List String} {stop : Stop MigrationError}
    (hbroken : Broken targets stop tree tree') (hP : Tree.Steady P) (h : P tree) : P tree' := by
  rcases hbroken with ⟨results, target, -, -, ⟨-, rfl | rfl⟩ | ⟨-, rfl⟩⟩
  · exact hP.settle results h
  · exact hP.setStatus target .pending _ (hP.settle results h)
  · exact hP.setStatus target .inProgress _ (hP.settle results h)

variable (s : Service σ) (c : Config) (inputs : Inputs) (signal : SignalId)

/-- A generation keeps what new statuses and contents do not affect, and comes to nothing only if it
    is dropped or cancelled. -/
theorem keeps_generateAll (hP : Tree.Steady P) :
    WorkOn.Keeps P Stop.Interrupts (generateAll s c inputs signal) := by
  intro w tree h
  refine (ends_generateAll s c inputs signal w tree).mono (fun o st hst => ?_) (fun stop st hst => ?_)
  · rcases hst.2 with ⟨results, hresults⟩
    rw [hresults.settled]
    exact hP.settle results h
  · exact ⟨hst.1.steady hP h, hst.1.interrupts⟩

/-- To generate one file again keeps what new statuses and contents do not affect. It comes to
    nothing if it is dropped or cancelled, or without having touched the tree. -/
theorem steady_regenerate (hP : Tree.Steady P) (target : String) (instructions : Option String)
    (w : World σ) (h : P tree) :
    Ends (regenerate s c inputs signal target instructions) (w, tree) (fun _ t => P t.2)
      (fun stop t => P t.2 ∧ (stop.Interrupts ∨ t.2 = tree)) := by
  refine (ends_regenerate s c inputs signal target instructions w tree).mono ?_ ?_
  · rintro generated ⟨w', tree'⟩ ⟨-, result, -, rfl⟩
    exact hP.fill target result h
  · rintro stop ⟨w', tree'⟩ (⟨-, rfl⟩ | ⟨-, ⟨rfl, rfl | rfl⟩ | ⟨rfl, rfl⟩⟩)
    · exact ⟨h, Or.inr rfl⟩
    · exact ⟨h, Or.inr rfl⟩
    · exact ⟨hP.setStatus target .pending tree h, Or.inl (Or.inr rfl)⟩
    · exact ⟨hP.setStatus target .inProgress tree h, Or.inl (Or.inl rfl)⟩

end Generation

end Generations

variable {σ : Type}

namespace Run

/-- The tree and the verdict are the same. -/
def SameProject (r r' : Run) : Prop :=
  r'.tree = r.tree ∧ r'.verification = r.verification

/-- What a generation leaves that comes to nothing: the run as it was, the run without a tree, or,
    if the generation was cancelled, the run with another tree. -/
def Interrupted (r : Run) (stop : Stop MigrationError) (r' : Run) : Prop :=
  r'.verification = r.verification ∧ Tree.Rooted "" r'.tree ∧
    (r'.tree = r.tree ∨ r'.tree = [] ∨ stop = .failed .cancelled)

/-- There is nothing of a project yet. -/
def IsBlank (r : Run) : Prop :=
  r.tree = [] ∧ r.verification = none ∧ r.targets = [] ∧ r.matched = ∅ ∧ r.schedule = {}

theorem SameProject.refl (r : Run) : SameProject r r :=
  ⟨rfl, rfl⟩

/-- A file that is begun anew. -/
def cleared (node : FileNode) : FileNode :=
  { node with status := .pending, content := none }

theorem refills_cleared : Refills cleared :=
  fun _ => ⟨rfl, rfl, rfl, rfl⟩

theorem rooted_clearFiles {r : Run} (h : Tree.Rooted "" r.tree) :
    Tree.Rooted "" r.clearFiles.tree :=
  Tree.rooted_mapFiles refills_cleared h

theorem files_clearFiles (r : Run) : r.clearFiles.tree.files = r.tree.files.map cleared :=
  Tree.files_mapFiles refills_cleared r.tree

theorem not_done_clearFiles (r : Run) :
    ∀ file ∈ r.clearFiles.tree.files, file.status ≠ .done := by
  intro file hfile
  rw [files_clearFiles, List.mem_map] at hfile
  rcases hfile with ⟨node, -, rfl⟩
  simp only [cleared, ne_eq, reduceCtorEq, not_false_eq_true]

theorem filePaths_clearFiles (r : Run) : r.clearFiles.tree.filePaths = r.tree.filePaths := by
  rw [Tree.filePaths, files_clearFiles, List.map_map]
  rfl

end Run

/-- New statuses and contents keep a tree rooted. -/
theorem Tree.steady_rooted (base : String) : Tree.Steady (Tree.Rooted base) where
  setStatus path status _ h := Tree.rooted_modify (refills_status status) path h
  setContent path content _ h := Tree.rooted_modify (refills_content (some content)) path h

namespace Orchestrator

variable (o : Orchestrator σ)

open WorkOn

/-- A run that was analysed has no project yet, and nothing was generated. -/
theorem ends_analyze (url : String) (signal : SignalId) (w : World σ) :
    Ends (o.analyze url signal) w (fun r _ => r.IsBlank ∧ r.generation = none) (fun _ _ => True) := by
  have hsurvey : ∀ w, Ends (o.survey url signal) w (fun r _ => r.IsBlank ∧ r.generation = none)
      (fun _ _ => True) := by
    intro w
    rw [survey, ends_bind, Work.ends_log, ends_bind]
    refine (ends_any _ _).mono (fun fetched w _ => ?_) (fun _ _ _ => trivial)
    cases fetched with
    | error e => exact trivial
    | ok tree =>
        simp only []
        by_cases hempty : (tree.filePaths.filter o.config.scope.allows).isEmpty = true
        · rw [if_pos hempty]
          exact trivial
        · rw [if_neg hempty]
          exact ⟨⟨rfl, rfl, rfl, rfl, rfl⟩, rfl⟩
  rw [analyze, ends_bind]
  refine (ends_any _ _).mono (fun started w _ => ?_) (fun _ _ _ => trivial)
  rw [ends_bind]
  refine (hsurvey w).mono (fun r w hr => ?_) (fun _ _ _ => trivial)
  rw [ends_bind]
  refine (ends_any _ _).mono (fun readme w _ => ?_) (fun _ _ _ => trivial)
  rw [ends_bind]
  refine (ends_any _ _).mono (fun _ w _ => ?_) (fun _ _ _ => trivial)
  rw [ends_bind]
  refine (ends_any _ _).mono (fun analysis w _ => ?_) (fun _ _ _ => trivial)
  by_cases hdiagram : o.config.generateDiagram = true
  · rw [if_pos hdiagram, ends_bind]
    refine (ends_any _ _).mono (fun diagram w _ => ?_) (fun _ _ _ => trivial)
    exact hr
  · rw [if_neg hdiagram]
    exact hr

/-- A task with empty hands can do nothing to the project. -/
theorem keeps_project {α : Type} (r : Run) (task : Work σ MigrationError α) :
    Keeps (Run.SameProject r) (fun _ => True) (WorkOn.ofWork task) :=
  keeps_ofWork (ends_any task)

/-- A plan takes the place of the project. A plan without files, or none at all, does not. -/
theorem ends_adopt (sources : SourceFiles) (request : Request) (signal : SignalId) (started : Nat)
    (w : World σ) {r r₁ : Run} (h : Run.SameProject r r₁) :
    Ends (o.adopt sources request signal started) (w, r₁)
      (fun _ s => Tree.Rooted "" s.2.tree ∧ s.2.verification = none)
      (fun _ s => Run.SameProject r s.2) := by
  rw [adopt, ends_bind, ends_change]
  refine (keeps_project r _).then h (fun _ _ h _ => h) fun response w₁ r₁ h₁ => ?_
  generalize Answer.plan response.textOrEmpty = planned
  by_cases hempty : planned.isEmpty = true
  · rw [if_pos hempty]
    exact h₁
  · rw [if_neg hempty]
    exact ⟨Tree.rooted_build planned, rfl⟩

/-- A scaffold has no verdict. If none is made, the old one stays with its verdict. -/
theorem ends_scaffold (signal : SignalId) (w : World σ) (r : Run) :
    Ends (o.scaffold signal) (w, r)
      (fun _ s => Tree.Rooted "" s.2.tree ∧ s.2.verification = none)
      (fun _ s => Run.SameProject r s.2) := by
  have hbad : ∀ (stop : Stop MigrationError) (s : World σ × Run), Run.SameProject r s.2 → True →
      Run.SameProject r s.2 := fun _ _ h _ => h
  refine (keeps_project r Work.now).then (Run.SameProject.refl r) hbad fun started w₁ r₁ h₁ => ?_
  refine Keeps.then sustains_held h₁ hbad fun run w₁ r₁ h₁ => ?_
  refine Keeps.then (sustains_log _ _ _) h₁ hbad fun _ w₁ r₁ h₁ => ?_
  refine (keeps_project r _).then h₁ hbad fun sources w₁ r₁ h₁ => ?_
  refine Keeps.then (sustains_change fun _ h => h) h₁ hbad fun _ w₁ r₁ h₁ => ?_
  refine Keeps.then (sustains_log _ _ _) h₁ hbad fun _ w₁ r₁ h₁ => ?_
  generalize Context.overview o.config.context sources = overview
  by_cases hlong : overview.truncated = true
  · rw [if_pos hlong]
    refine Keeps.then (sustains_log _ _ _) h₁ hbad fun _ w₁ r₁ h₁ => ?_
    exact o.ends_adopt sources (o.planRequest run overview) signal started w₁ h₁
  · rw [if_neg hlong]
    exact o.ends_adopt sources (o.planRequest run overview) signal started w₁ h₁

/-- To match the targets and to put them in order does nothing to the project. -/
theorem keeps_plan (phase : Phase) (r : Run) :
    Keeps (Run.SameProject r) (fun _ => False) (o.plan phase : WorkOn Run σ MigrationError Unit) := by
  refine Sustains.bind (sustains_change fun _ h => h) fun _ => ?_
  exact sustains_held.bind fun _ => sustains_log _ _ _

/-- What a task on the tree leaves that keeps a tree rooted, and that comes to nothing only if it is
    interrupted or has left the tree alone. -/
theorem ends_onTree {α : Type} {task : WorkOn Tree σ MigrationError α} (w : World σ) {r r₁ : Run}
    (h₁ : r₁.verification = r.verification)
    (htask : Ends task (w, r₁.tree) (fun _ s => Tree.Rooted "" s.2)
      (fun stop s => Tree.Rooted "" s.2 ∧ (stop.Interrupts ∨ s.2 = r.tree))) :
    Ends (onTree task) (w, r₁) (fun _ s => Tree.Rooted "" s.2.tree)
      (fun stop s => r.Interrupted stop s.2) := by
  rw [onTree, ends_taking]
  refine htask.mono (fun a s h => h) (fun stop s h => ?_)
  cases stop with
  | dropped =>
      -- The tree was taken out of the run, and nobody is left to put it back.
      exact ⟨h₁, Tree.rooted_nil "", Or.inr (Or.inl rfl)⟩
  | failed e =>
      refine ⟨h₁, h.1, ?_⟩
      rcases h.2 with (hdropped | hcancelled) | hsame
      · exact absurd hdropped (by simp only [reduceCtorEq, not_false_eq_true])
      · exact Or.inr (Or.inr hcancelled)
      · exact Or.inl hsame

/-- A generation leaves no verdict. If it is interrupted, the old verdict stays. -/
theorem ends_generate (signal : SignalId) (w : World σ) {r : Run} (h : Tree.Rooted "" r.tree) :
    Ends (o.generate signal) (w, r)
      (fun _ s => Tree.Rooted "" s.2.tree ∧ s.2.verification = none)
      (fun stop s => r.Interrupted stop s.2) := by
  rw [generate, ends_bind, ends_held]
  by_cases hready : (!r.isScaffolded) = true
  · rw [if_pos hready]
    exact ⟨rfl, h, Or.inl rfl⟩
  · rw [if_neg hready, ends_bind, ends_ofWork]
    change Ends _ (w, r) _ _
    -- From here on the files are those of the cleared tree, but the verdict is still that of `r`.
    rw [ends_bind, ends_change]
    refine (o.keeps_plan .generate r.clearFiles).then (Run.SameProject.refl _)
      (fun _ _ _ hf => hf.elim) fun _ w₁ r₁ h₁ => ?_
    rw [ends_bind, ends_held, ends_bind]
    have hrooted : Tree.Rooted "" r₁.tree := by
      rw [h₁.1]
      exact Run.rooted_clearFiles h
    have hall := Generation.keeps_generateAll o.service o.config r₁.inputs signal
      (Tree.steady_rooted "")
    refine (ends_onTree w₁ (r := r) h₁.2 (hall.ends w₁ hrooted (fun _ _ h => h) ?_)).mono ?_
      (fun _ _ h => h)
    · exact fun stop t ht hstop => ⟨ht, Or.inl hstop⟩
    rintro outcome ⟨w₂, r₂⟩ hr₂
    exact ⟨hr₂, rfl⟩

/-- To generate a file again once there is a schedule leaves no verdict. -/
theorem ends_regeneratePlanned (path : String) (instructions : Option String) (signal : SignalId)
    (started : Nat) (w : World σ) {r r₁ : Run} (h : Tree.Rooted "" r.tree)
    (h₁ : Run.SameProject r r₁) :
    Ends (o.regeneratePlanned path instructions signal started) (w, r₁)
      (fun _ s => Tree.Rooted "" s.2.tree ∧ s.2.verification = none)
      (fun stop s => r.Interrupted stop s.2) := by
  rw [regeneratePlanned, ends_bind, ends_held, ends_bind]
  have hrooted : Tree.Rooted "" r₁.tree := h₁.1 ▸ h
  have hfile := Generation.steady_regenerate o.service o.config r₁.inputs signal
    (Tree.steady_rooted "") path instructions w hrooted
  rw [h₁.1] at hfile
  refine (ends_onTree w (r := r) h₁.2 (h₁.1.symm ▸ hfile)).mono ?_ (fun _ _ h => h)
  rintro generated ⟨w₂, r₂⟩ hr₂
  exact ⟨hr₂, rfl⟩

/-- To generate a file again leaves no verdict. If it is interrupted, the old verdict stays. -/
theorem ends_regenerate (path : String) (instructions : Option String) (signal : SignalId)
    (w : World σ) {r : Run} (h : Tree.Rooted "" r.tree) :
    Ends (o.regenerate path instructions signal) (w, r)
      (fun _ s => Tree.Rooted "" s.2.tree ∧ s.2.verification = none)
      (fun stop s => r.Interrupted stop s.2) := by
  rw [regenerate, ends_bind, ends_held]
  by_cases hready : (!r.isScaffolded) = true
  · rw [if_pos hready]
    exact ⟨rfl, h, Or.inl rfl⟩
  · rw [if_neg hready, ends_bind, ends_ofWork]
    change Ends _ (w, r) _ _
    rw [ends_bind, ends_held]
    by_cases hplanned : r.schedule.isEmpty = true
    · rw [if_pos hplanned]
      exact (o.keeps_plan .regenerate r).then (Run.SameProject.refl r) (fun _ _ _ hf => hf.elim)
        fun _ w₁ r₁ h₁ => o.ends_regeneratePlanned path instructions signal _ w₁ h h₁
    · rw [if_neg hplanned]
      exact o.ends_regeneratePlanned path instructions signal _ w h (Run.SameProject.refl r)

end Orchestrator

end Replatform
