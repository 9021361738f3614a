import Replatform.Proofs.Migration.History

/-!
# A File That Is Not Generated Again

What is left of a run when a file could not be generated again. The call takes the tree out of the
run, makes a plan if there is none, and gives the file new statuses while an answer streams in. None
of this shows if there is no such file, and if there is one then nothing but its status does.

The plan is the exception. It is made before the file is looked for and stays, whatever becomes of
the file. `Orchestrator.planned` is the run with the plan, and everything else is said in comparison
with it.

Where the tree is rooted the change of a status reaches the file with the path and no other node,
and a rooted tree is what every sequence of calls leads to.

## Main definitions

* `Orchestrator.planned`: A run once there is a plan.
* `Run.withStatus`: A run in which a file has another status.

## Theorems

* `Orchestrator.ends_plan`: What is left when a plan is made.
* `Orchestrator.ends_regenerate_planned`: How a call ends, and what it does to the run.
* `Orchestrator.regenerate_failed`: What a call leaves that comes to nothing.
-/

namespace Replatform

variable {σ : Type}

/-- The run in which the file with a path has another status. -/
def Run.withStatus (path : String) (status : FileStatus) (r : Run) : Run :=
  { r with tree := r.tree.mapFiles (Tree.changeAt path fun node => { node with status }) }

namespace Orchestrator

variable (o : Orchestrator σ)

/-- A run once there is a plan: the one that it has, or else the one that is made for it. -/
def planned (r : Run) : Run :=
  if r.schedule.isEmpty then o.withPlan r else r

/-- A run gets nothing but a plan. -/
theorem planned_eq (r : Run) :
    o.planned r = { r with matched := (o.planned r).matched, schedule := (o.planned r).schedule } := by
  rw [planned]
  split_ifs <;> rfl

theorem tree_planned (r : Run) : (o.planned r).tree = r.tree := by
  rw [planned_eq]

/-- To make a plan is to tell how many targets it matches. -/
theorem ends_plan {phase : Phase} {w : World σ} {r : Run} {good : Unit → World σ × Run → Prop}
    {bad : Stop MigrationError → World σ × Run → Prop}
    (h : ∀ entry, good () (w.tell (.log entry), o.withPlan r)) :
    Ends (o.plan phase) (w, r) good bad :=
  h _

/-- How a call ends that generates a file again, when there is a plan. -/
theorem ends_regeneratePlanned_tree (path : String) (instructions : Option String)
    (signal : SignalId) (started : Nat) (w : World σ) (r : Run) :
    Ends (o.regeneratePlanned path instructions signal started) (w, r)
      (fun generated s => (r.tree.find? path).any FileNode.isFile = true ∧
        ∃ result : Option String, generated = result.isSome ∧
          s.2 = ({ r with
            tree := Tree.modify path (Generation.fill result) r.tree
            verification := none } : Run).record .regenerate started s.1.now)
      (fun stop s => stop = .failed (.unknownTarget path) ∧ s.2 = r ∨
        (r.tree.find? path).any FileNode.isFile = true ∧ stop = .failed .cancelled ∧
          (s.2 = r ∨ s.2 = { r with tree := Tree.setStatus path .pending r.tree }) ∨
        stop = .dropped) := by
  rw [regeneratePlanned, ends_bind, WorkOn.ends_held, ends_bind, onTree, WorkOn.ends_taking]
  refine (Generation.ends_regenerate o.service o.config r.inputs signal path instructions w
    r.tree).mono ?_ ?_
  · rintro generated ⟨w₁, tree⟩ ⟨hfile, result, rfl, rfl⟩
    exact ⟨hfile, result, rfl, rfl⟩
  · -- What was taken out of the run is put back, unless nobody is left to do so.
    rintro stop ⟨w₁, tree⟩ (⟨rfl, rfl⟩ | ⟨hfile, ⟨rfl, rfl | rfl⟩ | ⟨rfl, -⟩⟩)
    · exact Or.inl ⟨rfl, rfl⟩
    · exact Or.inr (Or.inl ⟨hfile, rfl, Or.inl rfl⟩)
    · exact Or.inr (Or.inl ⟨hfile, rfl, Or.inr rfl⟩)
    · exact Or.inr (Or.inr rfl)

/-- How a call ends that generates a file again. -/
theorem ends_regenerate_planned (path : String) (instructions : Option String) (signal : SignalId)
    (w : World σ) (r : Run) :
    Ends (o.regenerate path instructions signal) (w, r)
      (fun generated s => (r.tree.find? path).any FileNode.isFile = true ∧
        ∃ result : Option String, generated = result.isSome ∧
          s.2 = ({ o.planned r with
            tree := Tree.modify path (Generation.fill result) r.tree
            verification := none } : Run).record .regenerate w.now s.1.now)
      (fun stop s => (∃ reason, stop = .failed (.invalidState reason)) ∧ s.2 = r ∨
        stop = .failed (.unknownTarget path) ∧ s.2 = o.planned r ∨
        (r.tree.find? path).any FileNode.isFile = true ∧ stop = .failed .cancelled ∧
          (s.2 = o.planned r ∨
            s.2 = { o.planned r with tree := Tree.setStatus path .pending r.tree }) ∨
        stop = .dropped) := by
  rw [regenerate, ends_bind, WorkOn.ends_held]
  by_cases hready : (!r.isScaffolded) = true
  · rw [if_pos hready]
    exact Or.inl ⟨⟨_, rfl⟩, rfl⟩
  · rw [if_neg hready, ends_bind, WorkOn.ends_ofWork]
    change Ends _ (w, r) _ _
    rw [ends_bind, WorkOn.ends_held]
    have hrest := fun w₁ : World σ =>
      o.ends_regeneratePlanned_tree path instructions signal w.now w₁ (o.planned r)
    rw [o.tree_planned r] at hrest
    by_cases hmissing : r.schedule.isEmpty = true
    · have hplanned : o.planned r = o.withPlan r := if_pos hmissing
      rw [if_pos hmissing, ends_bind]
      refine o.ends_plan fun entry => ?_
      rw [← hplanned]
      exact (hrest _).mono (fun _ _ hs => hs) (fun _ _ hs => Or.inr hs)
    · have hplanned : o.planned r = r := if_neg hmissing
      rw [hplanned] at hrest ⊢
      rw [if_neg hmissing]
      exact (hrest w).mono (fun _ _ hs => hs) (fun _ _ hs => Or.inr hs)

/-- What a call leaves that does not generate the file again. If there is no scaffold, that is the
    run as it was; if the file is not part of it, the run with a plan and nothing else. If the call is
    cancelled, the file may be pending, and if it fails the file has failed. No content is changed by
    any of these. -/
theorem regenerate_failed {history : List Turn} {r : Run} (h : Run.Reached history r) (path : String)
    (instructions : Option String) (signal : SignalId) (w : World σ) :
    o.planned r = { r with matched := (o.planned r).matched, schedule := (o.planned r).schedule } ∧
    Ends (o.regenerate path instructions signal) (w, r)
      (fun generated s => generated = false →
        path ∈ r.tree.filePaths ∧
          s.2 = ({ (o.planned r).withStatus path .error with verification := none } : Run).record
            .regenerate w.now s.1.now)
      (fun stop s => ∀ e, stop = .failed e →
        (∃ reason, e = .invalidState reason) ∧ s.2 = r ∨
        e = .unknownTarget path ∧ s.2 = o.planned r ∨
        e = .cancelled ∧ (s.2 = o.planned r ∨ s.2 = (o.planned r).withStatus path .pending)) := by
  have hrooted := h.sound.1
  have hstatus : ∀ status : FileStatus, path ∈ r.tree.filePaths →
      Tree.setStatus path status r.tree = ((o.planned r).withStatus path status).tree := by
    intro status hpath
    rw [Run.withStatus, o.tree_planned, Tree.setStatus, Tree.modify_eq_mapFiles _ hrooted hpath]
  have hknown : (r.tree.find? path).any FileNode.isFile = true → path ∈ r.tree.filePaths := by
    intro hfile
    rw [Option.any_eq_true] at hfile
    rcases hfile with ⟨node, hfind, hkind⟩
    refine (Tree.mem_filePaths_iff path r.tree).mpr ⟨node, ?_, Tree.path_of_find? hfind⟩
    exact Tree.mem_filesAmong_of_mem_nodes hrooted.filesAreLeaves (Tree.mem_nodes_of_find? hfind)
      (beq_iff_eq.mp hkind)
  refine ⟨o.planned_eq r, (o.ends_regenerate_planned path instructions signal w r).mono ?_ ?_⟩
  · rintro generated s ⟨hfile, result, rfl, hs⟩ hfailed
    rw [Option.isSome_eq_false_iff, Option.isNone_iff_eq_none] at hfailed
    subst hfailed
    have htree : Tree.modify path (Generation.fill none) r.tree = _ := hstatus .error (hknown hfile)
    rw [htree] at hs
    exact ⟨hknown hfile, hs⟩
  · rintro stop s hs e rfl
    rcases hs with ⟨⟨reason, he⟩, hs⟩ | ⟨he, hs⟩ | ⟨hfile, he, hs⟩ | he
    · exact Or.inl ⟨⟨reason, Stop.failed.inj he⟩, hs⟩
    · exact Or.inr (Or.inl ⟨Stop.failed.inj he, hs⟩)
    · rw [hstatus .pending (hknown hfile)] at hs
      exact Or.inr (Or.inr ⟨Stop.failed.inj he, hs⟩)
    · exact absurd he (Stop.failed_ne_dropped e)

-- The run and the worlds are irreducible so that nothing is run while the statements about them are
-- read.

/-- A project of two files that passed. -/
@[irreducible] def passedPair : Run :=
  (Run.afterCalls Run.fromStore 0 "" Run.passedCalls).2

/-- A file is refused. -/
@[irreducible] def refusing : World (List (Reply ServiceError Response)) :=
  { state := [⟨[], .error (.other "no")⟩] }

/-- A request for a file is cancelled. -/
@[irreducible] def withdrawing : World (List (Reply ServiceError Response)) :=
  { state := [⟨[.cancel 0, .wait 1], .ok (.ofText "2")⟩] }

/-- A file that fails has failed and keeps its content. One that is cancelled is pending, with its
    content, and the verdict stays. -/
theorem regenerate_failed_pair :
    (∃ history, Run.Reached history passedPair) ∧
      Ends (Run.fromStore.regenerate "a.ts" none 0) (refusing, passedPair)
        (fun generated s => generated = false ∧
          s.2.tree = (passedPair.withStatus "a.ts" .error).tree ∧
          s.2.tree.files.map (fun f => (f.status, f.text)) =
            [(.error, "1"), (.done, "import './a'")])
        (fun _ _ => False) ∧
      Ends (Run.fromStore.regenerate "a.ts" none 0) (withdrawing, passedPair)
        (fun _ _ => False)
        (fun stop s => stop = .failed .cancelled ∧ s.2 = passedPair.withStatus "a.ts" .pending) := by
  have hreached : Run.Reached (Run.afterCalls Run.fromStore 0 "" Run.passedCalls).1 passedPair := by
    rw [passedPair]
    exact Run.reached_afterCalls Run.fromStore 0 "" Run.passedCalls
  have hplanned : Run.fromStore.planned passedPair = passedPair := if_neg (by decide +kernel)
  refine ⟨⟨_, hreached⟩, ?_, ?_⟩
  · have hruns : Ends (Run.fromStore.regenerate "a.ts" none 0) (refusing, passedPair)
        (fun generated s => generated = false ∧
          s.2.tree.files.map (fun f => (f.status, f.text)) =
            [(.error, "1"), (.done, "import './a'")])
        (fun _ _ => False) := by
      decide +kernel
    have hfailed := (Run.fromStore.regenerate_failed hreached "a.ts" none 0 refusing).2
    refine (hruns.and hfailed).mono (fun generated s hs => ?_) (fun _ _ hs => hs.1)
    refine ⟨hs.1.1, ?_, hs.1.2⟩
    rw [(hs.2 hs.1.1).2, hplanned]
    rfl
  · have hruns : Ends (Run.fromStore.regenerate "a.ts" none 0) (withdrawing, passedPair)
        (fun _ _ => False)
        (fun stop s => stop = .failed .cancelled ∧ s.2.generatedFiles.keys = ["b.ts"]) := by
      decide +kernel
    have hcancelled := (Run.fromStore.regenerate_failed hreached "a.ts" none 0 withdrawing).2
    refine (hruns.and hcancelled).mono (fun _ _ hs => hs.1) (fun stop s hs => ⟨hs.1.1, ?_⟩)
    have htouched : s.2 ≠ passedPair := fun he => by
      have hkeys := hs.1.2
      rw [he] at hkeys
      exact absurd hkeys (by decide +kernel)
    rcases hs.2 _ hs.1.1 with ⟨⟨_, he⟩, -⟩ | ⟨he, -⟩ | ⟨-, hsame | hpending⟩
    · exact absurd he nofun
    · exact absurd he nofun
    · exact absurd (hplanned ▸ hsame) htouched
    · exact hplanned ▸ hpending

end Orchestrator

end Replatform
