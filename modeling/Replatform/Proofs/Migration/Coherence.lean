import Replatform.Proofs.Migration.Lasting
import Replatform.Proofs.Plan.Meaning
import Replatform.Proofs.Plan.Order
import Replatform.Proofs.Tree.Each
import Replatform.Proofs.Tree.Valid

/-!
# Runs Between Calls

The parts of a run belong together: the tree has the files that were planned, the matches and
the schedule are about these files, and nothing in the tree looks as if it was still being
generated. No phase leaves the parts like this all along. Each takes the tree out of the run
and puts it back, clears what belongs to another plan, and fills files one after another, and it
can come to nothing at any point of this.

`Run.InOrder` is what each phase upholds, whichever way it ends, unless it is dropped. A phase
that is dropped loses the tree while the targets stay, so nothing is claimed of it. What is shown
here is that the invariant survives each of the changes that phases make, of which one is that a
file comes to a result.

The invariant is about places and nodes. Somebody who only knows how to list, to look up and to
check sees a run that is `Coherent`.

## Main definitions

* `Tree.InOrder`: A tree has the targets for files, and nothing in it is being generated.
* `Run.InOrder`: The tree, the matches and the schedule of a run belong together.
* `Run.Coherent`: What can be seen of that.

## Theorems

* `Run.lasting_inOrder`: The invariant survives every change that a phase makes.
* `Run.Reached.inOrder`: Runs are in order between calls.
* `Run.coherent_of_reached`: What can be seen of a run between calls.
-/

namespace Replatform

variable {σ : Type}

/-- The nodes are in their places, the files are the targets, and nothing is being done for any. -/
structure Tree.InOrder (targets : List String) (tree : Tree) : Prop where
  rooted : Tree.Rooted "" tree
  files : tree.filePaths = targets
  settled : tree.Each IsSettled

namespace Tree.InOrder

variable {targets : List String} {tree : Tree} {f : FileNode → FileNode}

theorem modify (h : Tree.InOrder targets tree) (hf : Refills f)
    (hsettled : ∀ node, IsSettled node.status node.content →
      IsSettled (f node).status (f node).content) (path : String) :
    Tree.InOrder targets (Tree.modify path f tree) := by
  refine ⟨rooted_modify hf path h.rooted, ?_, each_modify hf hsettled path h.settled⟩
  rw [← h.files, filePaths, Tree.files, files_modify hf path h.rooted, List.map_map]
  exact List.map_congr_left fun node _ => (hf.changeAt path).path node

theorem setPending (h : Tree.InOrder targets tree) (path : String) :
    Tree.InOrder targets (Tree.setStatus path .pending tree) :=
  h.modify (refills_status .pending) (fun node _ => isSettled_pending node.content) path

theorem setContent (h : Tree.InOrder targets tree) (path content : String) :
    Tree.InOrder targets (Tree.setContent path content tree) :=
  h.modify (refills_content (some content)) (fun _ hnode => ⟨hnode.1, fun _ => rfl⟩) path

theorem build (paths : List String) :
    Tree.InOrder (Tree.build paths).filePaths (Tree.build paths) :=
  ⟨rooted_build paths, rfl, (each_build paths).mono fun _ _ => IsFresh.isSettled⟩

end Tree.InOrder

theorem Generation.isSettled_fill (result : Option String) (node : FileNode) :
    IsSettled (fill result node).status (fill result node).content := by
  cases result with
  | none => simp only [IsSettled, fill, ne_eq, reduceCtorEq, not_false_eq_true, false_implies, and_self]
  | some content => simp only [IsSettled, fill, ne_eq, reduceCtorEq, not_false_eq_true,
      Option.isSome_some, implies_true, and_self]

theorem Tree.InOrder.fill {targets : List String} {tree : Tree} (h : Tree.InOrder targets tree)
    (path : String) (result : Option String) :
    Tree.InOrder targets (Tree.modify path (Generation.fill result) tree) :=
  h.modify (Generation.refills_fill result) (fun node _ => Generation.isSettled_fill result node) path

/-- The tree, the matches and the schedule are about the same targets. -/
structure Run.InOrder (r : Run) : Prop where
  tree : Tree.InOrder r.targets r.tree
  matched : r.matched = ∅ ∨ Mapper.Covers r.matched r.targets
  schedule : r.schedule = {} ∨ r.schedule.order.Perm r.targets

namespace Run

theorem IsBlank.inOrder {r : Run} (h : r.IsBlank) : r.InOrder := by
  rcases h with ⟨htree, -, htargets, hmatched, hschedule⟩
  refine ⟨?_, Or.inl hmatched, Or.inl hschedule⟩
  rw [htree, htargets]
  exact ⟨Tree.rooted_nil "", rfl, Tree.each_nil⟩

theorem InOrder.clearFiles {r : Run} (h : r.InOrder) : r.clearFiles.InOrder where
  tree := by
    refine ⟨rooted_clearFiles h.tree.rooted, (filePaths_clearFiles r).trans h.tree.files, ?_⟩
    exact Tree.each_mapFiles refills_cleared (fun _ _ => isSettled_pending none) h.tree.settled
  matched := h.matched
  schedule := h.schedule

end Run

/-- The order of a plan is one of the targets if no target is listed twice. -/
theorem Orchestrator.order_withPlan_perm (o : Orchestrator σ) {r : Run} (h : r.targets.Nodup) :
    (o.withPlan r).schedule.order.Perm r.targets := by
  rcases Schedule.plan_parts r.targets (o.withPlan r).matched r.graph Schedule.defaultHorizon with
    ⟨-, -, hperm, -⟩
  refine hperm.trans ((List.perm_ext_iff_of_nodup (Priority.sort_nodup _) h).mpr fun t => ?_)
  rw [Priority.mem_sort, Names.mem_ofList]

/-- A plan is about the files of the tree, of which none is listed twice. -/
theorem Orchestrator.inOrder_withPlan (o : Orchestrator σ) {r : Run} (h : r.InOrder) :
    (o.withPlan r).InOrder where
  tree := h.tree
  matched := Or.inr (Mapper.covers_table _ _ _ _)
  schedule := Or.inr (o.order_withPlan_perm (h.tree.files ▸ Tree.filePaths_nodup h.tree.rooted))

namespace Run

/-- The parts of a run go on to belong together, whatever a phase does to it. A new tree has the new
    targets, whatever was there before, and there is no plan for it yet. -/
theorem lasting_inOrder : Run.Lasting Run.InOrder where
  others h htree htargets hmatched hschedule :=
    ⟨by rw [htree, htargets]; exact h.tree, by rw [hmatched, htargets]; exact h.matched,
      by rw [hschedule, htargets]; exact h.schedule⟩
  withScaffold _ planned := ⟨Tree.InOrder.build planned, Or.inl rfl, Or.inl rfl⟩
  withPlan h o := o.inOrder_withPlan h
  clearFiles h := h.clearFiles
  fill h path result := ⟨h.tree.fill path result, h.matched, h.schedule⟩
  setPending h path := ⟨h.tree.setPending path, h.matched, h.schedule⟩
  setContent h path content := ⟨h.tree.setContent path content, h.matched, h.schedule⟩

/-- In every run that calls lead to, of which none was dropped, the parts belong together. -/
theorem Reached.inOrder {history : List Turn} {r : Run} (h : Reached history r)
    (hdriven : ∀ turn ∈ history, turn.stop? ≠ some .dropped) : r.InOrder := by
  induction h with
  | new url => exact IsBlank.inOrder ⟨rfl, rfl, rfl, rfl, rfl⟩
  | @analyzed σ o url signal w w' r h =>
      have hends := o.ends_analyze url signal w
      unfold Ends at hends
      rw [h] at hends
      exact hends.1.inOrder
  | called o signal w call h ih =>
      rw [List.forall_mem_cons] at hdriven
      exact lasting_inOrder.after (ih hdriven.2) o signal w call hdriven.1

/-- What can be seen of a run whose parts belong together. -/
structure Coherent (r : Run) : Prop where
  /-- The files of the tree are the targets, in their order. -/
  files : r.tree.filePaths = r.targets
  valid : r.tree.IsValid
  /-- There is no plan, or every target has a match and nothing else has one. -/
  matched : r.matched = ∅ ∨
    (∀ t, t ∈ r.matched.keys ↔ t ∈ r.targets) ∧
      ∀ t m, r.matched.get? t = some m → m.IsConsistent
  schedule : r.schedule = {} ∨ r.schedule.order.Perm r.targets
  idle : ∀ entry ∈ r.tree.outline, entry.2.status ≠ .inProgress
  filled : ∀ file ∈ r.tree.files, file.status = .done → file.content.isSome = true

/-- A run is coherent after any calls, however they ended, if none of them was dropped. -/
theorem coherent_of_reached {history : List Turn} {r : Run} (h : Reached history r)
    (hdriven : ∀ turn ∈ history, turn.stop? ≠ some .dropped) : r.Coherent := by
  have horder := h.inOrder hdriven
  exact
    { files := horder.tree.files
      valid := horder.tree.rooted.isValid
      matched := horder.matched
      schedule := horder.schedule
      idle := fun entry hentry => (horder.tree.settled entry hentry).1
      filled := fun file hfile => (horder.tree.settled.of_mem_files hfile).2 }

/-- A run is coherent after the generation of a file was cancelled, although that left one file to be
    generated and a verdict on it. -/
theorem coherent_of_reached_cancelled :
    let reached := afterCalls fromStore 0 ""
      ((.regenerate "a.ts" none, { state := [⟨[.cancel 0, .wait 1], .ok (.ofText "2")⟩] }) ::
        passedCalls)
    reached.1.map Turn.stop? = [some (.failed .cancelled), none, none, none] ∧
      reached.2.targets = ["a.ts", "b.ts"] ∧ reached.2.Coherent := by
  refine ⟨by decide +kernel, by decide +kernel, ?_⟩
  refine coherent_of_reached (reached_afterCalls _ _ _ _) ?_
  decide +kernel

end Run

end Replatform
