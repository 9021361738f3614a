import Replatform.Proofs.Migration.History

/-!
# What a Verification Merges

A verification works on a copy of the finished files, for several passes, and what comes of it
reaches the tree only when all of them are done. Two things could go wrong on the way back. A
correction could be lost or land in another node, and a verification that is cancelled after some
passes could leave the corrections that it has made.

`Run.Merges` says that nothing of the kind happens: The finished files in the tree are those that
the last pass left, and everything else about the tree is as it was. That a verification which
comes to nothing leaves the whole run alone needs no argument of its own, because there is nothing
in the run to take back.

What is asked of the tree is that its files are found under their paths. Calls on a run lead to no
other tree, so this holds of every run that came about by them.

## Main definitions

* `Run.Merges`: A run has taken over what a verification came to.

## Theorems

* `Run.Reached.isScaffold`: The tree of a run that calls lead to has all its files found.
* `Orchestrator.verify_merges`: What a verification does to a run with such a tree.
-/

namespace Replatform

variable {σ : Type}

namespace Run

/-- A run has taken over what a verification came to, and nothing else. -/
structure Merges (out : Verification.Outcome) (r r' : Run) : Prop where
  /-- The finished files are those that the last pass left. -/
  files : r'.generatedFiles = out.files
  /-- No file is added to them and none is lost. -/
  keys : r'.generatedFiles.keys = r.generatedFiles.keys
  /-- The nodes of the tree and their statuses are as they were. -/
  nodes : (r'.tree.nodes.map fun n => (n.path, n.kind, n.status)) =
    r.tree.nodes.map fun n => (n.path, n.kind, n.status)
  /-- So are the contents of all nodes that were not corrected. -/
  others : (r'.tree.nodes.map fun n => if n.path ∈ out.fixed then none else n.content) =
    r.tree.nodes.map fun n => if n.path ∈ out.fixed then none else n.content
  /-- The tree is the old one with other contents in the corrected files. -/
  tree : r'.tree = r.tree.mapFiles out.rewrite
  /-- Beside the tree only the verdict and the times are new. -/
  rest : r' = { r with tree := r'.tree, verification := r'.verification, timings := r'.timings }

/-- The tree of a run that calls lead to has all its files found. -/
theorem Reached.isScaffold {history : List Turn} {r : Run} (h : Reached history r) :
    r.tree.IsScaffold :=
  h.sound.1.isScaffold

/-- A run whose tree has other contents in the corrected files has taken over the corrections. -/
theorem merges_of_tree {out : Verification.Outcome} {r r' : Run} (h : r.tree.IsScaffold)
    (hkeys : out.files.keys = r.generatedFiles.keys)
    (hothers : ∀ path, path ∉ out.fixed → out.files.get? path = r.generatedFiles.get? path)
    (htree : r'.tree = r.tree.mapFiles out.rewrite)
    (hrest : r' = { r with tree := r'.tree, verification := r'.verification, timings := r'.timings }) :
    Merges out r r' := by
  have hrefills : Refills out.rewrite := FileNode.refills_takeFrom _ _
  have hfiles : r'.generatedFiles = out.files := generatedFiles_eq_of_takeFrom htree hkeys hothers
  have hnodes : r'.tree.nodes = r.tree.nodes.map (FileNode.mapFiles out.rewrite) := by
    rw [htree, Tree.nodes_mapFiles hrefills h.valid.filesAreLeaves]
  -- Of a directory only the children change, and of a file only what it was corrected to.
  have hsame : ∀ n : FileNode, (n.mapFiles out.rewrite).path = n.path ∧
      (n.mapFiles out.rewrite).kind = n.kind ∧ (n.mapFiles out.rewrite).status = n.status ∧
      (n.path ∉ out.fixed → (n.mapFiles out.rewrite).content = n.content) := by
    intro n
    rw [FileNode.mapFiles_eq]
    by_cases hkind : n.kind = .file
    · rw [if_pos hkind]
      refine ⟨hrefills.path n, hrefills.kind n, FileNode.status_takeFrom _ _ n, fun hnot => ?_⟩
      exact congrArg FileNode.content (if_neg hnot)
    · rw [if_neg hkind]
      exact ⟨rfl, rfl, rfl, fun _ => rfl⟩
  refine ⟨hfiles, hfiles ▸ hkeys, ?_, ?_, htree, hrest⟩
  · rw [hnodes, List.map_map]
    refine List.map_congr_left fun n _ => ?_
    rcases hsame n with ⟨hpath, hkind, hstatus, -⟩
    rw [Function.comp_apply, hpath, hkind, hstatus]
  · rw [hnodes, List.map_map]
    refine List.map_congr_left fun n _ => ?_
    rcases hsame n with ⟨hpath, -, -, hcontent⟩
    rw [Function.comp_apply, hpath]
    by_cases hfixed : n.path ∈ out.fixed
    · rw [if_pos hfixed, if_pos hfixed]
    · rw [if_neg hfixed, if_neg hfixed, hcontent hfixed]

end Run

namespace Orchestrator

variable (o : Orchestrator σ)

/-- A verification of a run whose files are found merges what it came to, with the verdict, and
    notes how long it took. One that comes to nothing leaves the run as it was, whatever its passes
    have corrected. -/
theorem verify_merges (signal : SignalId) (w : World σ) (r : Run) (h : r.tree.IsScaffold) :
    Ends (o.verify signal) (w, r)
      (fun v s => ∃ (out : Verification.Outcome) (w' : World σ),
        Verification.run o.service o.config signal r.generatedFiles w = .ok out w' ∧
        v = out.verdict ∧ Run.Merges out r s.2 ∧ s.2.verification = some v ∧
        s.2.timings = (r.record .verify w.now s.1.now).timings)
      (fun _ s => s.2 = r) := by
  refine (o.ends_verify_writes signal w h).mono ?_ (fun _ _ hs => hs)
  rintro v s ⟨out, w', hrun, rfl, hs⟩
  rcases (Verification.ends_run_fixed o.service o.config signal r.generatedFiles w).of_ok hrun with
    ⟨hkeys, -, hothers, -⟩
  refine ⟨out, w', hrun, rfl, Run.merges_of_tree h hkeys hothers ?_ ?_, ?_, ?_⟩
  all_goals rw [hs]; rfl

-- The run and the world are irreducible so that nothing is run while the statements about them are
-- read.

/-- A project of two files that were generated. -/
@[irreducible] def generatedPair : Run :=
  (Run.afterCalls Run.fromStore 0 "" Run.passedCalls.tail).2

/-- A review that corrects one of them. -/
@[irreducible] def correctsFirst : World (List (Reply ServiceError Response)) :=
  { state := [⟨[], .ok (.ofText "\x7b\"fixes\": \x7b\"a.ts\": \"3\"\x7d\x7d")⟩] }

/-- The correction is in the tree after the verification, and the other file is as it was. -/
theorem verify_merges_correction :
    generatedPair.tree.IsScaffold ∧
      Ends (Run.fromStore.verify 0) (correctsFirst, generatedPair)
        (fun _ s => generatedPair.generatedFiles.entries = [("a.ts", "1"), ("b.ts", "import './a'")] ∧
          s.2.generatedFiles.entries = [("a.ts", "3"), ("b.ts", "import './a'")] ∧
          ∃ out, Run.Merges out generatedPair s.2)
        (fun _ _ => False) := by
  have h : generatedPair.tree.IsScaffold := by
    rw [generatedPair]
    exact (Run.reached_afterCalls Run.fromStore 0 "" Run.passedCalls.tail).isScaffold
  have hruns : Ends (Run.fromStore.verify 0) (correctsFirst, generatedPair)
      (fun _ s => generatedPair.generatedFiles.entries = [("a.ts", "1"), ("b.ts", "import './a'")] ∧
        s.2.generatedFiles.entries = [("a.ts", "3"), ("b.ts", "import './a'")])
      (fun _ _ => False) := by
    decide +kernel
  have hmerges := verify_merges Run.fromStore 0 correctsFirst generatedPair h
  refine ⟨h, (hruns.and hmerges).mono ?_ (fun _ _ hf => hf.1)⟩
  rintro v s ⟨⟨hbefore, hafter⟩, out, w', -, -, hout, -⟩
  exact ⟨hbefore, hafter, out, hout⟩

end Orchestrator

end Replatform
