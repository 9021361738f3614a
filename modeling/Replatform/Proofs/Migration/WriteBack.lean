import Replatform.Migration.Orchestrator
import Replatform.Proofs.Tree.Refill
import Replatform.Proofs.Verification.Verdict

/-!
# Corrected Files in Their Places

What a verification does to the run. The project is taken out of the tree as a table of the
files that are finished, is corrected there, and what was corrected is put back file by file.
Each step looks for a path, and where it finds a file it changes that file and nothing else. So
all steps together are one change of the files of the tree, `FileNode.takeFrom`, and the tree
that was there before says everything about the tree that is there afterwards.

That all corrected files are found is what the tree has to see to. A rooted tree does, and so does
every tree that passes the check and in which the search finds the files. Since the corrected
files are files of the project, the table that can be taken out afterwards is then the one that
the verification came to.

This is where the verdict and the tree meet: `ends_verify` says that a project that passed is
in the tree as it passed.

## Main definitions

* `FileNode.takeFrom`: A file with its content taken from a table.
* `Verification.Outcome.rewrite`: What a verification makes of a file.

## Theorems

* `ends_writeBack`: Files that are put in their places.
* `Verification.ends_run_fixed`: Which files a verification corrects.
* `generatedFiles_eq_of_takeFrom`: The table after files were put in their places.
* `Orchestrator.ends_verify_writes`: What a verification does to the run.
* `Orchestrator.ends_verify`: What a verification leaves.
-/

namespace Replatform

variable {σ : Type}

namespace FileNode

/-- A file whose content is taken from a table if its path is one of some paths. -/
def takeFrom (files : ProjectFiles) (paths : List String) (node : FileNode) : FileNode :=
  if node.path ∈ paths then { node with content := files.get? node.path } else node

variable (files : ProjectFiles)

theorem refills_takeFrom (paths : List String) : Refills (takeFrom files paths) := by
  intro node
  unfold takeFrom
  split_ifs <;> exact ⟨rfl, rfl, rfl, rfl⟩

theorem status_takeFrom (paths : List String) (node : FileNode) :
    (takeFrom files paths node).status = node.status := by
  unfold takeFrom
  split_ifs <;> rfl

theorem takeFrom_nil : takeFrom files [] = id := by
  funext node
  exact if_neg List.not_mem_nil

/-- To take what one path has and then what others have is to take what all have. -/
theorem takeFrom_cons (path : String) (paths : List String) :
    takeFrom files (path :: paths) = takeFrom files paths ∘
      Tree.changeAt path fun node => { node with content := files.get? path } := by
  funext node
  rw [Function.comp_apply, Tree.changeAt]
  by_cases hpath : node.path = path
  · have hmem : node.path ∈ path :: paths := hpath ▸ List.mem_cons_self
    rw [takeFrom, if_pos hmem, if_pos hpath, takeFrom]
    -- A path that comes again is given the same content again.
    split_ifs <;> rw [hpath]
  · simp only [takeFrom, List.mem_cons, hpath, false_or, if_false]

end FileNode

namespace Verification

/-- What a verification makes of a file of the tree. -/
def Outcome.rewrite (out : Outcome) : FileNode → FileNode :=
  FileNode.takeFrom out.files out.fixed.toList

/-- A verification corrects files of the project, and the others are in the end as they were. -/
theorem ends_run_fixed (s : Service σ) (c : Config) (signal : SignalId) (files : ProjectFiles)
    (w : World σ) :
    Ends (run s c signal files) w
      (fun out _ => out.files.keys = files.keys ∧ (∀ path ∈ out.fixed, path ∈ files.keys) ∧
        (∀ path, path ∉ out.fixed → out.files.get? path = files.get? path) ∧
        (out.verdict.passed = true → staticCheck out.files = []))
      (fun _ _ => True) := by
  refine (ends_run_passes s c signal files w).mono ?_ (fun _ _ _ => trivial)
  rintro out w' ⟨passes, last, w₁, -, -, hpasses, -, hsums⟩
  refine ⟨hsums.keys, fun path hpath => ?_, hsums.unchanged, fun h => (hsums.passed.mp h).1⟩
  rcases (hsums.fixed path).mp hpath with ⟨p, hp, hin⟩
  exact hpasses.mem_keys_of_mem_fixed hp hin

end Verification

namespace Run

/-- The paths of the finished files are paths of the tree. -/
theorem mem_filePaths_of_mem_keys {r : Run} {path : String} (h : path ∈ r.generatedFiles.keys) :
    path ∈ r.tree.filePaths := by
  rw [generatedFiles, Table.mem_keys_ofList, List.map_map] at h
  rcases List.mem_map.mp h with ⟨file, hfile, rfl⟩
  exact List.mem_map_of_mem (List.mem_filter.mp hfile).1

/-- The table of the finished files after some were put in their places. -/
theorem generatedFiles_eq_of_takeFrom {r r' : Run} {files : ProjectFiles} {paths : List String}
    (htree : r'.tree = r.tree.mapFiles (FileNode.takeFrom files paths))
    (hkeys : files.keys = r.generatedFiles.keys)
    (hothers : ∀ path, path ∉ paths → files.get? path = r.generatedFiles.get? path) :
    r'.generatedFiles = files := by
  let refilled : String → String → String := fun path old =>
    if path ∈ paths then (files.get? path).getD "" else old
  have hentry : ∀ node : FileNode,
      ((node.takeFrom files paths).path, (node.takeFrom files paths).text) =
        (node.path, refilled node.path node.text) := by
    intro node
    simp only [FileNode.takeFrom, refilled]
    split_ifs <;> rfl
  have hmap : r'.generatedFiles = r.generatedFiles.map refilled := by
    rw [generatedFiles, generatedFiles, ← Table.ofList_map, htree, Tree.files,
      Tree.files_mapFiles (FileNode.refills_takeFrom files paths), List.filter_map, List.map_map,
      List.map_map]
    simp only [Function.comp_def, FileNode.status_takeFrom, hentry]
    rfl
  rw [hmap]
  refine Table.ext_get? fun path => ?_
  rw [Table.get?_map]
  by_cases hpath : path ∈ paths
  · -- No file comes or goes, so the path is in both tables or in neither.
    have hkey : (∃ old, r.generatedFiles.get? path = some old) ↔
        ∃ new, files.get? path = some new := by
      rw [← Table.mem_keys_iff, ← Table.mem_keys_iff, hkeys]
    simp only [refilled, hpath, if_true]
    cases hold : r.generatedFiles.get? path with
    | some old =>
        rcases hkey.mp ⟨old, hold⟩ with ⟨new, hnew⟩
        rw [hnew, Option.map_some, Option.getD_some]
    | none =>
        cases hnew : files.get? path with
        | none => rfl
        | some new =>
            rcases hkey.mpr ⟨new, hnew⟩ with ⟨old, hold'⟩
            exact absurd (hold.symm.trans hold') (Option.some_ne_none _).symm
  · rw [hothers path hpath]
    simp only [refilled, hpath, if_false]
    exact Option.map_id'

end Run

namespace Orchestrator

/-- Files are put in their places one by one, which is one change of the tree. -/
theorem ends_writeBack (files : ProjectFiles) (paths : List String) (w : World σ) (r : Run)
    {tree : Tree} {g : FileNode → FileNode} (hg : Refills g) (h : tree.IsScaffold)
    (htree : r.tree = tree.mapFiles g) (hpaths : ∀ path ∈ paths, path ∈ tree.filePaths)
    (hfiles : ∀ path ∈ paths, path ∈ files.keys) :
    Ends (writeBack files paths) (w, r)
      (fun _ s => s.2 = { r with tree := tree.mapFiles (FileNode.takeFrom files paths ∘ g) })
      (fun _ _ => False) := by
  induction paths generalizing w r g with
  | nil =>
      rw [FileNode.takeFrom_nil, Function.id_comp, ← htree]
      exact rfl
  | cons path paths ih =>
      rw [List.forall_mem_cons] at hpaths hfiles
      rcases (Tree.mem_filePaths_iff path tree).mp hpaths.1 with ⟨file, hfile, rfl⟩
      rcases (Table.mem_keys_iff files file.path).mp hfiles.1 with ⟨content, hcontent⟩
      have hfound := h.found file hfile
      have hleaves := h.valid.filesAreLeaves
      have hfind : Tree.find? file.path r.tree = some (FileNode.mapFiles g file) := by
        rw [htree, Tree.find?_mapFiles hg hleaves, hfound, Option.map_some]
      have hstep : r.tree.setContent file.path content = tree.mapFiles
          (Tree.changeAt file.path (fun node => { node with content := files.get? file.path }) ∘ g) := by
        rw [htree, Tree.setContent, hcontent]
        exact Tree.modify_mapFiles _ hg h.valid.distinct hleaves hfound
          (Tree.kind_of_mem_filesAmong hfile)
      rw [writeBack, ends_bind, WorkOn.ends_held]
      rw [hfind, hcontent]
      rw [ends_bind, WorkOn.ends_change, ends_bind]
      have hrest := ih (w.tell (.fileContent file.path content false))
        { r with tree := r.tree.setContent file.path content }
        (((refills_content (files.get? file.path)).changeAt file.path).comp hg) hstep hpaths.2 hfiles.2
      rw [FileNode.takeFrom_cons, Function.comp_assoc]
      exact hrest

variable (o : Orchestrator σ)

/-- A verification that comes to a verdict leaves it in the run, and in the tree what it made of the
    corrected files. One that does not leaves the run as it was. -/
theorem ends_verify_writes (signal : SignalId) (w : World σ) {r : Run} (h : r.tree.IsScaffold) :
    Ends (o.verify signal) (w, r)
      (fun v s => ∃ (out : Verification.Outcome) (w' : World σ),
        Verification.run o.service o.config signal r.generatedFiles w = .ok out w' ∧
        v = out.verdict ∧
        s.2 = ({ r with tree := r.tree.mapFiles out.rewrite, verification := some v }).record .verify
          w.now s.1.now)
      (fun _ s => s.2 = r) := by
  rw [verify, ends_bind, WorkOn.ends_held]
  by_cases hempty : r.generatedFiles.isEmpty = true
  · rw [if_pos hempty]
    exact rfl
  · rw [if_neg hempty, ends_bind, WorkOn.ends_ofWork]
    change Ends _ (w, r) _ _
    rw [ends_bind, WorkOn.ends_ofWork]
    refine ((Verification.ends_run_fixed o.service o.config signal r.generatedFiles w).and
      (Ends.self _ w)).mono ?_ (fun _ _ _ => rfl)
    rintro out w' ⟨⟨hkeys, hfixed, -, -⟩, hrun⟩
    have hfiles : ∀ path ∈ out.fixed.toList, path ∈ r.generatedFiles.keys := hfixed
    rw [ends_bind]
    refine (ends_writeBack out.files out.fixed.toList w' r (g := id) (fun _ => ⟨rfl, rfl, rfl, rfl⟩) h
      (Tree.mapFiles_id r.tree).symm (fun path hpath => Run.mem_filePaths_of_mem_keys (hfiles path hpath))
      (fun path hpath => hkeys ▸ hfiles path hpath)).mono ?_ (fun _ _ hf => hf.elim)
    rintro - ⟨w₂, r₂⟩ hback
    rw [ends_bind, WorkOn.ends_ofWork]
    refine ⟨out, w', hrun, rfl, ?_⟩
    change ({ r₂ with verification := some out.verdict } : Run).record .verify w.now w₂.now = _
    change r₂ = _ at hback
    rw [hback]
    rfl

/-- A verification that comes to a verdict leaves it in the run, next to the project as it was
    judged. One that does not leaves the run as it was. -/
theorem ends_verify (signal : SignalId) (w : World σ) {r : Run} (h : Tree.Rooted "" r.tree) :
    Ends (o.verify signal) (w, r)
      (fun v s => s.2.verification = some v ∧ Tree.Rooted "" s.2.tree ∧
        (v.passed = true → staticCheck s.2.generatedFiles = []))
      (fun _ s => s.2 = r) := by
  refine (o.ends_verify_writes signal w h.isScaffold).mono ?_ (fun _ _ hs => hs)
  rintro v s ⟨out, w', hrun, rfl, hs⟩
  rcases (Verification.ends_run_fixed o.service o.config signal r.generatedFiles w).of_ok hrun with
    ⟨hkeys, -, hothers, hpassed⟩
  have hrooted : Tree.Rooted "" (r.tree.mapFiles out.rewrite) :=
    Tree.rooted_mapFiles (FileNode.refills_takeFrom _ _) h
  have htree : s.2.tree = r.tree.mapFiles out.rewrite := by
    rw [hs]
    rfl
  have hverification : s.2.verification = some out.verdict := by
    rw [hs]
    rfl
  refine ⟨hverification, htree ▸ hrooted, fun hv => ?_⟩
  rw [Run.generatedFiles_eq_of_takeFrom htree hkeys hothers]
  exact hpassed hv

end Orchestrator

end Replatform
