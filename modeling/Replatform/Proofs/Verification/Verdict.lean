import Mathlib.Algebra.GroupWithZero.Nat
import Replatform.Proofs.Verification.Passes

/-!
# What a Verdict Says

The verdict of a verification, read off its passes. The passes hand on what is known in six
parts, and each part is a plain function of the list of passes: the issues are strung
together, the corrected files are united, their numbers are added up, and the last review and
the files that it corrected are those of the last pass.

`Outcome.Sums` collects what follows for an outcome, and `ends_run_sums` says that every
verification that is not cut short has such an outcome, after as many passes as were asked
for.

## Main definitions

* `Outcome.Sums`: An outcome sums up some passes.

## Theorems

* `foldl_extend_issues`, `mem_foldl_extend_fixed`, `foldl_extend_fixesApplied`,
  `foldl_extend_concat`: What is known after some passes.
* `Passes.keys_eq`, `Passes.get?_eq`: What passes leave alone.
* `Passes.mem_keys_of_mem_fixed`: Only files of the project are corrected.
* `Passes.requests`: What passes send.
* `Findings.mem_unresolved_iff`: What stands against a pass.
* `Passes.sums`: The verdict on passes sums them up.
* `ends_run_passes`, `ends_run_sums`: What a verification comes to.
-/

namespace Replatform

namespace Verification

variable {σ : Type}

theorem foldl_extend_issues (passes : List Pass) (f : Findings) :
    (passes.foldl Findings.extend f).issues =
      f.issues ++ passes.flatMap fun p => p.found ++ p.review.issues := by
  induction passes generalizing f with
  | nil => rw [List.foldl_nil, List.flatMap_nil, List.append_nil]
  | cons p passes ih =>
      rw [List.foldl_cons, ih, Findings.extend, List.flatMap_cons, List.append_assoc,
        List.append_assoc, List.append_assoc]

theorem mem_foldl_extend_fixed (passes : List Pass) (f : Findings) (path : String) :
    path ∈ (passes.foldl Findings.extend f).fixed ↔
      path ∈ f.fixed ∨ ∃ p ∈ passes, path ∈ p.fixed := by
  induction passes generalizing f with
  | nil => simp only [List.foldl_nil, List.not_mem_nil, false_and, exists_false, or_false]
  | cons p passes ih =>
      rw [List.foldl_cons, ih, Findings.extend, Names.mem_union, or_assoc]
      simp only [List.mem_cons, exists_eq_or_imp]

theorem foldl_extend_fixesApplied (passes : List Pass) (f : Findings) :
    (passes.foldl Findings.extend f).fixesApplied =
      f.fixesApplied + (passes.map fun p => p.fixed.size).sum := by
  induction passes generalizing f with
  | nil => rfl
  | cons p passes ih =>
      rw [List.foldl_cons, ih, List.map_cons, List.sum_cons, ← Nat.add_assoc]
      rfl

/-- What is known of the project and of the last review is what the last pass left. -/
theorem foldl_extend_concat (passes : List Pass) (last : Pass) (f : Findings) :
    ((passes ++ [last]).foldl Findings.extend f).files = last.after ∧
      ((passes ++ [last]).foldl Findings.extend f).lastIssues = last.review.issues ∧
      ((passes ++ [last]).foldl Findings.extend f).lastFixed = last.fixed := by
  rw [List.foldl_append, List.foldl_cons, List.foldl_nil]
  exact ⟨rfl, rfl, rfl⟩

section Passes

variable {s : Service σ} {c : Config} {signal : SignalId} {total n : Nat}
  {files files' : ProjectFiles} {w w' : World σ} {passes : List Pass}

theorem Passes.keys_eq (h : Passes s c signal total n files w passes files' w') :
    files'.keys = files.keys := by
  induction h with
  | none => rfl
  | more asks rest ih => exact ih.trans (Pass.keys_after _)

/-- Only files of the project are corrected. -/
theorem Passes.mem_keys_of_mem_fixed (h : Passes s c signal total n files w passes files' w')
    {p : Pass} (hp : p ∈ passes) {path : String} (hpath : path ∈ p.fixed) : path ∈ files.keys := by
  induction h with
  | none => exact absurd hp List.not_mem_nil
  | @more first _ _ _ _ _ asks rest ih =>
      rcases List.mem_cons.mp hp with rfl | hp
      · exact (Table.contains_iff _ path).mp ((p.mem_fixed path).mp hpath).2
      · exact first.keys_after ▸ ih hp

/-- A file that no pass corrects keeps its content. -/
theorem Passes.get?_eq (h : Passes s c signal total n files w passes files' w') (path : String)
    (hnot : ∀ p ∈ passes, path ∉ p.fixed) : files'.get? path = files.get? path := by
  induction h with
  | none => rfl
  | more asks rest ih =>
      rw [List.forall_mem_cons] at hnot
      rw [ih hnot.2, Pass.get?_after_of_not_mem _ hnot.1]

/-- The passes are numbered one after another. -/
theorem Passes.numbers (h : Passes s c signal total n files w passes files' w') :
    passes.map Pass.number = List.range' n passes.length := by
  induction h with
  | none => rfl
  | more asks rest ih => rw [List.map_cons, ih, List.length_cons, List.range'_succ]

/-- Each pass sends its request, at least once and no more often than the policy allows, and
    nothing else is sent. -/
theorem Passes.requests (h : Passes s c signal total n files w passes files' w') :
    ∃ tries : List Nat, tries.length = passes.length ∧
      (∀ t ∈ tries, 1 ≤ t ∧ t ≤ c.retry.maxRetries + 1) ∧
      w'.requests = w.requests ++
        (passes.zip tries).flatMap fun e => List.replicate e.2 (e.1.request c total) := by
  induction h with
  | none => exact ⟨[], rfl, fun t ht => absurd ht List.not_mem_nil, (List.append_nil _).symm⟩
  | more asks rest ih =>
      rcases asks with ⟨announced, asked, kept, once, often, sent, reported⟩
      rcases ih with ⟨tries, hlen, hbounds, hreq⟩
      refine ⟨_ :: tries, by rw [List.length_cons, List.length_cons, hlen],
        List.forall_mem_cons.mpr ⟨⟨once, often⟩, hbounds⟩, ?_⟩
      rw [hreq, reported.requests, sent, announced.requests, List.zip_cons_cons, List.flatMap_cons,
        List.append_assoc]

end Passes

namespace Findings

variable (f : Findings)

theorem isOpen_iff (issue : String) :
    f.isOpen issue = true ↔ ∀ path ∈ f.lastFixed, Text.contains issue path = false := by
  rw [isOpen, Bool.not_eq_true', List.any_eq_false]
  simp only [Bool.not_eq_true]
  exact Iff.rfl

theorem isOpen_eq_false_iff (issue : String) :
    f.isOpen issue = false ↔ ∃ path ∈ f.lastFixed, Text.contains issue path = true := by
  rw [isOpen, Bool.not_eq_false', List.any_eq_true]
  exact Iff.rfl

/-- What stands against a pass: what the static check finds in the end, and the issues of the last
    review that name no file that it corrected. -/
theorem mem_unresolved_iff (issue : String) :
    issue ∈ f.unresolved ↔ issue ∈ staticCheck f.files ∨
      issue ∈ f.lastIssues ∧ ∀ path ∈ f.lastFixed, Text.contains issue path = false := by
  rw [unresolved, List.mem_eraseDups, List.mem_append, List.mem_filter, isOpen_iff]

theorem unresolved_eq_nil_iff :
    f.unresolved = [] ↔ staticCheck f.files = [] ∧
      ∀ issue ∈ f.lastIssues, ∃ path ∈ f.lastFixed, Text.contains issue path = true := by
  simp only [List.eq_nil_iff_forall_not_mem, mem_unresolved_iff, not_or, not_and, forall_and]
  refine and_congr_right fun _ => forall_congr' fun issue => imp_congr_right fun _ => ?_
  rw [← isOpen_iff, Bool.not_eq_true, isOpen_eq_false_iff]

end Findings

/-- An outcome sums up some passes over a project, of which `last` was the last one. -/
structure Outcome.Sums (out : Outcome) (files : ProjectFiles) (passes : List Pass) (last : Pass) :
    Prop where
  /-- No file comes or goes. -/
  keys : out.files.keys = files.keys
  /-- Only corrected files change. -/
  unchanged : ∀ path, path ∉ out.fixed → out.files.get? path = files.get? path
  fixed : ∀ path, path ∈ out.fixed ↔ ∃ p ∈ passes, path ∈ p.fixed
  /-- The project passed if nothing is found in the end, and if every issue of the last pass
      contains the path of a file that this pass corrected. -/
  passed : out.verdict.passed = true ↔ staticCheck out.files = [] ∧
    ∀ issue ∈ last.review.issues, ∃ path ∈ last.fixed, Text.contains issue path = true
  /-- The issues are those of all passes and those that are found in the end. -/
  issues : ∀ issue, issue ∈ out.verdict.issues ↔
    (∃ p ∈ passes, issue ∈ p.found ∨ issue ∈ p.review.issues) ∨ issue ∈ staticCheck out.files
  /-- What stands is what is found in the end, and the issues of the last pass that contain no path
      of a file that this pass corrected. -/
  unresolved : ∀ issue, issue ∈ out.verdict.unresolved ↔ issue ∈ staticCheck out.files ∨
    issue ∈ last.review.issues ∧ ∀ path ∈ last.fixed, Text.contains issue path = false
  passed_iff_unresolved : out.verdict.passed = true ↔ out.verdict.unresolved = []
  issues_nodup : out.verdict.issues.Nodup
  unresolved_nodup : out.verdict.unresolved.Nodup
  unresolved_subset : out.verdict.unresolved ⊆ out.verdict.issues
  /-- Files are counted once in each pass. -/
  fixesApplied : out.verdict.fixesApplied = (passes.map fun p => p.fixed.size).sum
  count : out.verdict.passes = passes.length

/-- The verdict on passes sums them up. -/
theorem Passes.sums {s : Service σ} {c : Config} {signal : SignalId} {total n : Nat}
    {files : ProjectFiles} {w w' : World σ} {passes : List Pass} {last : Pass} {f : Findings}
    (h : Passes s c signal total n files w passes f.files w')
    (hf : f = passes.foldl Findings.extend { files }) (hend : passes.getLast? = some last) :
    Outcome.Sums ⟨f.verdict passes.length, f.files, f.fixed⟩ files passes last := by
  have hfixed : ∀ path, path ∈ f.fixed ↔ ∃ p ∈ passes, path ∈ p.fixed := by
    intro path
    rw [hf, mem_foldl_extend_fixed]
    exact ⟨fun h => h.resolve_left Names.not_mem_empty, Or.inr⟩
  have hissues : ∀ issue, issue ∈ (f.verdict passes.length).issues ↔
      (∃ p ∈ passes, issue ∈ p.found ∨ issue ∈ p.review.issues) ∨
        issue ∈ staticCheck f.files := by
    intro issue
    have hall : f.issues = passes.flatMap fun p => p.found ++ p.review.issues := by
      rw [hf, foldl_extend_issues, List.nil_append]
    rw [Findings.verdict, List.mem_eraseDups, List.mem_append, hall, List.mem_flatMap]
    simp only [List.mem_append]
  have hlast : f.lastIssues = last.review.issues ∧ f.lastFixed = last.fixed := by
    rcases List.getLast?_eq_some_iff.mp hend with ⟨init, rfl⟩
    rw [hf]
    exact (foldl_extend_concat init last { files }).2
  refine ⟨h.keys_eq, fun path hpath => ?_, hfixed, ?_, hissues, fun issue => ?_, List.isEmpty_iff,
    nodup_eraseDups _, nodup_eraseDups _, fun issue hmem => ?_, ?_, rfl⟩
  · refine h.get?_eq path fun p hp hin => hpath ?_
    exact (hfixed path).mpr ⟨p, hp, hin⟩
  · rw [← hlast.1, ← hlast.2, ← f.unresolved_eq_nil_iff]
    exact List.isEmpty_iff
  · rw [← hlast.1, ← hlast.2]
    exact f.mem_unresolved_iff issue
  · rw [hissues]
    rcases (f.mem_unresolved_iff issue).mp hmem with hs | ⟨hi, -⟩
    · exact Or.inr hs
    · refine Or.inl ⟨last, List.mem_of_getLast? hend, Or.inr ?_⟩
      rw [← hlast.1]
      exact hi
  · change f.fixesApplied = _
    rw [hf, foldl_extend_fixesApplied, Nat.zero_add]

/-- A verification that is not cut short has gone through its passes, and its outcome sums them
    up. -/
theorem ends_run_passes (s : Service σ) (c : Config) (signal : SignalId) (files : ProjectFiles)
    (w : World σ) :
    Ends (run s c signal files) w
      (fun out w' => ∃ (passes : List Pass) (last : Pass) (w₁ : World σ),
        passes.length = max c.verificationPasses 1 ∧
        passes.getLast? = some last ∧
        Passes s c signal passes.length 1 files w passes out.files w₁ ∧
        World.Told w₁ w' ∧
        out.Sums files passes last)
      (CutShort s signal) := by
  refine (ends_run s c signal files w).mono ?_ (fun _ _ h => h)
  rintro out w' ⟨passes, f, w₁, hlen, hpasses, htold, hf, rfl⟩
  have hne : passes ≠ [] := by
    rw [← List.length_pos_iff]
    omega
  have hlast := List.getLast?_eq_some_getLast hne
  exact ⟨passes, _, w₁, hlen, hlast, hpasses, htold, hpasses.sums hf hlast⟩

/-- A verification that is not cut short goes through as many passes as were asked for, but at least
    one. Each asks the service at least once and no more often than the policy allows, and nothing
    else is sent. Its outcome sums up these passes. -/
theorem ends_run_sums (s : Service σ) (c : Config) (signal : SignalId) (files : ProjectFiles)
    (w : World σ) :
    Ends (run s c signal files) w
      (fun out w' => ∃ (passes : List Pass) (last : Pass) (w₁ : World σ) (tries : List Nat),
        passes.length = max c.verificationPasses 1 ∧
        passes.map Pass.number = List.range' 1 passes.length ∧
        passes.getLast? = some last ∧
        Passes s c signal passes.length 1 files w passes out.files w₁ ∧
        World.Told w₁ w' ∧
        tries.length = passes.length ∧
        (∀ t ∈ tries, 1 ≤ t ∧ t ≤ c.retry.maxRetries + 1) ∧
        w'.requests = w.requests ++
          (passes.zip tries).flatMap (fun e => List.replicate e.2 (e.1.request c passes.length)) ∧
        out.Sums files passes last)
      (CutShort s signal) := by
  refine (ends_run_passes s c signal files w).mono ?_ (fun _ _ h => h)
  rintro out w' ⟨passes, last, w₁, hlen, hlast, hpasses, htold, hsums⟩
  rcases hpasses.requests with ⟨tries, htries, hbounds, hreq⟩
  exact ⟨passes, last, w₁, tries, hlen, hpasses.numbers, hlast, hpasses, htold, htries, hbounds,
    htold.requests.trans hreq, hsums⟩

end Verification

end Replatform
