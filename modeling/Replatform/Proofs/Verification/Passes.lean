import Replatform.Migration.Verification
import Replatform.Proofs.Table
import Replatform.Proofs.Work.Calls

/-!
# The Passes of a Verification

A verification as the list of its passes. A pass is determined by the project it found and
the answer it got; what it makes of them is said here without reference to the loop that
goes through corrections one by one. A corrected file holds what the last of its
corrections says, and the corrected files are those of the project that some correction
names.

`Passes` puts the passes of a run in their places: each found what the one before it left,
and each asked the service in the world that the one before it left, with nothing but
events told in between. `ends_run` says that a verification that comes to an outcome has
gone through as many passes as were asked for, that its outcome follows from them, and that
one without an outcome was cancelled for a reason.

## Main definitions

* `World.Told`: Events were told, and nothing else was done.
* `Pass`: The project that a pass found, and the answer that it got.
* `Pass.review`, `Pass.fixed`, `Pass.after`: What follows from them.
* `Findings.extend`: What is known after one more pass.
* `Passes`: Passes that follow one another.

## Theorems

* `foldl_putFix_fst`, `mem_foldl_putFix_snd`: The loop over the corrections does what `Pass.after`
  and `Pass.fixed` say.
* `keys_after`, `get?_after_of_not_mem`: What a pass leaves alone.
* `ends_review`, `ends_applyFixes`, `ends_onePass`: What a pass comes to.
* `ends_passesFrom`, `ends_run`: What a verification comes to.
-/

namespace Replatform

variable {σ : Type}

namespace World

/-- Events were told, and nothing else was done. -/
def Told (w w' : World σ) : Prop :=
  ∃ events : List Event, w' = { w with deeds := events.map Deed.told ++ w.deeds }

theorem Told.refl (w : World σ) : Told w w :=
  ⟨[], rfl⟩

theorem Told.tell {w w' : World σ} (h : Told w w') (e : Event) : Told w (w'.tell e) := by
  rcases h with ⟨events, rfl⟩
  exact ⟨e :: events, rfl⟩

theorem Told.trans {w₁ w₂ w₃ : World σ} (h : Told w₁ w₂) (h' : Told w₂ w₃) : Told w₁ w₃ := by
  rcases h with ⟨events, rfl⟩
  rcases h' with ⟨events', rfl⟩
  refine ⟨events' ++ events, ?_⟩
  rw [List.map_append, List.append_assoc]

theorem Told.requests {w w' : World σ} (h : Told w w') : w'.requests = w.requests := by
  rcases h with ⟨events, rfl⟩
  induction events with
  | nil => rfl
  | cons e events ih => exact (requests_tell _ e).trans ih

end World

namespace Verification

/-- What is known of the project and of the corrected files after one more correction. -/
def putFix (state : ProjectFiles × Names) (fix : Fix) : ProjectFiles × Names :=
  if state.1.contains fix.path then
    (state.1.replace fix.path (Answer.stripFences fix.content), state.2.insert fix.path)
  else state

/-- The content of a file after some corrections: what the last one for it says. -/
def corrected (fixes : List Fix) (path content : String) : String :=
  match fixes.reverse.find? (·.path == path) with
  | some fix => Answer.stripFences fix.content
  | none => content

/-- A pass of a verification: its number, the project that it found, and what came of asking
    for a review. -/
structure Pass where
  number : Nat
  before : ProjectFiles
  answer : Except ServiceError Response

namespace Pass

/-- The issues that the pass found without asking. -/
def found (p : Pass) : List String :=
  staticCheck p.before

/-- The request that the pass sends. -/
def request (p : Pass) (c : Config) (total : Nat) : Request :=
  Verification.request c p.before p.found p.number total

/-- The issue that an answer which is not a review amounts to. -/
def complaint (p : Pass) : List String :=
  match p.answer with
  | .ok response =>
    if (Answer.review response.textOrEmpty).malformed then
      ["Verification pass " ++ toString p.number ++ " returned an unreadable response"]
    else []
  | .error e => ["Verification pass " ++ toString p.number ++ " failed: " ++ e.message]

/-- What the answer says, with the issue that it amounts to if it is not a review. -/
def review (p : Pass) : Review :=
  let said := match p.answer with
    | .ok response => Answer.review response.textOrEmpty
    | .error _ => {}
  { said with issues := said.issues ++ p.complaint }

/-- The files of the project that the pass corrected. -/
def fixed (p : Pass) : Names :=
  Names.ofList ((p.review.fixes.map Fix.path).filter p.before.contains)

/-- The project that the pass left. -/
def after (p : Pass) : ProjectFiles :=
  p.before.map (corrected p.review.fixes)

end Pass

theorem putFix_keys (state : ProjectFiles × Names) (fix : Fix) :
    (putFix state fix).1.keys = state.1.keys := by
  unfold putFix
  by_cases h : state.1.contains fix.path = true
  · rw [if_pos h, Table.keys_replace]
  · rw [if_neg h]

theorem corrected_cons (fix : Fix) (fixes : List Fix) (path content : String) :
    corrected (fix :: fixes) path content =
      corrected fixes path (if path = fix.path then Answer.stripFences fix.content else content) := by
  unfold corrected
  rw [List.reverse_cons, List.find?_append]
  cases fixes.reverse.find? (·.path == path) with
  | some later => rfl
  | none =>
      rw [Option.none_or]
      by_cases hpath : path = fix.path
      · rw [List.find?_cons_of_pos (by rw [beq_iff_eq]; exact hpath.symm), if_pos hpath]
      · rw [List.find?_cons_of_neg (by rw [beq_iff_eq]; exact fun h => hpath h.symm),
          List.find?_nil, if_neg hpath]

theorem corrected_of_not_mem {fixes : List Fix} {path : String} (h : path ∉ fixes.map Fix.path)
    (content : String) : corrected fixes path content = content := by
  induction fixes with
  | nil => rfl
  | cons fix fixes ih =>
      rw [List.map_cons, List.mem_cons, not_or] at h
      rw [corrected_cons, if_neg h.1, ih h.2]

/-- The loop over the corrections leaves in each file what the last one for it says. -/
theorem foldl_putFix_fst (fixes : List Fix) (state : ProjectFiles × Names) :
    (fixes.foldl putFix state).1 = state.1.map (corrected fixes) := by
  induction fixes generalizing state with
  | nil =>
      refine Table.ext_get? fun path => ?_
      rw [Table.get?_map]
      exact Option.map_id'.symm
  | cons fix fixes ih =>
      rw [List.foldl_cons, ih]
      refine Table.ext_get? fun path => ?_
      rw [Table.get?_map, Table.get?_map, putFix]
      by_cases hin : state.1.contains fix.path = true
      · rw [if_pos hin, Table.get?_replace]
        by_cases hpath : path = fix.path
        · rw [if_pos hpath, Option.map_map]
          refine Option.map_congr fun content _ => ?_
          rw [Function.comp_apply, corrected_cons, if_pos hpath]
        · rw [if_neg hpath]
          refine Option.map_congr fun content _ => ?_
          rw [corrected_cons, if_neg hpath]
      · -- A correction for a file that is not there changes none that is.
        rw [if_neg hin]
        refine Option.map_congr fun content hcontent => ?_
        have hpath : path ≠ fix.path := by
          intro he
          rw [Table.contains_iff, ← he, Table.mem_keys_iff] at hin
          exact hin ⟨content, hcontent⟩
        rw [corrected_cons, if_neg hpath]

/-- The loop over the corrections collects the files of the project that they name. -/
theorem mem_foldl_putFix_snd (fixes : List Fix) (state : ProjectFiles × Names) (path : String) :
    path ∈ (fixes.foldl putFix state).2 ↔
      path ∈ state.2 ∨ path ∈ fixes.map Fix.path ∧ state.1.contains path = true := by
  induction fixes generalizing state with
  | nil => simp only [List.foldl_nil, List.map_nil, List.not_mem_nil, false_and, or_false]
  | cons fix fixes ih =>
      have hsame : (putFix state fix).1.contains path = true ↔ state.1.contains path = true := by
        rw [Table.contains_iff, Table.contains_iff, putFix_keys]
      rw [List.foldl_cons, ih, hsame, List.map_cons, List.mem_cons, putFix]
      by_cases hin : state.1.contains fix.path = true
      · rw [if_pos hin, Names.mem_insert]
        constructor
        · rintro ((rfl | h) | h)
          · exact Or.inr ⟨Or.inl rfl, hin⟩
          · exact Or.inl h
          · exact Or.inr ⟨Or.inr h.1, h.2⟩
        · rintro (h | ⟨rfl | h, hc⟩)
          · exact Or.inl (Or.inr h)
          · exact Or.inl (Or.inl rfl)
          · exact Or.inr ⟨h, hc⟩
      · rw [if_neg hin]
        constructor
        · rintro (h | h)
          · exact Or.inl h
          · exact Or.inr ⟨Or.inr h.1, h.2⟩
        · rintro (h | ⟨rfl | h, hc⟩)
          · exact Or.inl h
          · exact absurd hc hin
          · exact Or.inr ⟨h, hc⟩

namespace Pass

variable (p : Pass)

theorem mem_fixed (path : String) :
    path ∈ p.fixed ↔ path ∈ p.review.fixes.map Fix.path ∧ p.before.contains path = true := by
  rw [fixed, Names.mem_ofList, List.mem_filter]

theorem keys_after : p.after.keys = p.before.keys := by
  rw [after, Table.map, Table.keys, Table.keys, List.map_map]
  rfl

theorem get?_after_of_not_mem {path : String} (h : path ∉ p.fixed) :
    p.after.get? path = p.before.get? path := by
  rw [after, Table.get?_map]
  cases hget : p.before.get? path with
  | none => rfl
  | some content =>
      have hin : p.before.contains path = true := by
        rw [Table.contains_iff, Table.mem_keys_iff]
        exact ⟨content, hget⟩
      have hnot : path ∉ p.review.fixes.map Fix.path := fun hmem => h ((p.mem_fixed path).mpr ⟨hmem, hin⟩)
      rw [Option.map_some, corrected_of_not_mem hnot]

theorem foldl_putFix :
    p.review.fixes.foldl putFix (p.before, ∅) = (p.after, p.fixed) := by
  refine Prod.ext (foldl_putFix_fst _ _) (Names.ext_mem fun path => ?_)
  rw [mem_foldl_putFix_snd, mem_fixed]
  exact ⟨fun h => h.resolve_left Names.not_mem_empty, Or.inr⟩

end Pass

/-- A pass asks the service and gets its answer, with at least one request and no more than the
    policy allows. For the rest it only tells events. -/
inductive Pass.Asks (s : Service σ) (c : Config) (signal : SignalId) (total : Nat) (p : Pass)
    (w w' : World σ) : Prop where
  | intro {w₁ w₂ : World σ} {tries : Nat}
      (announced : World.Told w w₁)
      (asked : (Work.attempt (s.callRetrying c.retry signal (p.request c total)) :
        Work σ MigrationError _) w₁ = .ok p.answer w₂)
      (kept : p.answer ≠ .error .aborted)
      (once : 1 ≤ tries)
      (often : tries ≤ c.retry.maxRetries + 1)
      (sent : w₂.requests = w₁.requests ++ List.replicate tries (p.request c total))
      (reported : World.Told w₂ w')

/-- Passes that follow one another. Each asks the service in the world that the one before it
    left, and hands the project on as it left it. -/
inductive Passes (s : Service σ) (c : Config) (signal : SignalId) (total : Nat) :
    Nat → ProjectFiles → World σ → List Pass → ProjectFiles → World σ → Prop where
  | none (n : Nat) (files : ProjectFiles) (w : World σ) :
      Passes s c signal total n files w [] files w
  | more {p : Pass} {passes : List Pass} {files : ProjectFiles} {w w₁ w' : World σ}
      (asks : p.Asks s c signal total w w₁)
      (rest : Passes s c signal total (p.number + 1) p.after w₁ passes files w') :
      Passes s c signal total p.number p.before w (p :: passes) files w'

/-- What is known after one more pass. -/
def Findings.extend (f : Findings) (p : Pass) : Findings :=
  { files := p.after
    issues := f.issues ++ p.found ++ p.review.issues
    fixed := f.fixed.union p.fixed
    fixesApplied := f.fixesApplied + p.fixed.size
    lastIssues := p.review.issues
    lastFixed := p.fixed }

/-- Why a verification has no outcome: it was dropped, or it was cancelled by its signal or by a
    service that gave up. -/
def CutShort (s : Service σ) (signal : SignalId) (stop : Stop MigrationError) (w : World σ) : Prop :=
  stop = .dropped ∨
    (stop = .failed .cancelled ∧ (w.signals.isAborted signal = true ∨ s.GivesUp))

variable (s : Service σ) (c : Config) (signal : SignalId)

theorem ends_complain (issue : String) (r : Review) (w : World σ) :
    Ends (complain issue r) w
      (fun r' w' => r' = { r with issues := r.issues ++ [issue] } ∧ World.Told w w')
      (fun _ _ => False) := by
  rw [complain, ends_bind, Work.ends_log, ends_pure]
  exact ⟨rfl, (World.Told.refl w).tell _⟩

/-- An answer becomes a review, unless it is that the pass was cancelled. -/
theorem ends_review (n total : Nat) (files : ProjectFiles) {w w₁ : World σ}
    (hw : World.Told w w₁) :
    Ends (review s c signal files (staticCheck files) n total) w₁
      (fun r w' => ∃ p : Pass, p.number = n ∧ p.before = files ∧ r = p.review ∧
        p.Asks s c signal total w w')
      (CutShort s signal) := by
  rw [review, ends_bind]
  refine ((s.ends_attempt_callRetrying signal _ c.retry w₁).and (Ends.self _ w₁)).mono ?_ ?_
  · rintro answer w₂ ⟨⟨⟨tries, honce, hoften, hsent⟩, hcause⟩, hasked⟩
    -- The answer makes the pass. What is left to show is that the review is that of the pass.
    let p : Pass := ⟨n, files, answer⟩
    have hasks : ∀ w', p.answer ≠ .error .aborted → World.Told w₂ w' →
        p.Asks s c signal total w w' :=
      fun w' hkept ht => ⟨hw, hasked, hkept, honce hkept, hoften, hsent, ht⟩
    cases answer with
    | ok response =>
        have hkept : p.answer ≠ .error .aborted := by
          simp only [p, ne_eq, reduceCtorEq, not_false_eq_true]
        simp only []
        generalize hsaid : Answer.review response.textOrEmpty = said
        by_cases hbad : said.malformed = true
        · rw [if_pos hbad]
          refine (ends_complain _ _ w₂).mono ?_ (fun _ _ h => h.elim)
          rintro r w' ⟨rfl, ht⟩
          refine ⟨p, rfl, rfl, ?_, hasks w' hkept ht⟩
          simp only [Pass.review, Pass.complaint, p, hsaid, if_pos hbad]
        · rw [if_neg hbad, ends_pure]
          refine ⟨p, rfl, rfl, ?_, hasks w₂ hkept (World.Told.refl w₂)⟩
          simp only [Pass.review, Pass.complaint, p, hsaid, if_neg hbad, List.append_nil]
    | error e =>
        simp only []
        by_cases hab : e.isAbort = true
        · rw [if_pos hab, Work.ends_fail]
          have he : e = .aborted := by
            cases e <;> simp only [ServiceError.isAbort, reduceCtorEq] at hab
            rfl
          exact Or.inr ⟨rfl, hcause (by rw [he])⟩
        · rw [if_neg hab]
          have hkept : p.answer ≠ .error .aborted := by
            intro h
            rw [Except.error.inj h] at hab
            exact hab rfl
          refine (ends_complain _ _ w₂).mono ?_ (fun _ _ h => h.elim)
          rintro r w' ⟨rfl, ht⟩
          exact ⟨p, rfl, rfl, rfl, hasks w' hkept ht⟩
  · rintro stop w₂ ⟨hdropped, -⟩
    exact Or.inl hdropped

/-- The corrections are put in their places one by one. -/
theorem ends_applyFixes (n : Nat) (fixes : List Fix) (state : ProjectFiles × Names) (w : World σ) :
    Ends (applyFixes n fixes state) w
      (fun state' w' => state' = fixes.foldl putFix state ∧ World.Told w w')
      (fun _ _ => False) := by
  induction fixes generalizing state w with
  | nil => exact ⟨rfl, World.Told.refl w⟩
  | cons fix fixes ih =>
      rcases state with ⟨files, fixed⟩
      rw [applyFixes, List.foldl_cons, putFix]
      by_cases hin : files.contains fix.path = true
      · rw [if_pos hin, if_pos hin, ends_bind, Work.ends_tell]
        refine (ih _ _).mono (fun state' w' h => ⟨h.1, ?_⟩) (fun _ _ h => h)
        exact ((World.Told.refl w).tell _).trans h.2
      · rw [if_neg hin, if_neg hin, ends_bind, Work.ends_log]
        refine (ih _ _).mono (fun state' w' h => ⟨h.1, ?_⟩) (fun _ _ h => h)
        exact ((World.Told.refl w).tell _).trans h.2

/-- One pass extends what is known by a pass. -/
theorem ends_onePass (n total : Nat) (f : Findings) (w : World σ) :
    Ends (onePass s c signal n total f) w
      (fun f' w' => ∃ p : Pass, p.number = n ∧ p.before = f.files ∧ f' = f.extend p ∧
        p.Asks s c signal total w w')
      (CutShort s signal) := by
  rw [onePass, ends_bind, Work.asPhase, Work.ends_mapError, Work.ends_check]
  by_cases hab : w.signals.isAborted signal = true
  · rw [if_pos hab]
    exact Or.inr ⟨rfl, Or.inl hab⟩
  · rw [if_neg hab, ends_bind, Work.ends_log, ends_bind]
    refine (ends_review s c signal n total f.files ((World.Told.refl w).tell _)).mono ?_
      (fun _ _ h => h)
    rintro r w₁ ⟨p, hnum, hbefore, rfl, hasks⟩
    rw [ends_bind]
    refine (ends_applyFixes n p.review.fixes (f.files, ∅) w₁).mono ?_ (fun _ _ h => h.elim)
    rintro state w₂ ⟨hstate, ht⟩
    rw [← hbefore, p.foldl_putFix] at hstate
    subst hstate
    rcases hasks with ⟨announced, asked, kept, once, often, sent, reported⟩
    refine ⟨p, hnum, hbefore, ?_, announced, asked, kept, once, often, sent, reported.trans ht⟩
    rw [Findings.extend, Pass.found, hbefore]

/-- The passes from a number on extend what is known by as many passes. -/
theorem ends_passesFrom (total left n : Nat) (f : Findings) (w : World σ) :
    Ends (passesFrom s c signal total left n f) w
      (fun f' w' => ∃ passes : List Pass, passes.length = left ∧
        Passes s c signal total n f.files w passes f'.files w' ∧
        f' = passes.foldl Findings.extend f)
      (CutShort s signal) := by
  induction left generalizing n f w with
  | zero => exact ⟨[], rfl, Passes.none n f.files w, rfl⟩
  | succ left ih =>
      rw [passesFrom, ends_bind]
      refine (ends_onePass s c signal n total f w).mono ?_ (fun _ _ h => h)
      rintro f₁ w₁ ⟨p, rfl, hbefore, rfl, hasks⟩
      refine (ih (p.number + 1) (f.extend p) w₁).mono ?_ (fun _ _ h => h)
      rintro f' w' ⟨passes, hlen, hrest, hf'⟩
      refine ⟨p :: passes, by rw [List.length_cons, hlen], ?_, hf'⟩
      rw [← hbefore]
      exact Passes.more hasks hrest

/-- A verification goes through all its passes, and its outcome is the verdict on them. -/
theorem ends_run (files : ProjectFiles) (w : World σ) :
    Ends (run s c signal files) w
      (fun out w' => ∃ (passes : List Pass) (f : Findings) (w₁ : World σ),
        passes.length = max c.verificationPasses 1 ∧
        Passes s c signal passes.length 1 files w passes f.files w₁ ∧
        World.Told w₁ w' ∧
        f = passes.foldl Findings.extend { files } ∧
        out = ⟨f.verdict passes.length, f.files, f.fixed⟩)
      (CutShort s signal) := by
  rw [run, ends_bind]
  refine (ends_passesFrom s c signal _ _ 1 { files } w).mono ?_ (fun _ _ h => h)
  rintro f w₁ ⟨passes, hlen, hpasses, hf⟩
  have htold : ∀ e e' : Event, World.Told w₁ ((w₁.tell e).tell e') :=
    fun e e' => ((World.Told.refl w₁).tell e).tell e'
  simp only []
  split
  · rw [ends_bind, Work.ends_log, ends_bind, Work.ends_tell, ends_pure]
    rw [← hlen] at hpasses
    exact ⟨passes, f, w₁, hlen, hpasses, htold _ _, hf, by rw [hlen]⟩
  · rw [ends_bind, Work.ends_log, ends_bind, Work.ends_tell, ends_pure]
    rw [← hlen] at hpasses
    exact ⟨passes, f, w₁, hlen, hpasses, htold _ _, hf, by rw [hlen]⟩

end Verification

end Replatform
