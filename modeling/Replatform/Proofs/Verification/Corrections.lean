import Replatform.Proofs.Answer.Code
import Replatform.Proofs.Text
import Replatform.Proofs.Verification.Verdict

/-!
# Corrected Files and What Is Put in Them

What becomes of the content that a correction gives for a file. A correction is meant to have
the complete file in it, but its content is read like any other answer: as a Markdown text, of
which the first code block is taken. A file that is Markdown, or that only has the marks of a
fence somewhere in it, is then cut down to a part of itself.

`TakenWhole` is the condition under which nothing is lost but blanks at the ends. No marks of a
fence in the file are enough for it, and so is a file in which Markdown sees no code. In any
other file the code that is seen has to be the whole file. `ends_run_corrections` says that the
condition is exact, for every correction of every pass, and `corrected_to_indented_part` is a
file with no fence at all that does not meet it.

## Main definitions

* `Answer.TakenWhole`: A text is taken for the content of a file as it is.

## Theorems

* `Answer.trim_stripFences_iff`: The content that is found in an answer, up to blanks.
* `get?_foldl_putFix_concat`: What a file holds after a correction.
* `ends_run_corrections`: When the corrections of a verification are put in their places whole.
-/

namespace Replatform

namespace Answer

/-- A text is taken as it is: it has no marks of a fence in it, or Markdown sees no code in it that
    is worth taking, or the first such code is all of it. -/
def TakenWhole (text : String) : Prop :=
  (∀ mark ∈ fenceMarks, Text.occurs mark text.toList = false) ∨
    (∀ block ∈ Markdown.codeBlocks text, isSubstantial block = false) ∨
    ∃ block, (Markdown.codeBlocks text).find? isSubstantial = some block ∧
      Text.trim block.code = Text.trim text

/-- Tidy code differs from what it was only in blanks at its end. -/
theorem trim_tidy (code : String) : Text.trim (tidy code) = Text.trim code := by
  rw [← Text.trim_trimEnd code]
  unfold tidy
  by_cases hblank : Text.trimEnd code = ""
  · rw [if_pos hblank, hblank]
  · rw [if_neg hblank, Text.trim_append_newline]

/-- What is found in an answer is the whole answer, up to blanks at its ends, under exactly this
    condition. Under any other it is a code block. -/
theorem trim_stripFences_iff (text : String) :
    (Text.trim (stripFences text) = Text.trim text ↔ TakenWhole text) ∧
      (¬ TakenWhole text → ∃ block, (Markdown.codeBlocks text).find? isSubstantial = some block ∧
        stripFences text = tidy block.code) := by
  unfold TakenWhole
  by_cases hmarks : ∀ mark ∈ fenceMarks, Text.occurs mark text.toList = false
  · rw [stripFences_of_not_occurs hmarks]
    exact ⟨iff_of_true (Text.trim_trim text) (Or.inl hmarks), fun hnot => absurd (Or.inl hmarks) hnot⟩
  · rw [stripFences_of_occurs hmarks, or_iff_right hmarks]
    cases hfind : (Markdown.codeBlocks text).find? isSubstantial with
    | none =>
        -- No code is worth taking, so the answer is what is left.
        have hnone : ∀ block ∈ Markdown.codeBlocks text, isSubstantial block = false :=
          fun block hblock => Bool.eq_false_iff.mpr (List.find?_eq_none.mp hfind block hblock)
        exact ⟨iff_of_true (Text.trim_trim text) (Or.inl hnone), fun hnot =>
          absurd (Or.inl hnone) hnot⟩
    | some block =>
        have hworth : ¬ ∀ block ∈ Markdown.codeBlocks text, isSubstantial block = false := by
          intro hnone
          have hblock := List.find?_some hfind
          rw [hnone block (List.mem_of_find?_eq_some hfind)] at hblock
          exact Bool.false_ne_true hblock
        rw [or_iff_right hworth]
        refine ⟨?_, fun _ => ⟨block, rfl, rfl⟩⟩
        simp only [trim_tidy, Option.some.injEq, exists_eq_left']

end Answer

namespace Verification

variable {σ : Type}

/-- A file holds what the last correction for it says, however often it was corrected before. -/
theorem get?_foldl_putFix_concat (earlier : List Fix) (fix : Fix) {state : ProjectFiles × Names}
    (h : state.1.contains fix.path = true) :
    ((earlier ++ [fix]).foldl putFix state).1.get? fix.path =
      some (Answer.stripFences fix.content) := by
  rw [Table.contains_iff, Table.mem_keys_iff] at h
  rcases h with ⟨content, hcontent⟩
  -- The corrections are searched from the last one, and the last one is for this file.
  have hlast : corrected (earlier ++ [fix]) fix.path content = Answer.stripFences fix.content := by
    have hfix : (fix.path == fix.path) = true := beq_self_eq_true fix.path
    rw [corrected, List.reverse_append, List.reverse_singleton, List.singleton_append,
      List.find?_cons_of_pos (p := fun f : Fix => f.path == fix.path) hfix]
  rw [foldl_putFix_fst, Table.get?_map, hcontent, Option.map_some, hlast]

/-- All passes are about the same files. -/
theorem Passes.keys_before {s : Service σ} {c : Config} {signal : SignalId} {total n : Nat}
    {files files' : ProjectFiles} {w w' : World σ} {passes : List Pass}
    (h : Passes s c signal total n files w passes files' w') :
    ∀ p ∈ passes, p.before.keys = files.keys := by
  induction h with
  | none => exact fun p hp => absurd hp List.not_mem_nil
  | more asks rest ih =>
      rw [List.forall_mem_cons]
      exact ⟨rfl, fun p hp => (ih p hp).trans (Pass.keys_after _)⟩

/-- When a correction is put in its place, the file holds the content of the correction, up to blanks
    at its ends, under exactly one condition: the content has no marks of a fence in it, or it has
    no code block that is worth taking, or it is nothing but the first such block. Under any other
    condition the file holds that block and nothing else. This is so in every pass and for every
    correction of a file of the project, whatever was corrected before. -/
theorem ends_run_corrections (s : Service σ) (c : Config) (signal : SignalId) (files : ProjectFiles)
    (w : World σ) :
    Ends (run s c signal files) w
      (fun out w' => ∃ (passes : List Pass) (w₁ : World σ),
        passes.length = max c.verificationPasses 1 ∧
        Passes s c signal passes.length 1 files w passes out.files w₁ ∧
        World.Told w₁ w' ∧
        ∀ p ∈ passes, ∀ earlier fix later, p.review.fixes = earlier ++ fix :: later →
          files.contains fix.path = true →
          ∀ w₂ : World σ, Ends (applyFixes p.number (earlier ++ [fix]) (p.before, ∅)) w₂
            (fun snapshot _ => ∃ content, snapshot.1.get? fix.path = some content ∧
              (Text.trim content = Text.trim fix.content ↔ Answer.TakenWhole fix.content) ∧
              (¬ Answer.TakenWhole fix.content → ∃ block,
                (Markdown.codeBlocks fix.content).find? Answer.isSubstantial = some block ∧
                content = Answer.tidy block.code))
            (fun _ _ => False))
      (CutShort s signal) := by
  refine (ends_run_passes s c signal files w).mono ?_ (fun _ _ h => h)
  rintro out w' ⟨passes, last, w₁, hlen, -, hpasses, htold, -⟩
  refine ⟨passes, w₁, hlen, hpasses, htold, fun p hp earlier fix later hfixes hfile w₂ => ?_⟩
  -- No pass adds or removes a file, so the file is there when its correction comes.
  have hbefore : p.before.contains fix.path = true := by
    rw [Table.contains_iff] at hfile ⊢
    rw [hpasses.keys_before p hp]
    exact hfile
  refine (ends_applyFixes p.number (earlier ++ [fix]) (p.before, ∅) w₂).mono ?_ (fun _ _ h => h)
  rintro snapshot w₃ ⟨rfl, -⟩
  exact ⟨_, get?_foldl_putFix_concat earlier fix hbefore, Answer.trim_stripFences_iff fix.content⟩

/-- A file with three backticks in a string and an indented line is cut down to that line, although it
    has no fence anywhere, and the project passes. -/
theorem corrected_to_indented_part :
    let files : ProjectFiles := .ofList [("a.ts", "1")]
    let content := "const mark = '```';\n\n    run(mark);\n"
    let answer := "\x7b\"issues\":[],\"fixes\":[\x7b\"path\":\"a.ts\",\"content\":" ++
      "\"const mark = '```';\\n\\n    run(mark);\\n\"\x7d]\x7d"
    let service : Service Unit :=
      .ofRequest (fun _ _ s => ({ result := .ok (.ofText answer) }, s)) (fun _ => true)
    files.contains "a.ts" = true ∧ (Answer.review answer).fixes = [⟨"a.ts", content⟩] ∧
      (Answer.fenceMarks.all fun mark => !mark.isPrefixOf (Text.dropBlanks content.toList)) = true ∧
      Ends (run service { verificationPasses := 1 } 0 files) { state := () }
        (fun out _ => out.files.get? "a.ts" = some "run(mark);\n" ∧
          Text.trim "run(mark);\n" ≠ Text.trim content ∧ out.verdict.passed = true)
        (fun _ _ => False) := by
  decide +kernel

end Verification

end Replatform
