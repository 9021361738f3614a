import Replatform.Proofs.Text
import Replatform.Proofs.Verification.Verdict

/-!
# Issues About Files

What becomes of an issue that an answer reports about a file. It is known by its text from
then on: the message, with the file in front unless the message mentions it. Whether the issue
still stands after the last pass is decided by looking for the paths of the corrected files in
this text, wherever they occur in it.

An issue is therefore taken as settled as soon as a corrected file has a path that occurs
inside of the path in front, whether or not the file it is about was corrected.
`ends_run_reported` gives the condition under which the issue stands, and
`passes_with_uncorrected_file` is a project that passes although its only issue is about a
file that nothing was done about.

## Main definitions

* `Answer.fileIssues`: The issues about files in an answer.
* `Answer.issueAbout`: The text of an issue about a file.

## Theorems

* `Answer.mem_issues_of_mem_fileIssues`: An issue about a file is an issue, under its text.
* `forall_not_contains_issueAbout_iff`: When the text of an issue mentions none of some paths.
* `ends_run_reported`: When an issue about a file stands.
-/

namespace Replatform

namespace Answer

/-- The file and the message of an issue about a file. -/
def fileIssue? : Json → Option (String × String)
  | .obj o => do
    let message ← textField? o ["message", "description", "issue"]
    let file ← textField? o ["file", "path"]
    return (file, message)
  | _ => none

/-- The issues about files in an answer. -/
def fileIssues (text : String) : List (String × String) :=
  match extract? text with
  | some (.obj o) =>
    match List.lookup "issues" o with
    | some (.arr items) => items.filterMap fileIssue?
    | _ => []
  | _ => []

/-- The text of an issue about a file. -/
def issueAbout (file message : String) : String :=
  if Text.contains message file then message else file ++ ": " ++ message

theorem issueText?_of_fileIssue? {item : Json} {file message : String}
    (h : fileIssue? item = some (file, message)) :
    issueText? item = some (issueAbout file message) := by
  cases item with
  | obj o =>
      simp only [fileIssue?, Option.bind_eq_bind, Option.bind_eq_some_iff, Option.pure_def,
        Option.some.injEq, Prod.mk.injEq] at h
      rcases h with ⟨_, hmessage, _, hfile, rfl, rfl⟩
      simp only [issueText?, hmessage, hfile, Option.bind_eq_bind, Option.bind_some, issueAbout]
      split <;> rfl
  | _ => simp only [fileIssue?, reduceCtorEq] at h

theorem mem_issues_review_iff {text issue : String} :
    issue ∈ (review text).issues ↔ ∃ o, extract? text = some (.obj o) ∧ issue ∈ issues o := by
  delta review
  cases extract? text with
  | none => exact ⟨fun h => absurd h List.not_mem_nil, fun ⟨_, h, _⟩ => absurd h nofun⟩
  | some answer =>
      cases answer with
      | obj o =>
          constructor
          · intro h
            exact ⟨o, rfl, h⟩
          · rintro ⟨o', ho, h⟩
            rw [Option.some.injEq, Json.obj.injEq] at ho
            rw [ho]
            exact h
      | _ => exact ⟨fun h => absurd h List.not_mem_nil, fun ⟨_, h, _⟩ => absurd h nofun⟩

/-- An issue about a file is an issue, under its text. -/
theorem mem_issues_of_mem_fileIssues {text file message : String}
    (h : (file, message) ∈ fileIssues text) (hne : issueAbout file message ≠ "") :
    issueAbout file message ∈ (review text).issues := by
  unfold fileIssues at h
  split at h
  · next o hextract =>
      split at h
      · next items hitems =>
          rcases List.mem_filterMap.mp h with ⟨item, hitem, hissue⟩
          refine mem_issues_review_iff.mpr ⟨o, hextract, ?_⟩
          simp only [issues, hitems]
          rw [List.mem_filter, List.mem_filterMap]
          exact ⟨⟨item, hitem, issueText?_of_fileIssue? hissue⟩, decide_eq_true hne⟩
      · exact absurd h List.not_mem_nil
  · exact absurd h List.not_mem_nil

theorem issueAbout_ne_empty {file : String} (hfile : file ≠ "") (message : String) :
    issueAbout file message ≠ "" := by
  unfold issueAbout
  by_cases hnamed : Text.contains message file = true
  · rw [if_pos hnamed]
    rintro rfl
    rw [Text.contains_iff, String.toList_empty, List.infix_nil, String.toList_eq_nil_iff] at hnamed
    exact hfile hnamed
  · rw [if_neg hnamed]
    intro h
    rw [String.append_eq_empty_iff, String.append_eq_empty_iff] at h
    exact hfile h.1.1

end Answer

namespace Verification

variable {σ : Type}

/-- No issue is without a text. -/
theorem Pass.empty_not_mem_issues (p : Pass) : "" ∉ p.review.issues := by
  have hsaid : ∀ text, "" ∉ (Answer.review text).issues := by
    intro text hmem
    rcases Answer.mem_issues_review_iff.mp hmem with ⟨o, -, hin⟩
    unfold Answer.issues at hin
    split at hin
    · exact of_decide_eq_true (List.mem_filter.mp hin).2 rfl
    · exact List.not_mem_nil hin
  have hcomplaint : "" ∉ p.complaint := by
    intro hmem
    unfold Pass.complaint at hmem
    split at hmem
    · split at hmem
      · rw [List.mem_singleton, eq_comm, String.append_eq_empty_iff, String.append_eq_empty_iff] at hmem
        exact absurd hmem.1.1 (by decide)
      · exact List.not_mem_nil hmem
    · rw [List.mem_singleton, eq_comm, String.append_eq_empty_iff, String.append_eq_empty_iff,
        String.append_eq_empty_iff] at hmem
      exact absurd hmem.1.1.1 (by decide)
  intro hmem
  rcases List.mem_append.mp hmem with h | h
  · cases hanswer : p.answer with
    | ok response =>
        rw [hanswer] at h
        exact hsaid _ h
    | error e =>
        rw [hanswer] at h
        exact List.not_mem_nil h
  · exact hcomplaint h

/-- For paths that cannot lie across the colon and the blank, the text of an issue mentions none of
    them if neither the message nor the file in front does. -/
theorem forall_not_contains_issueAbout_iff {paths : Names} (file message : String)
    (hpaths : ∀ path ∈ paths, ':' ∉ path.toList ∧ path.toList.head? ≠ some ' ') :
    (∀ path ∈ paths, Text.contains (Answer.issueAbout file message) path = false) ↔
      (∀ path ∈ paths, Text.contains message path = false) ∧
        (Text.contains message file = true ∨ ∀ path ∈ paths, Text.contains file path = false) := by
  rw [Answer.issueAbout]
  by_cases hnamed : Text.contains message file = true
  · rw [if_pos hnamed]
    exact ⟨fun h => ⟨h, Or.inl hnamed⟩, fun h => h.1⟩
  · have hpath : ∀ path ∈ paths, Text.contains (file ++ ": " ++ message) path = false ↔
        Text.contains message path = false ∧ Text.contains file path = false := by
      intro path hmem
      rw [← Bool.not_eq_true, ← Bool.not_eq_true, ← Bool.not_eq_true,
        Text.contains_labelled_iff (hpaths path hmem).1 (hpaths path hmem).2, not_or, and_comm]
    rw [if_neg hnamed, or_iff_right hnamed]
    refine ⟨fun h => ⟨fun path hmem => ?_, fun path hmem => ?_⟩, fun h path hmem => ?_⟩
    · exact ((hpath path hmem).mp (h path hmem)).1
    · exact ((hpath path hmem).mp (h path hmem)).2
    · exact (hpath path hmem).mpr ⟨h.1 path hmem, h.2 path hmem⟩

/-- What the outcome says about an issue about a file is decided by its text. -/
theorem Outcome.Sums.stands_iff {out : Outcome} {files : ProjectFiles} {passes : List Pass}
    {last : Pass} (h : out.Sums files passes last) {response : Response} {file message : String}
    (hanswer : last.answer = .ok response)
    (hmem : (file, message) ∈ Answer.fileIssues response.textOrEmpty) :
    out.verdict.passed = false ∧ Answer.issueAbout file message ∈ out.verdict.unresolved ↔
      Answer.issueAbout file message ∈ staticCheck out.files ∨
        Answer.issueAbout file message ≠ "" ∧
        ∀ path ∈ last.fixed, Text.contains (Answer.issueAbout file message) path = false := by
  have hfails : Answer.issueAbout file message ∈ out.verdict.unresolved →
      out.verdict.passed = false := by
    intro hin
    rw [← Bool.not_eq_true, h.passed_iff_unresolved]
    exact List.ne_nil_of_mem hin
  have hreported : Answer.issueAbout file message ≠ "" ↔
      Answer.issueAbout file message ∈ last.review.issues := by
    constructor
    · intro hne
      rw [Pass.review, hanswer]
      exact List.mem_append_left _ (Answer.mem_issues_of_mem_fileIssues hmem hne)
    · intro hin he
      rw [he] at hin
      exact last.empty_not_mem_issues hin
  rw [and_iff_right_of_imp hfails, h.unresolved, hreported]

/-- An issue of the last answer about a file stands, and the project does not pass, under exactly
    this condition: the static check finds the issue as well, or no path of a file that the last
    pass corrected occurs in the text of the issue. For paths without a colon and without a blank
    at the beginning, and a message that mentions no corrected file, this is to say that the
    message mentions the file or that none of the paths occurs in the path of the file. That the
    file itself was not corrected is not enough. -/
theorem ends_run_reported (s : Service σ) (c : Config) (signal : SignalId) (files : ProjectFiles)
    (w : World σ) :
    Ends (run s c signal files) w
      (fun out w' => ∃ (passes : List Pass) (last : Pass) (w₁ : World σ),
        passes.length = max c.verificationPasses 1 ∧
        passes.getLast? = some last ∧
        Passes s c signal passes.length 1 files w passes out.files w₁ ∧
        World.Told w₁ w' ∧
        ∀ response file message, last.answer = .ok response →
          (file, message) ∈ Answer.fileIssues response.textOrEmpty →
          (out.verdict.passed = false ∧ Answer.issueAbout file message ∈ out.verdict.unresolved ↔
            Answer.issueAbout file message ∈ staticCheck out.files ∨
              Answer.issueAbout file message ≠ "" ∧
              ∀ path ∈ last.fixed, Text.contains (Answer.issueAbout file message) path = false) ∧
          (file ≠ "" →
            (∀ path ∈ last.fixed, ':' ∉ path.toList ∧ path.toList.head? ≠ some ' ') →
            (∀ path ∈ last.fixed, Text.contains message path = false) →
            (out.verdict.passed = false ∧ Answer.issueAbout file message ∈ out.verdict.unresolved ↔
              Answer.issueAbout file message ∈ staticCheck out.files ∨
                Text.contains message file = true ∨
                ∀ path ∈ last.fixed, Text.contains file path = false)))
      (CutShort s signal) := by
  refine (ends_run_passes s c signal files w).mono ?_ (fun _ _ h => h)
  rintro out w' ⟨passes, last, w₁, hlen, hlast, hpasses, htold, hsums⟩
  refine ⟨passes, last, w₁, hlen, hlast, hpasses, htold, fun response file message hanswer hmem => ?_⟩
  have hstands := hsums.stands_iff hanswer hmem
  refine ⟨hstands, fun hfile hpaths hmessage => ?_⟩
  rw [hstands, forall_not_contains_issueAbout_iff file message hpaths, and_iff_right hmessage,
    and_iff_right (Answer.issueAbout_ne_empty hfile message)]

/-- A project passes although the only issue that is reported is about a file that was not
    corrected. What occurs in the text of the issue is the path of another file, which was
    corrected, as a part of the path in front. -/
theorem passes_with_uncorrected_file :
    let files : ProjectFiles := .ofList [("a.ts", "1"), ("b/a.ts", "2")]
    let answer := "\x7b\"issues\":[\x7b\"file\":\"b/a.ts\",\"message\":\"wrong\"\x7d]," ++
      "\"fixes\":[\x7b\"path\":\"a.ts\",\"content\":\"3\"\x7d]\x7d"
    let service : Service Unit :=
      .ofRequest (fun _ _ s => ({ result := .ok (.ofText answer) }, s)) (fun _ => true)
    files.contains "b/a.ts" = true ∧ Answer.fileIssues answer = [("b/a.ts", "wrong")] ∧
      Ends (run service { verificationPasses := 1 } 0 files) { state := () }
        (fun out _ => out.fixed.toList = ["a.ts"] ∧ Text.contains "wrong" "a.ts" = false ∧
          out.verdict.unresolved = [] ∧ out.verdict.passed = true)
        (fun _ _ => False) := by
  decide +kernel

end Verification

end Replatform
