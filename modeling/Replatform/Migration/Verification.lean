import Replatform.Answer.Code
import Replatform.Answer.Review
import Replatform.Migration.Prompt
import Replatform.Migration.StaticCheck
import Replatform.Migration.Telling

/-!
# Verification

Checking the generated project as a whole. Every pass checks it for what can be found
without asking, asks for a review, and puts the complete files that the review corrects
in their places. A review that cannot be had or read is an issue like any other.

The project passes if the last pass left nothing: the static check finds nothing more,
and every issue of the last review names a file that this review corrected.

## Main definitions

* `Verification.review`: The review of a pass.
* `Verification.applyFixes`: Put the corrections of a review in their places.
* `Verification.Findings`, `Findings.verdict`: What the passes found, and what follows.
* `Verification.run`: All passes.
-/

namespace Replatform

namespace Verification

variable {σ : Type}

/-- The request for a review. -/
def request (c : Config) (files : ProjectFiles) (issues : List String) (pass passes : Nat) : Request :=
  let prompt := Prompt.verification files issues pass passes c.context.legacyTotalChars
  (((Request.ofText c.models.verification prompt).withSystem Prompt.verificationSystem).asJson).withBudget
    c.thinking.verification

/-- A review that consists of an issue, which is told as well. -/
def complain (issue : String) (r : Review) : Work σ MigrationError Review := do
  Work.log .verify .warning issue
  return { r with issues := r.issues ++ [issue] }

/-- The review of a pass. -/
def review (s : Service σ) (c : Config) (signal : SignalId) (files : ProjectFiles)
    (issues : List String) (pass passes : Nat) : Work σ MigrationError Review := do
  let answer ← Work.attempt
    (s.callRetrying c.retry signal (request c files issues pass passes))
  match answer with
  | .ok response =>
    let r := Answer.review response.textOrEmpty
    if r.malformed then
      complain ("Verification pass " ++ toString pass ++ " returned an unreadable response") r
    else return r
  | .error e =>
    if e.isAbort then Work.fail .cancelled
    else complain ("Verification pass " ++ toString pass ++ " failed: " ++ e.message) {}

/-- Put corrections in their places, and collect the paths of the corrected files. -/
def applyFixes (pass : Nat) : List Fix → ProjectFiles × Names → Work σ MigrationError (ProjectFiles × Names)
  | [], state => pure state
  | fix :: fixes, (files, fixed) =>
    if files.contains fix.path then do
      Work.tell (.fixApplied fix.path pass)
      applyFixes pass fixes
        (files.replace fix.path (Answer.stripFences fix.content), fixed.insert fix.path)
    else do
      Work.log .verify .warning ("Ignoring fix for unknown file " ++ fix.path)
      applyFixes pass fixes (files, fixed)

/-- What the passes so far found and did. -/
structure Findings where
  files : ProjectFiles
  /-- Every issue in the order in which it was found, repeated if it was found again. -/
  issues : List String := []
  /-- The files that were corrected in any pass. -/
  fixed : Names := ∅
  /-- How many files were corrected, counted in each pass anew. -/
  fixesApplied : Nat := 0
  /-- The issues of the last review. -/
  lastIssues : List String := []
  /-- The files that the last review corrected. -/
  lastFixed : Names := ∅
deriving DecidableEq, Repr

namespace Findings

/-- An issue of the last review names none of the files that it corrected. -/
def isOpen (f : Findings) (issue : String) : Bool :=
  !f.lastFixed.toList.any fun path => Text.contains issue path

/-- The issues that stand against a pass. -/
def unresolved (f : Findings) : List String :=
  (staticCheck f.files ++ f.lastIssues.filter f.isOpen).eraseDups

/-- The verdict after so many passes. -/
def verdict (f : Findings) (passes : Nat) : Verdict :=
  { passed := f.unresolved.isEmpty
    issues := (f.issues ++ staticCheck f.files).eraseDups
    unresolved := f.unresolved
    fixesApplied := f.fixesApplied
    passes }

end Findings

/-- One pass. -/
def onePass (s : Service σ) (c : Config) (signal : SignalId) (pass passes : Nat) (f : Findings) :
    Work σ MigrationError Findings := do
  (Work.check signal).asPhase
  let found := staticCheck f.files
  Work.log .verify .info ("Verification pass " ++ toString pass ++ "/" ++ toString passes ++ ": " ++
    toString f.files.size ++ " files, " ++ toString found.length ++ " static issues")
  let r ← review s c signal f.files found pass passes
  let (files, fixed) ← applyFixes pass r.fixes (f.files, ∅)
  -- The review and its corrections take the place of those of the pass before.
  return {
    files
    issues := f.issues ++ found ++ r.issues
    fixed := f.fixed.union fixed
    fixesApplied := f.fixesApplied + fixed.size
    lastIssues := r.issues
    lastFixed := fixed }

/-- The passes from the number `pass` on, of which there are `left`. -/
def passesFrom (s : Service σ) (c : Config) (signal : SignalId) (passes : Nat) :
    (left pass : Nat) → Findings → Work σ MigrationError Findings
  | 0, _, f => pure f
  | left + 1, pass, f => do
    passesFrom s c signal passes left (pass + 1) (← onePass s c signal pass passes f)

/-- What a verification came to. -/
structure Outcome where
  verdict : Verdict
  /-- The project with all corrections. -/
  files : ProjectFiles
  /-- The files that were corrected. -/
  fixed : Names
deriving DecidableEq, Repr

/-- Go through all passes. -/
def run (s : Service σ) (c : Config) (signal : SignalId) (files : ProjectFiles) :
    Work σ MigrationError Outcome := do
  let passes := max c.verificationPasses 1
  let f ← passesFrom s c signal passes passes 1 { files }
  let v := f.verdict passes
  if v.passed then
    Work.log .verify .success ("Verification passed after " ++ toString passes ++ " passes, " ++
      toString v.fixesApplied ++ " fixes applied")
  else
    Work.log .verify .warning ("Verification found " ++ toString v.unresolved.length ++
      " unresolved issues")
  Work.tell (.verification v)
  return { verdict := v, files := f.files, fixed := f.fixed }

end Verification

end Replatform
