import Replatform.Proofs.Migration.Phases

/-!
# How Long a Verdict Holds

The phases of a migration can be called in any order and as often as somebody likes, and each
call may fail, be cancelled or be dropped. What a run has been through is kept here as a list
of turns, and `Run.Reached` are the runs that come about in this way, with any services, under
any signals and in any worlds.

A verdict that a project passed is about the files that it was given on. It goes on to hold
through calls that fail and through calls that are dropped, since these leave the files alone
or leave none. A call that comes to a result takes the verdict away or brings a new one. The
only way to outdate a verdict is to cancel a generation that has begun on a file: the file is
taken back, but the verdict is not. `Spoiled` says that this has happened since the last result,
`static_of_passed` that a verdict holds until it does, and `passed_after_cancelled` is a run in
which it did and the verdict is wrong.

## Main definitions

* `PhaseCall`: A phase that is called on a run.
* `Turn`, `Turn.Spoils`: What a call did, and when it outdates a verdict.
* `Run.Reached`: The runs that calls lead to, with their histories.
* `Spoiled`: A verdict may have been outdated since the last result.

## Theorems

* `PhaseCall.ends_task`: What any call leaves.
* `Run.Reached.sound`: Verdicts hold in runs that are not spoiled.
* `Run.static_of_passed`: What a verdict that holds says about the files.
-/

namespace Replatform

variable {σ : Type}

/-- A phase that is called on a run. -/
inductive PhaseCall where
  | scaffold
  | generate
  | verify
  | regenerate (path : String) (instructions : Option String)

/-- What a call did: why it came to nothing, if it did, and the finished files before and after. -/
structure Turn where
  stop? : Option (Stop MigrationError)
  before : ProjectFiles
  after : ProjectFiles
deriving DecidableEq

/-- A call was cancelled and has left other files than it found. -/
def Turn.Spoils (t : Turn) : Prop :=
  t.stop? = some (.failed .cancelled) ∧ t.after ≠ t.before

instance (t : Turn) : Decidable t.Spoils :=
  inferInstanceAs (Decidable (_ ∧ _))

/-- Since the last call that came to a result, the latest call first, one was cancelled and has left
    other files than it found. -/
def Spoiled : List Turn → Prop
  | [] => False
  | t :: ts => t.stop? ≠ none ∧ (t.Spoils ∨ Spoiled ts)

instance decidableSpoiled : (history : List Turn) → Decidable (Spoiled history)
  | [] => inferInstanceAs (Decidable False)
  | t :: ts =>
    have := decidableSpoiled ts
    inferInstanceAs (Decidable (t.stop? ≠ none ∧ (t.Spoils ∨ Spoiled ts)))

namespace PhaseCall

/-- The phase as a task. -/
def task (o : Orchestrator σ) (signal : SignalId) : PhaseCall → WorkOn Run σ MigrationError Unit
  | .scaffold => o.scaffold signal
  | .generate => do
    let _ ← o.generate signal
  | .verify => do
    let _ ← o.verify signal
  | .regenerate path instructions => do
    let _ ← o.regenerate path instructions signal

variable (o : Orchestrator σ) (signal : SignalId) (w : World σ) (r : Run) (call : PhaseCall)

/-- The run after a call, whichever way it ends. -/
def after : Run :=
  match call.task o signal (w, r) with
  | .ok _ s => s.2
  | .error _ s => s.2

/-- Why a call comes to nothing, if it does. -/
def stop? : Option (Stop MigrationError) :=
  match call.task o signal (w, r) with
  | .ok _ _ => none
  | .error stop _ => some stop

/-- What a call does. -/
def turn : Turn :=
  ⟨call.stop? o signal w r, r.generatedFiles, (call.after o signal w r).generatedFiles⟩

end PhaseCall

namespace Run

/-- The runs that calls lead to, with what they have been through, the latest call first. Each call
    may be made with services, a signal and a world of its own. -/
inductive Reached : List Turn → Run → Prop where
  | new (url : String) : Reached [] { repoUrl := url }
  | analyzed {σ : Type} {o : Orchestrator σ} {url : String} {signal : SignalId} {w w' : World σ}
      {r : Run} (h : o.analyze url signal w = .ok r w') : Reached [] r
  | called {σ : Type} {history : List Turn} {r : Run} (o : Orchestrator σ) (signal : SignalId)
      (w : World σ) (call : PhaseCall) (h : Reached history r) :
      Reached (call.turn o signal w r :: history) (call.after o signal w r)

/-- A new run after calls, the latest call first, with what it has been through. -/
def afterCalls (o : Orchestrator σ) (signal : SignalId) (url : String) :
    List (PhaseCall × World σ) → List Turn × Run
  | [] => ([], { repoUrl := url })
  | (call, w) :: calls =>
    let (history, r) := afterCalls o signal url calls
    (call.turn o signal w r :: history, call.after o signal w r)

theorem reached_afterCalls (o : Orchestrator σ) (signal : SignalId) (url : String)
    (calls : List (PhaseCall × World σ)) :
    Reached (afterCalls o signal url calls).1 (afterCalls o signal url calls).2 := by
  induction calls with
  | nil => exact .new url
  | cons c calls ih => exact .called o signal c.2 c.1 ih

/-- If the verdict is that the project passed, then nothing is found in its files. -/
def VerdictHolds (r : Run) : Prop :=
  ∀ v, r.verification = some v → v.passed = true → staticCheck r.generatedFiles = []

theorem verdictHolds_of_none {r : Run} (h : r.verification = none) : r.VerdictHolds := by
  intro v hv
  rw [h] at hv
  exact absurd hv (by simp only [reduceCtorEq, not_false_eq_true])

theorem generatedFiles_of_tree_eq_nil {r : Run} (h : r.tree = []) : r.generatedFiles = ∅ := by
  rw [generatedFiles, h]
  rfl

end Run

/-- What a call leaves: a verdict that holds, or what is left of an interrupted one. -/
theorem PhaseCall.ends_task (o : Orchestrator σ) (signal : SignalId) (w : World σ) {r : Run}
    (h : Tree.Rooted "" r.tree) (call : PhaseCall) :
    Ends (call.task o signal) (w, r) (fun _ s => Tree.Rooted "" s.2.tree ∧ s.2.VerdictHolds)
      (fun stop s => r.Interrupted stop s.2) := by
  cases call with
  | scaffold =>
      refine (o.ends_scaffold signal w r).mono (fun _ s hs => ?_) (fun stop s hs => ?_)
      · exact ⟨hs.1, Run.verdictHolds_of_none hs.2⟩
      · exact ⟨hs.2, hs.1.symm ▸ h, Or.inl hs.1⟩
  | generate =>
      rw [task, ends_bind]
      refine (o.ends_generate signal w h).mono (fun _ s hs => ?_) (fun stop s hs => hs)
      exact ⟨hs.1, Run.verdictHolds_of_none hs.2⟩
  | verify =>
      rw [task, ends_bind]
      refine (o.ends_verify signal w h).mono (fun v s hs => ?_) (fun stop s hs => ?_)
      · refine ⟨hs.2.1, fun v' hv' hpassed => hs.2.2 ?_⟩
        rw [hs.1, Option.some.injEq] at hv'
        rw [hv']
        exact hpassed
      · rw [hs]
        exact ⟨rfl, h, Or.inl rfl⟩
  | regenerate path instructions =>
      rw [task, ends_bind]
      refine (o.ends_regenerate path instructions signal w h).mono (fun _ s hs => ?_)
        (fun stop s hs => hs)
      exact ⟨hs.1, Run.verdictHolds_of_none hs.2⟩

namespace Run

/-- What is left of an interrupted call: a verdict that holds if it did before, unless the call was
    cancelled and has left other files. -/
theorem Interrupted.verdictHolds {r r' : Run} {stop : Stop MigrationError}
    (h : r.Interrupted stop r') (hbefore : r.VerdictHolds)
    (hnot : ¬ Turn.Spoils ⟨some stop, r.generatedFiles, r'.generatedFiles⟩) : r'.VerdictHolds := by
  rcases h with ⟨hverdict, -, hsame | hlost | hcancelled⟩
  · intro v hv hpassed
    rw [generatedFiles, hsame]
    exact hbefore v (hverdict ▸ hv) hpassed
  · intro v hv hpassed
    rw [generatedFiles_of_tree_eq_nil hlost]
    rfl
  · intro v hv hpassed
    have hfiles : r'.generatedFiles = r.generatedFiles := by
      by_cases he : r'.generatedFiles = r.generatedFiles
      · exact he
      · exact absurd ⟨congrArg some hcancelled, he⟩ hnot
    rw [hfiles]
    exact hbefore v (hverdict ▸ hv) hpassed

/-- One more call keeps the tree rooted, and the verdict right unless the call spoils it. -/
theorem sound_after {history : List Turn} {r : Run} (o : Orchestrator σ) (signal : SignalId)
    (w : World σ) (call : PhaseCall) (hrooted : Tree.Rooted "" r.tree)
    (h : ¬ Spoiled history → r.VerdictHolds) :
    Tree.Rooted "" (call.after o signal w r).tree ∧
      (¬ Spoiled (call.turn o signal w r :: history) → (call.after o signal w r).VerdictHolds) := by
  have hends := call.ends_task o signal w hrooted
  unfold Ends at hends
  unfold PhaseCall.turn PhaseCall.after PhaseCall.stop?
  cases htask : call.task o signal (w, r) with
  | ok a s =>
      rw [htask] at hends
      exact ⟨hends.1, fun _ => hends.2⟩
  | error stop s =>
      rw [htask] at hends
      -- The call adds to the history, so it is spoiled if it was before or if the call spoils it.
      have hfailed : some stop ≠ none := by
        simp only [ne_eq, reduceCtorEq, not_false_eq_true]
      refine ⟨hends.2.1, fun hnot => ?_⟩
      refine hends.verdictHolds (h fun hspoiled => hnot ?_) (fun hspoils => hnot ?_)
      · exact ⟨hfailed, Or.inr hspoiled⟩
      · exact ⟨hfailed, Or.inl hspoils⟩

/-- In every run that calls lead to the tree is rooted, and the verdict holds unless a cancelled call
    has left other files since the last result. -/
theorem Reached.sound {history : List Turn} {r : Run} (h : Reached history r) :
    Tree.Rooted "" r.tree ∧ (¬ Spoiled history → r.VerdictHolds) := by
  induction h with
  | new url => exact ⟨Tree.rooted_nil "", fun _ => verdictHolds_of_none rfl⟩
  | @analyzed σ o url signal w w' r h =>
      have hends := o.ends_analyze url signal w
      unfold Ends at hends
      rw [h] at hends
      rcases hends.1 with ⟨htree, hverification, -⟩
      exact ⟨htree.symm ▸ Tree.rooted_nil "", fun _ => verdictHolds_of_none hverification⟩
  | called o signal w call h ih => exact sound_after o signal w call ih.1 ih.2

/-- The verdict that a project passed is right about the files that are finished, whatever calls there
    were and however they ended, unless a cancelled call has left other files since the last result. -/
theorem static_of_passed {history : List Turn} {r : Run} {v : Verdict} (h : Reached history r)
    (hnot : ¬ Spoiled history) (hv : r.verification = some v) (hpassed : v.passed = true) :
    staticCheck r.generatedFiles = [] :=
  h.sound.2 hnot v hv hpassed

/-- A service that gives the replies that it has in store, with an orchestrator that asks it. -/
def fromStore : Orchestrator (List (Reply ServiceError Response)) where
  service := .ofRequest (fun _ _ replies => (replies.headD ⟨[], .error .aborted⟩, replies.tail))
    fun _ => true
  repository :=
    { list := fun _ _ replies => (⟨[], .error (.notFound "")⟩, replies)
      read := fun _ _ _ replies => (⟨[], .error (.notFound "")⟩, replies) }
  config := { verificationPasses := 1 }

/-- A project of two files, of which one imports the other, is planned, generated and found to be
    right. The latest call comes first. -/
def passedCalls : List (PhaseCall × World (List (Reply ServiceError Response))) :=
  [(.verify, { state := [⟨[], .ok (.ofText "\x7b\x7d")⟩] }),
    (.generate, { state := [⟨[], .ok (.ofText "1")⟩, ⟨[], .ok (.ofText "import './a'")⟩] }),
    (.scaffold, { state := [⟨[], .ok (.ofText "[\"a.ts\", \"b.ts\"]")⟩] })]

/-- The verdict holds after a call for a file that is not planned, which fails. -/
theorem static_of_passed_unknown :
    let reached := afterCalls fromStore 0 ""
      ((.regenerate "c.ts" none, { state := [] }) :: passedCalls)
    reached.1.head?.bind Turn.stop? = some (.failed (.unknownTarget "c.ts")) ∧
      staticCheck reached.2.generatedFiles = [] := by
  refine ⟨by decide +kernel, ?_⟩
  refine static_of_passed (v := ⟨true, [], [], 0, 1⟩) (reached_afterCalls _ _ _ _) ?_ ?_ rfl
  · decide +kernel
  · decide +kernel

/-- The verdict does not hold after a call for a file was cancelled that had begun on it. The file is
    taken back, and the import of it by the other is unresolved. -/
theorem passed_after_cancelled :
    let reached := afterCalls fromStore 0 ""
      ((.regenerate "a.ts" none, { state := [⟨[.cancel 0, .wait 1], .ok (.ofText "2")⟩] }) ::
        passedCalls)
    Reached reached.1 reached.2 ∧ reached.2.verification.map (·.passed) = some true ∧
      staticCheck reached.2.generatedFiles = ["b.ts: unresolved import './a'"] := by
  refine ⟨reached_afterCalls _ _ _ _, ?_⟩
  decide +kernel

end Run

end Replatform
