import Replatform.Proofs.Migration.History

/-!
# A Scaffold That Is Not Planned

What is left of a run when no scaffold could be planned for it. Planning reads the legacy files,
builds their graph and asks the service, and only then does the run get a new tree. So one would
expect that a call which comes to nothing leaves the run as it was.

It does as long as it has not read the files. Afterwards the run has the new files and the new
graph, next to the old tree and the old plan, whatever becomes of the request. `scaffold_failed`
says which run that is, and that the call is without a trace if and only if what it has read is
what the run had already. In the run of `not_allOrNothing` a target is matched to a legacy file that
the run no longer has.

## Main definitions

* `Orchestrator.reading`: The part of the planning that reads.
* `Run.reread`: A run with legacy files and their graph.

## Theorems

* `Orchestrator.ends_adopt_planned`: What is left of a run when a plan is asked for.
* `Orchestrator.ends_scaffold_planned`: Where a scaffold comes from.
* `Orchestrator.scaffold_failed`: What is left of it when a scaffold is to be planned.
* `Orchestrator.not_allOrNothing`: A call that fails and leaves its traces.
-/

namespace Replatform

variable {σ : Type}

/-- The run with legacy files that were read, and with their graph. -/
def Run.reread (sources : SourceFiles) (r : Run) : Run :=
  { r with sources, graph := .build sources.entries }

namespace Orchestrator

variable (o : Orchestrator σ) (signal : SignalId)

/-- What is done for a scaffold until the legacy files are read. -/
def reading (r : Run) : Work σ MigrationError SourceFiles := do
  let selected := Priority.first r.scopedFiles o.config.scaffoldFileLimit
  Work.log .scaffold .info ("Reading " ++ toString selected.length ++ " legacy files")
  o.readSources r.repoUrl signal selected ∅

/-- The failure of a request is not one of the repository. -/
theorem ends_call_ne_repository (request : Request) (w : World σ) :
    Ends (o.call signal request) w (fun _ _ => True)
      (fun stop _ => ∀ e, stop ≠ .failed (.repository e)) := by
  rw [call, Work.asPhase, Work.ends_mapError]
  refine (ends_any _ w).mono (fun _ _ _ => trivial) (fun stop _ _ => ?_)
  cases stop with
  | dropped => simp only [ne_eq, reduceCtorEq, not_false_eq_true, implies_true]
  | failed e =>
      simp only [MigrationError.ofService]
      split_ifs <;>
        simp only [ne_eq, Stop.failed.injEq, reduceCtorEq, not_false_eq_true, implies_true]

/-- A plan that is asked for replaces what belonged to another one. If there is none, the files that
    it was to be made for are left. -/
theorem ends_adopt_planned (sources : SourceFiles) (request : Request) (started : Nat) (w : World σ)
    (r : Run) :
    Ends (o.adopt sources request signal started) (w, r)
      (fun _ s => ∃ response w' planned, o.call signal request w = .ok response w' ∧
        planned = Answer.plan response.textOrEmpty ∧ planned ≠ [] ∧
        s.2 = (withScaffold planned { r with sources }).record .scaffold started s.1.now)
      (fun stop s => s.2 = { r with sources } ∧ ∀ e, stop ≠ .failed (.repository e)) := by
  rw [adopt, ends_bind, WorkOn.ends_change, ends_bind, WorkOn.ends_ofWork]
  have hcall := (o.ends_call_ne_repository signal request w).and (Ends.self _ w)
  refine hcall.mono (fun response w₁ hresponse => ?_) (fun stop w₁ hstop => ⟨rfl, hstop.1⟩)
  simp only []
  generalize hplanned : Answer.plan response.textOrEmpty = planned
  by_cases hempty : planned.isEmpty = true
  · rw [if_pos hempty, ends_bind, WorkOn.ends_log, WorkOn.ends_fail]
    refine ⟨rfl, ?_⟩
    simp only [ne_eq, Stop.failed.injEq, reduceCtorEq, not_false_eq_true, implies_true]
  · rw [if_neg hempty, ends_bind, WorkOn.ends_change, ends_bind, WorkOn.ends_held, ends_bind,
      WorkOn.ends_log, ends_bind, WorkOn.ends_ofWork]
    exact ⟨response, w₁, planned, hresponse.2, hplanned.symm,
      fun h => hempty (List.isEmpty_iff.mpr h), rfl⟩

/-- A scaffold is planned by an answer to a request that was made for the files that were read. If it
    is not, they could not be read, or the run has them. -/
theorem ends_scaffold_planned (w : World σ) (r : Run) :
    Ends (o.scaffold signal) (w, r)
      (fun _ s => ∃ sources w' w₁ response w₂ planned, o.reading signal r w = .ok sources w' ∧
        o.call signal (o.planRequest r (Context.overview o.config.context sources)) w₁ =
          .ok response w₂ ∧
        planned = Answer.plan response.textOrEmpty ∧ planned ≠ [] ∧
        s.2 = (withScaffold planned (r.reread sources)).record .scaffold w.now s.1.now)
      (fun stop s => o.reading signal r w = .error stop s.1 ∧ s.2 = r ∨
        (∃ sources w', o.reading signal r w = .ok sources w' ∧ s.2 = r.reread sources) ∧
          ∀ e, stop ≠ .failed (.repository e)) := by
  rw [scaffold, ends_bind, WorkOn.ends_ofWork]
  change Ends _ (w, r) _ _
  rw [ends_bind, WorkOn.ends_held, ends_bind, WorkOn.ends_log]
  simp only []
  rw [ends_bind, WorkOn.ends_ofWork]
  refine (Ends.self _ _).mono (fun sources w₁ hread => ?_) (fun stop w₁ hread => Or.inl ⟨hread, rfl⟩)
  rw [ends_bind, WorkOn.ends_change, ends_bind, WorkOn.ends_log]
  generalize hoverview : Context.overview o.config.context sources = overview
  have hadopt := fun w₂ : World σ => o.ends_adopt_planned signal sources (o.planRequest r overview)
    w.now w₂ { r with graph := .build sources.entries }
  by_cases hlong : overview.truncated = true
  · rw [if_pos hlong, ends_bind, WorkOn.ends_log]
    refine (hadopt _).mono (fun _ s hs => ?_) (fun stop s hs => ?_)
    · rcases hs with ⟨response, w₃, planned, hcall, hs⟩
      rw [← hoverview] at hcall
      exact ⟨sources, w₁, _, response, w₃, planned, hread, hcall, hs⟩
    · exact Or.inr ⟨⟨sources, w₁, hread, hs.1⟩, hs.2⟩
  · rw [if_neg hlong]
    refine (hadopt _).mono (fun _ s hs => ?_) (fun stop s hs => ?_)
    · rcases hs with ⟨response, w₃, planned, hcall, hs⟩
      rw [← hoverview] at hcall
      exact ⟨sources, w₁, _, response, w₃, planned, hread, hcall, hs⟩
    · exact Or.inr ⟨⟨sources, w₁, hread, hs.1⟩, hs.2⟩

/-- A scaffold is planned for the files that were read. If it is not, they could not be read, or the
    run has them. -/
theorem ends_scaffold_reading (w : World σ) (r : Run) :
    Ends (o.scaffold signal) (w, r)
      (fun _ s => ∃ sources w' planned, o.reading signal r w = .ok sources w' ∧ planned ≠ [] ∧
        s.2 = (withScaffold planned (r.reread sources)).record .scaffold w.now s.1.now)
      (fun stop s => o.reading signal r w = .error stop s.1 ∧ s.2 = r ∨
        (∃ sources w', o.reading signal r w = .ok sources w' ∧ s.2 = r.reread sources) ∧
          ∀ e, stop ≠ .failed (.repository e)) := by
  refine (o.ends_scaffold_planned signal w r).mono (fun _ s hs => ?_) (fun _ _ hs => hs)
  rcases hs with ⟨sources, w', -, -, -, planned, hread, -, -, hplanned⟩
  exact ⟨sources, w', planned, hread, hplanned⟩

/-- A scaffold is planned for the files that were read. If it is not, the run is as it was when they
    could not be read, and has them with their graph when they could. -/
theorem scaffold_failed (w : World σ) (r : Run) :
    Ends (o.scaffold signal) (w, r)
      (fun _ s => ∃ sources w' planned, o.reading signal r w = .ok sources w' ∧ planned ≠ [] ∧
        s.2 = (withScaffold planned (r.reread sources)).record .scaffold w.now s.1.now)
      (fun stop s =>
        (∀ stop' w', o.reading signal r w = .error stop' w' → stop = stop' ∧ s.2 = r) ∧
        (∀ sources w', o.reading signal r w = .ok sources w' →
          (∀ e, stop ≠ .failed (.repository e)) ∧ s.2 = r.reread sources) ∧
        (s.2 = r ↔ ∀ sources w', o.reading signal r w = .ok sources w' →
          r.sources = sources ∧ r.graph = .build sources.entries)) := by
  refine (o.ends_scaffold_reading signal w r).mono (fun _ _ hs => hs) ?_
  rintro stop s (⟨hread, hs⟩ | ⟨⟨sources, w', hread, hs⟩, hstop⟩)
  · rw [hread]
    refine ⟨fun stop' w' he => ?_, nofun, fun _ => nofun, fun _ => hs⟩
    exact ⟨(EStateM.Result.error.inj he).1, hs⟩
  · rw [hread]
    refine ⟨nofun, fun sources' w'' he => ?_, fun hsame sources' w'' he => ?_, fun hall => ?_⟩
    · rw [← (EStateM.Result.ok.inj he).1]
      exact ⟨hstop, hs⟩
    · rw [← (EStateM.Result.ok.inj he).1]
      have hr : r = r.reread sources := hsame.symm.trans hs
      exact ⟨congrArg Run.sources hr, congrArg Run.graph hr⟩
    · rcases hall sources w' rfl with ⟨hsources, hgraph⟩
      rw [hs, Run.reread, ← hgraph, ← hsources]

/-- An orchestrator that reads the same from every legacy file. -/
def reads (content : Except RepositoryError String) :
    Orchestrator (List (Reply ServiceError Response)) :=
  { Run.fromStore with
    repository :=
      { list := fun _ _ replies => (⟨[], .error (.notFound "")⟩, replies)
        read := fun _ _ _ replies => (⟨[], content⟩, replies) } }

-- The runs and the world are irreducible so that nothing is run while the statements about them are
-- read.

/-- A run with one legacy file that was not read yet. -/
@[irreducible] def unread : Run :=
  { scopedFiles := ["main.js"] }

/-- A run with one target, which is matched to the one legacy file. -/
@[irreducible] def matchedPair : Run :=
  Run.reread (Table.ofList [("main.js", "1")])
    { scopedFiles := ["main.js"]
      targets := ["main.ts"]
      tree := Tree.build ["main.ts"]
      matched := Table.ofList [("main.ts", .ofPrimary "main.js" 1.0)]
      schedule := { order := ["main.ts"] } }

/-- A plan is empty. -/
@[irreducible] def planless : World (List (Reply ServiceError Response)) :=
  { state := [⟨[], .ok (.ofText "[]")⟩] }

/-- A call that fails leaves files that were not there before. It also takes files away that are
    gone from the repository, and leaves the targets matched to them. -/
theorem not_allOrNothing :
    Ends ((reads (.ok "1")).scaffold 0) (planless, unread) (fun _ _ => False)
        (fun stop s => stop = .failed .emptyScaffold ∧ unread.sources.keys = [] ∧
          s.2.sources.keys = ["main.js"]) ∧
      Ends ((reads (.error (.notFound "main.js"))).scaffold 0) (planless, matchedPair)
        (fun _ _ => False)
        (fun stop s => stop = .failed .emptyScaffold ∧ matchedPair.sources.keys = ["main.js"] ∧
          s.2.sources.keys = [] ∧
          (s.2.matched.get? "main.ts").bind Match.primary = some "main.js") := by
  decide +kernel

end Orchestrator

end Replatform
