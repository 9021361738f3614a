import Replatform.Proofs.Migration.InStep
import Replatform.Proofs.Session.Handed
import Replatform.Rehearsal.Stage

/-!
# Two Ways to Run a Migration

All phases can be gone through in a row, with nothing but the run to hand on from one to the next. A
session goes through the same phases, but keeps the run where somebody can look at it, says which phase
is going on, and has a signal of its own. The sequence of the phases, the rule that nothing is verified
if nothing was generated, and the way in which failures end a migration are there twice.

In one world and under one signal both ways do the same. That is a matter of what is in the hands: the
session holds the run in its place, and the other way hands it over. But somebody who has the choice has
a signal of their own for the one, and is given one for the other, by which time some time has passed.
`Pairing` is made for that, and phases in step are what carries the result from one world to another.

A session that is asked to run a migration under a signal that is aborted runs another one. The two ways
are therefore compared from the moment at which the phases begin.

## Main definitions

* `Session.Agrees`: What is the same in whichever way a migration is run.

## Theorems

* `Session.ends_settle_phases_of_runAll`: The two ways in one world.
* `Session.agrees_of_alike`: The two ways in worlds that are alike.
-/

namespace Replatform

variable {σ : Type}

namespace Session

variable {o : Orchestrator σ} {w : World σ} {s : Session}

/-- To go through all phases in a row is to go on from the analysis with the run that it has come to. -/
theorem ends_runAll (o : Orchestrator σ) (url : String) (signal : SignalId)
    (good : Run → World σ → Prop) (bad : Stop MigrationError → World σ → Prop) :
    Ends (o.runAll url signal) w good bad ↔
      Ends (o.analyze url signal) w (fun r w₁ => Ends (onward o signal) (w₁, r)
        (fun _ st => good st.2 st.1) (fun stop st => bad stop st.1)) bad := by
  have hphases : o.runAll url signal = (do
      let run ← o.analyze url signal
      let result ← WorkOn.startingWith run (onward o signal)
      return result.2) := rfl
  simp only [hphases, ends_bind, WorkOn.ends_startingWith, ends_pure]

/-- In one world and under one signal, a session ends as all phases in a row do, and has the run that they
    come to. -/
theorem ends_settle_phases_of_runAll (o : Orchestrator σ) (url : String) (signal : SignalId)
    {good : Unit → World σ × Session → Prop} {bad : Stop MigrationError → World σ × Session → Prop}
    (h : Ends (o.runAll url signal) w (fun r w₁ => good () (w₁, s.keeping r .completed))
      (fun stop w₁ => ∀ s', bad stop (w₁, s'))) :
    Ends (settle (phases o url signal)) (w, s) good bad := by
  rw [ends_runAll] at h
  -- Whatever state the session is left in by a failure or when it is dropped, nothing is asked of it.
  refine ends_settle_phases_or_dropped o url signal (h.mono (fun r w₁ h => ?_) fun stop w₁ h => ?_)
  · refine h.mono (fun _ _ h => h) fun stop st h => ?_
    cases stop with
    | failed e => exact h _
    | dropped => exact fun state => h _
  · cases stop with
    | failed e => exact h _
    | dropped => exact fun state => h _

theorem events_launched (w : World σ) (s : Session) : (launched w s).1.events = w.events := by
  rw [launched]
  by_cases hready : s.armed = true ∧ w.signals.isAborted s.signal = false
  · rw [if_pos hready]
  · rw [if_neg hready]
    change List.filterMap World.eventOf? (List.reverse (.cancelled s.signal :: w.deeds)) = _
    rw [List.reverse_cons, List.filterMap_append]
    exact List.append_nil _

/-- What is the same if the phases are gone through in a session and if they are gone through in a row. -/
structure Agrees (task : WorkOn Session σ MigrationError Unit) (w : World σ) (s : Session)
    (all : Work σ MigrationError Run) (w' : World σ) : Prop where
  /-- The same requests are sent, and the same events are told. -/
  done : World.SameDone w (leaves task (w, s)).1 w' (leaves all w')
  /-- Both come to a result, fail with the same error, or are dropped. -/
  stops : stopOf? task (w, s) = stopOf? all w'
  /-- The run that all phases come to is that of the session, with the time that each phase took. -/
  runs : ∀ r w₁, all w' = .ok r w₁ → (leaves task (w, s)).2.run = some r

section Phases

variable {here there : SignalId} {w' : World σ}

/-- What became of the phases in a session is what became of all phases in a row. -/
theorem ends_settle_phases_of_alike (h : o.Impartial (.between here w there w'))
    (hw : w.Alike (.between here w there w') w') (url : String) :
    Ends (settle (phases o url here)) (w, s)
      (fun _ st => ∃ r w₁, o.runAll url there w' = .ok r w₁ ∧ st.2.run = some r ∧
        st.1.Alike (.between here w there w') w₁)
      (fun stop st => ∃ w₁, o.runAll url there w' = .error stop w₁ ∧
        st.1.Alike (.between here w there w') w₁) := by
  -- From one world to the other with all phases in a row, and in the one world to the session.
  have hends := (Orchestrator.inStep_runAll h url).ends (Work.alike_iff.mpr hw)
  refine ends_settle_phases_of_runAll o url _ (hends.mono ?_ ?_)
  · rintro r w₁ ⟨w₁', hend, halike⟩
    exact ⟨r, w₁', hend, rfl, Work.alike_iff.mp halike⟩
  · rintro stop w₁ ⟨w₁', hend, halike⟩ s'
    exact ⟨w₁', hend, Work.alike_iff.mp halike⟩

/-- The phases do the same in a session and in a row, under signals of which both are live or both are
    aborted. -/
theorem agrees_phases (h : o.Impartial (.between here w there w'))
    (hw : w.Alike (.between here w there w') w') (url : String) :
    Agrees (settle (phases o url here)) w s (o.runAll url there) w' := by
  have hends := ends_settle_phases_of_alike (s := s) h hw url
  rcases hends.ok_or_error with
    ⟨_, st, hhere, r, w₁, hthere, hrun, halike⟩ | ⟨stop, st, hhere, w₁, hthere, halike⟩
  · refine ⟨?_, ?_, fun r' w₂ hall => ?_⟩
    · rw [leaves, leaves, hhere, hthere]
      exact halike.sameDone
    · rw [stopOf?, stopOf?, hhere, hthere]
    · rw [hthere, EStateM.Result.ok.injEq] at hall
      rw [leaves, hhere, ← hall.1]
      exact hrun
  · refine ⟨?_, ?_, fun r' w₂ hall => ?_⟩
    · rw [leaves, leaves, hhere, hthere]
      exact halike.sameDone
    · rw [stopOf?, stopOf?, hhere, hthere]
    · rw [hthere] at hall
      cases hall

end Phases

/-- To run a migration in a session and to go through all phases in a row is the same, from the moment at
    which the phases begin: for every repository and service that do not tell the two apart, whatever
    they answer, and whoever cancels what and when. -/
theorem agrees_of_alike {there : SignalId} {w' : World σ}
    (h : o.Impartial (.between (launched w s).2.signal (launched w s).1 there w'))
    (hw : (launched w s).1.Alike (.between (launched w s).2.signal (launched w s).1 there w') w')
    (url : String) : Agrees (runMigration o url) w s (o.runAll url there) w' := by
  have hphases := agrees_phases (s := (launched w s).2) h hw url
  have hrun := runMigration_eq o url w s
  -- To get ready to run a migration is neither to start nor to tell anything.
  have hdone := hphases.done.of_eq (starts_launched w s) (events_launched w s)
  refine ⟨?_, ?_, ?_⟩
  · rwa [leaves, hrun]
  · rw [stopOf?, hrun]
    exact hphases.stops
  · rw [leaves, hrun]
    exact hphases.runs

/-- A repository with one file in it, and a service that answers with what it has in store, each answer
    after what goes on before it. -/
def fromLeads : Orchestrator (List (Lead × Except ServiceError String)) :=
  { service := .ofRequest (fun caller _ replies =>
      let (lead, result) := replies.headD ({}, .error .aborted)
      (⟨lead.acts caller.signal, result.map .ofText⟩, replies.tail)) fun _ => true
    repository :=
      { list := fun _ _ replies => (⟨[], .ok (Tree.build ["main.js"])⟩, replies)
        read := fun _ _ _ replies => (⟨[], .ok "1"⟩, replies) }
    config := fromShelf.config }

/-- A lead cancels the signal of the request and no other. -/
theorem actAlike_lead {p : Pairing} (hown : p.CancelAlike p.here p.there) (lead : Lead) :
    List.Forall₂ p.ActAlike (lead.acts p.here) (lead.acts p.there) := by
  refine .cons (.wait lead.delay) ?_
  cases lead.cancels with
  | true => exact .cons (.cancel hown) .nil
  | false => exact .nil

theorem impartial_fromLeads {p : Pairing} (hown : p.CancelAlike p.here p.there) :
    fromLeads.Impartial p where
  service := by
    refine .ofRequest (fun r caller caller' hcaller replies => ?_) _
    rcases caller with ⟨signal, aborted, now⟩
    rcases caller' with ⟨signal', aborted', now'⟩
    rcases hcaller with ⟨rfl, rfl, -, -⟩
    exact ⟨⟨actAlike_lead hown _, rfl⟩, rfl⟩
  repository :=
    { list := fun _ _ _ _ _ => ⟨⟨.nil, rfl⟩, rfl⟩
      read := fun _ _ _ _ _ _ => ⟨⟨.nil, rfl⟩, rfl⟩ }

/-- A project of a single file, with the answer to the request for it. -/
def leadsWorld (now : Nat) (file : Lead × Except ServiceError String) :
    World (List (Lead × Except ServiceError String)) :=
  { state := [({ delay := 5 }, .ok "\x7b\x7d"), ({}, .ok "[\"a.ts\"]"), file], now }

/-- A session that was just started, next to a signal in a world in which it is later. In the first
    migration the file fails, so that nothing is verified. The second is cancelled while it waits for the
    file. -/
theorem agrees_of_alike_fromLeads :
    let failing : Lead × Except ServiceError String := ({}, .error (.other "no"))
    let cancelling : Lead × Except ServiceError String := ({ delay := 3, cancels := true }, .ok "1")
    Agrees (runMigration fromLeads "r") (start (leadsWorld 0 failing)).1 (start (leadsWorld 0 failing)).2
        (fromLeads.runAll "r" 7) (leadsWorld 4000 failing) ∧
      stopOf? (fromLeads.runAll "r" 7) (leadsWorld 4000 failing) = none ∧
    Agrees (runMigration fromLeads "r") (start (leadsWorld 0 cancelling)).1
        (start (leadsWorld 0 cancelling)).2 (fromLeads.runAll "r" 7) (leadsWorld 4000 cancelling) ∧
      stopOf? (fromLeads.runAll "r" 7) (leadsWorld 4000 cancelling) = some (.failed .cancelled) := by
  refine ⟨agrees_of_alike (impartial_fromLeads (iff_of_true ?_ ?_)) ?_ "r", by decide +kernel,
    agrees_of_alike (impartial_fromLeads (iff_of_true ?_ ?_)) ?_ "r", by decide +kernel⟩
  · decide +kernel
  · decide +kernel
  · exact World.alike_between rfl rfl .nil rfl rfl rfl
  · decide +kernel
  · decide +kernel
  · exact World.alike_between rfl rfl .nil rfl rfl rfl

end Session

end Replatform
