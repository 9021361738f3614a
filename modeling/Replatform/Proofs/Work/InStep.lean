import Mathlib.Data.List.Forall2
import Replatform.Proofs.Work.HeedingCalls

/-!
# Runs in Step

The same task in two worlds. It runs under a signal of its own in each, the clocks show different
times, and something else was done before. Nothing of this can be told by the task: it looks at
the clock only to see how much time has passed, and at its signal only to see whether it is aborted.

A `Pairing` says which signals belong to each other and by how much the one clock is ahead. Worlds
are alike if they have the same services, cache and dice, and if what happens outside happens at
the same time by the clock of each: a cancellation aborts either both signals or none. Tasks that
are begun in worlds that are alike are `InStep` if they end in the same way, in worlds that are
alike again. What was done on the way is then the same in both, except for the times in the log.

Services and repositories have to do their part. They see the clock and the signal, and a service
that answers by them could tell the runs apart. It is `Impartial` if it does not.

Each way of putting tasks together has a law. The clock is what makes them differ from the laws
for a single run: what comes after a look at the clock is a different task in each of the runs.

## Main definitions

* `Pairing`: Two runs next to each other.
* `World.Alike`, `Alike`: Worlds, and states, that a task cannot tell apart.
* `World.SameDone`: What was done is the same in both runs.
* `InStep`: Tasks that do the same in both runs.
* `Service.Impartial`, `Repository.Impartial`: Answers that do not depend on the run.

## Theorems

* `InStep.bind`, `inStep_get_bind`, `Work.inStep_now_bind`: One thing after another.
* `Work.inStep_elapse`, `Work.inStep_wait`: Time passes in both runs alike.
* `Work.inStep_consult_bind`: What comes after an answer.
* `Service.Impartial.inStep_callRetrying`, `Repository.Impartial.inStep_fetchFile`: Calls.
* `World.Alike.starts`, `World.Alike.events`: What can be seen of the runs.
-/

namespace Replatform

variable {σ τ υ ε δ α β : Type}

/-- An event without the time at which it was told. -/
def Event.undated : Event → Event
  | .log entry => .log { entry with timestamp := Timestamp.ofNanos 0 }
  | e => e

theorem Event.undated_log (time time' : Timestamp) (message : String) (severity : Severity)
    (phase : Phase) :
    (Event.log ⟨time', message, severity, phase⟩).undated =
      (Event.log ⟨time, message, severity, phase⟩).undated :=
  rfl

/-- Two runs next to each other. -/
structure Pairing where
  /-- The signals of the runs. -/
  here : SignalId
  there : SignalId
  /-- The signals whose cancellation aborts them. -/
  roots : List SignalId
  roots' : List SignalId
  /-- By how much the clock of the second run is ahead. -/
  ahead : Int
  /-- What was done before the runs, the latest first. -/
  before : List Deed
  before' : List Deed

namespace Pairing

variable (p : Pairing)

/-- Two worlds in which the runs are begun. -/
def between (here : SignalId) (w : World σ) (there : SignalId) (w' : World σ) : Pairing :=
  { here, there, roots := w.signals.lineage here, roots' := w'.signals.lineage there
    ahead := w'.now - w.now, before := w.deeds, before' := w'.deeds }

/-- It is the same moment in both runs. -/
def TimeAlike (time time' : Nat) : Prop :=
  (time' : Int) = time + p.ahead

/-- Cancelling a signal does the same for its run as cancelling the other one for the other. -/
def CancelAlike (id id' : SignalId) : Prop :=
  id ∈ p.roots ↔ id' ∈ p.roots'

/-- The same happens before an answer. -/
inductive ActAlike : Act → Act → Prop
  | wait (ms : Nat) : ActAlike (.wait ms) (.wait ms)
  | cancel {id id' : SignalId} (h : p.CancelAlike id id') : ActAlike (.cancel id) (.cancel id')

/-- The same step of a streamed reply. -/
inductive BeatAlike : Beat → Beat → Prop
  | act {a a' : Act} (h : p.ActAlike a a') : BeatAlike (.act a) (.act a')
  | chunk (text : String) : BeatAlike (.chunk text) (.chunk text)

/-- The same happens outside at the same time. -/
inductive EntryAlike : Nat × Outside → Nat × Outside → Prop
  | cancel {time time' : Nat} {id id' : SignalId} (htime : p.TimeAlike time time')
      (h : p.CancelAlike id id') : EntryAlike (time, .cancel id) (time', .cancel id')
  | drop {time time' : Nat} (htime : p.TimeAlike time time') :
      EntryAlike (time, .drop) (time', .drop)

/-- The same was done, except for the time at which it was told. -/
inductive DeedAlike : Deed → Deed → Prop
  | told {e e' : Event} (h : e'.undated = e.undated) : DeedAlike (.told e) (.told e')
  | start {d : Deed} (h : d.isStart = true) : DeedAlike d d
  | cancelled {id id' : SignalId} (h : p.CancelAlike id id') :
      DeedAlike (.cancelled id) (.cancelled id')

/-- A service is called at the same moment of the runs. -/
structure CallerAlike (caller caller' : Caller) : Prop where
  signal : caller.signal = p.here
  signal' : caller'.signal = p.there
  aborted : caller'.aborted = caller.aborted
  now : p.TimeAlike caller.now caller'.now

/-- The same answer after the same happened. -/
structure ReplyAlike (r r' : Reply ε α) : Prop where
  acts : List.Forall₂ p.ActAlike r.acts r'.acts
  result : r'.result = r.result

/-- The same streamed answer. -/
structure StreamAlike (s s' : Stream) : Prop where
  beats : List.Forall₂ p.BeatAlike s.beats s'.beats
  failure : s'.failure = s.failure

/-- Both runs get answers that are alike, and are remembered in the same way. -/
def AnswerAlike (like : β → β → Prop) (answer : Caller → σ → β × σ) : Prop :=
  ∀ caller caller', p.CallerAlike caller caller' → ∀ state,
    like (answer caller state).1 (answer caller' state).1 ∧
      (answer caller' state).2 = (answer caller state).2

namespace TimeAlike

variable {p} {a a' b b' : Nat}

theorem add (h : p.TimeAlike a a') (ms : Nat) : p.TimeAlike (a + ms) (a' + ms) := by
  unfold TimeAlike at h ⊢
  omega

theorem max (h : p.TimeAlike a a') (h' : p.TimeAlike b b') : p.TimeAlike (max a b) (max a' b') := by
  unfold TimeAlike at h h' ⊢
  omega

/-- What comes first in one run comes first in the other. -/
theorem lt_iff (h : p.TimeAlike a a') (h' : p.TimeAlike b b') : a' < b' ↔ a < b := by
  unfold TimeAlike at h h'
  omega

/-- As much time passes in one run as in the other. -/
theorem sub_eq (h : p.TimeAlike a a') (h' : p.TimeAlike b b') : b' - a' = b - a := by
  unfold TimeAlike at h h'
  omega

end TimeAlike

theorem EntryAlike.time {p : Pairing} {e e' : Nat × Outside} (h : p.EntryAlike e e') :
    p.TimeAlike e.1 e'.1 := by
  cases h with
  | cancel htime _ => exact htime
  | drop htime => exact htime

end Pairing

/-- A service whose answers do not depend on the run that asks for them. -/
structure Service.Impartial (s : Service σ) (p : Pairing) : Prop where
  request : ∀ r, p.AnswerAlike p.ReplyAlike (s.request · r)
  stream : ∀ r, p.AnswerAlike p.StreamAlike (s.stream · r)

/-- A repository whose files do not depend on the run that asks for them. -/
structure Repository.Impartial (r : Repository σ) (p : Pairing) : Prop where
  list : ∀ url, p.AnswerAlike p.ReplyAlike (r.list · url)
  read : ∀ url path, p.AnswerAlike p.ReplyAlike (r.read · url path)

/-- Two worlds that a task cannot tell apart. -/
structure World.Alike (p : Pairing) (w w' : World σ) : Prop where
  state : w'.state = w.state
  now : p.TimeAlike w.now w'.now
  roots : w.signals.lineage p.here = p.roots
  roots' : w'.signals.lineage p.there = p.roots'
  aborted : w'.signals.isAborted p.there = w.signals.isAborted p.here
  agenda : List.Forall₂ p.EntryAlike w.agenda w'.agenda
  cache : w'.cache = w.cache
  dice : w'.dice = w.dice
  thrown : w'.thrown = w.thrown
  deeds : ∃ done done', w.deeds = done ++ p.before ∧ w'.deeds = done' ++ p.before' ∧
    List.Forall₂ p.DeedAlike done done'

namespace World

variable {p : Pairing} {w w' : World σ}

/-- Two worlds in which the runs are begun. What was done before, the time and the signals may be
    different. -/
theorem alike_between {here there : SignalId} (hstate : w'.state = w.state)
    (haborted : w'.signals.isAborted there = w.signals.isAborted here)
    (hagenda : List.Forall₂ (Pairing.between here w there w').EntryAlike w.agenda w'.agenda)
    (hcache : w'.cache = w.cache) (hdice : w'.dice = w.dice) (hthrown : w'.thrown = w.thrown) :
    w.Alike (.between here w there w') w' where
  state := hstate
  now := by
    change (w'.now : Int) = w.now + (w'.now - w.now)
    omega
  roots := rfl
  roots' := rfl
  aborted := haborted
  agenda := hagenda
  cache := hcache
  dice := hdice
  thrown := hthrown
  deeds := ⟨[], [], rfl, rfl, .nil⟩

theorem Alike.note {d d' : Deed} (h : w.Alike p w') (hd : p.DeedAlike d d') :
    (w.note d).Alike p (w'.note d') := by
  rcases h.deeds with ⟨done, done', hdone, hdone', halike⟩
  exact { h with deeds := ⟨d :: done, d' :: done', congrArg _ hdone, congrArg _ hdone', .cons hd halike⟩ }

theorem Alike.cancel {id id' : SignalId} (h : w.Alike p w') (hid : p.CancelAlike id id') :
    (w.cancel id).Alike p (w'.cancel id') := by
  -- Either both signals are aborted by this, or both are what they were.
  have haborted : (w'.signals.cancel id').isAborted p.there = (w.signals.cancel id).isAborted p.here := by
    by_cases hmem : id ∈ p.roots
    · have hmem' := hid.mp hmem
      rw [← h.roots] at hmem
      rw [← h.roots'] at hmem'
      rw [Signals.isAborted_cancel_of_mem hmem, Signals.isAborted_cancel_of_mem hmem']
    · have hmem' := mt hid.mpr hmem
      rw [← h.roots] at hmem
      rw [← h.roots'] at hmem'
      rw [Signals.isAborted_cancel_of_not_mem hmem, Signals.isAborted_cancel_of_not_mem hmem',
        h.aborted]
  have hcancelled : Alike p { w with signals := w.signals.cancel id }
      { w' with signals := w'.signals.cancel id' } := { h with aborted := haborted }
  exact hcancelled.note (.cancelled hid)

/-- The same was started in both runs. -/
theorem Alike.starts (h : w.Alike p w') :
    ∃ started, w.starts = started ++ p.before.filter Deed.isStart ∧
      w'.starts = started ++ p.before'.filter Deed.isStart := by
  rcases h.deeds with ⟨done, done', hdone, hdone', halike⟩
  -- Deed by deed: only starts count, and they are the same on both sides.
  have hsame : done'.filter Deed.isStart = done.filter Deed.isStart := by
    clear hdone hdone'
    induction halike with
    | nil => rfl
    | cons hd _ ih =>
        cases hd with
        | told _ => exact ih
        | start hstart => rw [List.filter_cons_of_pos hstart, List.filter_cons_of_pos hstart, ih]
        | cancelled _ => exact ih
  refine ⟨done.filter Deed.isStart, ?_, ?_⟩
  · rw [World.starts, hdone, List.filter_append]
  · rw [World.starts, hdone', List.filter_append, hsame]

/-- The same was told in both runs, except for the times at which it was told. -/
theorem Alike.events (h : w.Alike p w') :
    ∃ told told', w.events = p.before.reverse.filterMap eventOf? ++ told ∧
      w'.events = p.before'.reverse.filterMap eventOf? ++ told' ∧
      told'.map Event.undated = told.map Event.undated := by
  rcases h.deeds with ⟨done, done', hdone, hdone', halike⟩
  have hsame : (done'.filterMap eventOf?).map Event.undated =
      (done.filterMap eventOf?).map Event.undated := by
    clear hdone hdone'
    induction halike with
    | nil => rfl
    | @cons d d' _ _ hd _ ih =>
        cases hd with
        | told htold => exact congrArg₂ List.cons htold ih
        | start hstart =>
            have hnone : eventOf? d = none := by
              cases d with
              | told e => exact absurd hstart Bool.false_ne_true
              | _ => rfl
            rw [List.filterMap_cons_none hnone, List.filterMap_cons_none hnone, ih]
        | cancelled _ => exact ih
  refine ⟨done.reverse.filterMap eventOf?, done'.reverse.filterMap eventOf?, ?_, ?_, ?_⟩
  · rw [World.events, hdone, List.reverse_append, List.filterMap_append]
  · rw [World.events, hdone', List.reverse_append, List.filterMap_append]
  · rw [List.filterMap_reverse, List.filterMap_reverse, List.map_reverse, List.map_reverse, hsame]

/-- Of what is started, the requests are what is sent to the service. -/
theorem requests_eq (w : World σ) : w.requests = w.starts.reverse.filterMap requestOf? := by
  rw [starts, ← List.filter_reverse, List.filterMap_filter, requests]
  refine List.filterMap_congr fun d _ => ?_
  cases d with
  | asked r => rfl
  | _ => rfl

/-- The same was done from one world to the next in each of two runs. -/
structure SameDone (w w₁ w' w₁' : World σ) : Prop where
  /-- The same was started, be it a request, a reading or a pause. The latest comes first. -/
  starts : ∃ started, w₁.starts = started ++ w.starts ∧ w₁'.starts = started ++ w'.starts
  /-- The same requests were sent. -/
  requests : ∃ sent, w₁.requests = w.requests ++ sent ∧ w₁'.requests = w'.requests ++ sent
  /-- The same events were told, at the times of each run. -/
  events : ∃ told told', w₁.events = w.events ++ told ∧ w₁'.events = w'.events ++ told' ∧
    told'.map Event.undated = told.map Event.undated

/-- Requests are among what is started, which decides them. -/
theorem sameDone_of_starts {w w₁ w' w₁' : World σ}
    (hstarts : ∃ started, w₁.starts = started ++ w.starts ∧ w₁'.starts = started ++ w'.starts)
    (hevents : ∃ told told', w₁.events = w.events ++ told ∧ w₁'.events = w'.events ++ told' ∧
      told'.map Event.undated = told.map Event.undated) : SameDone w w₁ w' w₁' := by
  have hrequests : ∀ {w w₁ : World σ} {started : List Deed}, w₁.starts = started ++ w.starts →
      w₁.requests = w.requests ++ started.reverse.filterMap requestOf? := by
    intro w w₁ started hstarted
    rw [requests_eq, requests_eq w, hstarted, List.reverse_append, List.filterMap_append]
  refine ⟨hstarts, ?_, hevents⟩
  rcases hstarts with ⟨started, hhere, hthere⟩
  exact ⟨_, hrequests hhere, hrequests hthere⟩

theorem Alike.sameDone {here there : SignalId} {w₁ w₁' : World σ}
    (h : w₁.Alike (.between here w there w') w₁') : SameDone w w₁ w' w₁' :=
  sameDone_of_starts h.starts h.events

theorem SameDone.of_eq {w₀ w₁ w₁' : World σ} (h : SameDone w w₁ w' w₁') (hstarts : w.starts = w₀.starts)
    (hevents : w.events = w₀.events) : SameDone w₀ w₁ w' w₁' :=
  sameDone_of_starts (hstarts ▸ h.starts) (hevents ▸ h.events)

end World

section Laws

open InWorld

variable {S : Type} [InWorld S σ] {p : Pairing}

/-- Two states that a task cannot tell apart: their worlds are alike, and the rest is the same. -/
def Alike (p : Pairing) (s s' : S) : Prop :=
  (world s).Alike p (world s') ∧ s' = move (world s') s

/-- Two tasks ended in the same way, in states that are alike. -/
inductive EndAlike (p : Pairing) : EStateM.Result ε S α → EStateM.Result ε S α → Prop
  | ok (a : α) {s s' : S} (h : Alike p s s') : EndAlike p (.ok a s) (.ok a s')
  | error (e : ε) {s s' : S} (h : Alike p s s') : EndAlike p (.error e s) (.error e s')

/-- Two tasks go in step: begun in states that are alike they end in the same way. -/
def InStep (p : Pairing) (task task' : EStateM ε S α) : Prop :=
  ∀ s s', Alike p s s' → EndAlike p (task s) (task' s')

/-- What became of the one task is what became of the other. -/
theorem InStep.ends {task task' : EStateM ε S α} {s s' : S} (h : InStep p task task')
    (hs : Alike p s s') :
    Ends task s (fun a s₁ => ∃ s₁', task' s' = .ok a s₁' ∧ Alike p s₁ s₁')
      (fun e s₁ => ∃ s₁', task' s' = .error e s₁' ∧ Alike p s₁ s₁') := by
  have hend := h s s' hs
  unfold Ends
  generalize task s = result at hend ⊢
  generalize task' s' = result' at hend ⊢
  cases hend with
  | ok a hs₁ => exact ⟨_, rfl, hs₁⟩
  | error e hs₁ => exact ⟨_, rfl, hs₁⟩

theorem inStep_pure (a : α) : InStep p (pure a : EStateM (Stop ε) S α) (pure a) :=
  fun _ _ hs => .ok a hs

theorem inStep_throw (stop : Stop ε) : InStep p (throw stop : EStateM (Stop ε) S α) (throw stop) :=
  fun _ _ hs => .error stop hs

theorem inStep_modify {change change' : S → S}
    (h : ∀ s s', Alike p s s' → Alike p (change s) (change' s')) :
    InStep p (modify change : EStateM (Stop ε) S PUnit) (modify change') :=
  fun s s' hs => (EndAlike.ok PUnit.unit (h s s' hs) :)

theorem InStep.bind {task task' : EStateM (Stop ε) S α} {next next' : α → EStateM (Stop ε) S β}
    (h : InStep p task task') (hnext : ∀ a, InStep p (next a) (next' a)) :
    InStep p (task >>= next) (task' >>= next') := by
  intro s s' hs
  have hend := h s s' hs
  change EndAlike p (EStateM.bind task next s) (EStateM.bind task' next' s')
  unfold EStateM.bind
  -- Both tasks came to the same value, with which both go on, or both came to nothing.
  generalize task s = result at hend ⊢
  generalize task' s' = result' at hend ⊢
  cases hend with
  | ok a hs₁ => exact hnext a _ _ hs₁
  | error stop hs₁ => exact .error stop hs₁

/-- What comes after a look at the world may see what is different in it. -/
theorem inStep_get_bind {next next' : S → EStateM (Stop ε) S α}
    (h : ∀ s s', Alike p s s' → InStep p (next s) (next' s')) :
    InStep p (get >>= next) (get >>= next') :=
  fun s s' hs => h s s' hs s s' hs

theorem inStep_ite {q : Prop} [Decidable q] {task task' other other' : EStateM (Stop ε) S α}
    (h : InStep p task task') (hother : InStep p other other') :
    InStep p (if q then task else other) (if q then task' else other') := by
  by_cases hq : q
  · rw [if_pos hq, if_pos hq]
    exact h
  · rw [if_neg hq, if_neg hq]
    exact hother

/-- What is done only under a condition, with what comes after it in any case. -/
theorem inStep_ite_bind {q : Prop} [Decidable q] {task task' : EStateM (Stop ε) S Unit}
    {next next' : Unit → EStateM (Stop ε) S α} (h : InStep p task task')
    (hnext : ∀ u, InStep p (next u) (next' u)) :
    InStep p (if q then task >>= next else next ()) (if q then task' >>= next' else next' ()) :=
  inStep_ite (h.bind hnext) (hnext ())

end Laws

namespace Work

variable {p : Pairing}

theorem alike_iff {w w' : World σ} : Alike p w w' ↔ w.Alike p w' :=
  and_iff_left rfl

theorem inStep_fail (e : ε) : InStep p (fail e : Work σ ε α) (fail e) :=
  inStep_throw (.failed e)

theorem inStep_ofExcept (r : Except ε α) : InStep p (ofExcept r : Work σ ε α) (ofExcept r) := by
  cases r with
  | ok a => exact inStep_pure a
  | error e => exact inStep_fail e

theorem inStep_attempt {task task' : Work σ ε α} (h : InStep p task task') :
    InStep p (attempt task : Work σ δ _) (attempt task') := by
  intro w w' hw
  have hend := h w w' hw
  unfold attempt
  generalize task w = result at hend ⊢
  generalize task' w' = result' at hend ⊢
  cases hend with
  | ok a hw₁ => exact .ok _ hw₁
  | error stop hw₁ =>
      cases stop with
      | failed e => exact .ok _ hw₁
      | dropped => exact .error _ hw₁

theorem inStep_mapError (f : ε → δ) {task task' : Work σ ε α} (h : InStep p task task') :
    InStep p (mapError f task) (mapError f task') := by
  intro w w' hw
  have hend := h w w' hw
  unfold mapError
  generalize task w = result at hend ⊢
  generalize task' w' = result' at hend ⊢
  cases hend with
  | ok a hw₁ => exact .ok a hw₁
  | error stop hw₁ =>
      cases stop with
      | failed e => exact .error _ hw₁
      | dropped => exact .error _ hw₁

theorem inStep_asPhase {call call' : Work σ ServiceError α} (h : InStep p call call') :
    InStep p call.asPhase call'.asPhase :=
  inStep_mapError MigrationError.ofService h

/-- The clocks differ, and with them what comes after a look at them. -/
theorem inStep_now_bind {next next' : Nat → Work σ ε α}
    (h : ∀ time time', p.TimeAlike time time' → InStep p (next time) (next' time')) :
    InStep p (now >>= next) (now >>= next') :=
  fun w w' hw => h w.now w'.now (alike_iff.mp hw).now w w' hw

theorem inStep_note {d : Deed} (hd : d.isStart = true) :
    InStep p (note d : Work σ ε Unit) (note d) :=
  inStep_modify fun _ _ hw => alike_iff.mpr ((alike_iff.mp hw).note (.start hd))

theorem inStep_tell (e : Event) : InStep p (tell e : Work σ ε Unit) (tell e) :=
  inStep_modify fun _ _ hw => alike_iff.mpr ((alike_iff.mp hw).note (.told rfl))

/-- A log entry has the time of each run. -/
theorem inStep_log (phase : Phase) (severity : Severity) (message : String) :
    InStep p (log phase severity message : Work σ ε Unit) (log phase severity message) :=
  fun _ _ hw => .ok () (alike_iff.mpr ((alike_iff.mp hw).note (.told (Event.undated_log ..))))

theorem inStep_cancel {id id' : SignalId} (h : p.CancelAlike id id') :
    InStep p (cancel id : Work σ ε Unit) (cancel id') :=
  inStep_modify fun _ _ hw => alike_iff.mpr ((alike_iff.mp hw).cancel h)

theorem inStep_check : InStep (S := World σ) p (check p.here) (check p.there) := by
  intro w w' hw
  have hsame := (alike_iff.mp hw).aborted
  by_cases haborted : w.signals.isAborted p.here = true
  · rw [check_of_aborted haborted, check_of_aborted (hsame.trans haborted)]
    exact .error _ hw
  · have hlive := Bool.eq_false_iff.mpr haborted
    rw [check_of_live hlive, check_of_live (hsame.trans hlive)]
    exact .ok () hw

theorem inStep_draw : InStep p (draw : Work σ ε Nat) draw := by
  intro w w' hw
  have halike := alike_iff.mp hw
  have hroll : w'.dice w'.thrown = w.dice w.thrown := by
    rw [halike.dice, halike.thrown]
  unfold draw
  rw [hroll]
  exact .ok _ (alike_iff.mpr { halike with thrown := congrArg (· + 1) halike.thrown })

/-- Time passes in both runs by the clock of each, up to the entry that aborts their signals. -/
theorem inStep_elapse {time time' : Nat} {agenda agenda' : List (Nat × Outside)}
    (htime : p.TimeAlike time time') (hagenda : List.Forall₂ p.EntryAlike agenda agenda') :
    InStep (S := World σ) p (elapse p.here time agenda) (elapse p.there time' agenda') := by
  induction hagenda with
  | nil =>
      refine fun w w' hw => .ok () (alike_iff.mpr ?_)
      exact { alike_iff.mp hw with now := htime, agenda := .nil }
  | @cons entry entry' rest rest' hentry hrest ih =>
      rcases entry with ⟨moment, what⟩
      rcases entry' with ⟨moment', what'⟩
      have hmoment : p.TimeAlike moment moment' := hentry.time
      -- An entry lies beyond the end of the wait in both runs or in none.
      rw [elapse_cons, elapse_cons]
      simp only [htime.lt_iff hmoment]
      refine inStep_ite (inStep_modify fun w w' hw => alike_iff.mpr ?_)
        (InStep.bind (inStep_modify fun w w' hw => alike_iff.mpr ?_) fun _ => ?_)
      · exact { alike_iff.mp hw with now := htime, agenda := .cons hentry hrest }
      · have hnow := (alike_iff.mp hw).now.max hmoment
        exact { alike_iff.mp hw with now := hnow, agenda := hrest }
      · cases hentry with
        | drop _ => exact inStep_throw .dropped
        | cancel _ hid => exact (inStep_cancel hid).bind fun _ => inStep_check.bind fun _ => ih

theorem inStep_wait (ms : Nat) : InStep (S := World σ) p (wait p.here ms) (wait p.there ms) := by
  refine inStep_ite (inStep_check.bind fun _ => inStep_get_bind fun w w' hw => ?_) (inStep_pure ())
  exact inStep_elapse ((alike_iff.mp hw).now.add ms) (alike_iff.mp hw).agenda

theorem inStep_perform {act act' : Act} (h : p.ActAlike act act') :
    InStep (S := World σ) p (perform p.here act) (perform p.there act') := by
  cases h with
  | wait ms => exact inStep_wait ms
  | cancel hid => exact inStep_cancel hid

theorem inStep_performAll {acts acts' : List Act} (h : List.Forall₂ p.ActAlike acts acts') :
    InStep (S := World σ) p (performAll p.here acts) (performAll p.there acts') := by
  induction h with
  | nil => exact inStep_pure ()
  | cons hact _ ih => exact (inStep_perform hact).bind fun _ => ih

/-- What comes after an answer. The answers are alike, but what happened before them may have other
    signals in it. -/
theorem inStep_consult_bind {like : β → β → Prop} {answer : Caller → σ → β × σ}
    {next next' : β → Work σ ε α} (h : p.AnswerAlike like answer)
    (hnext : ∀ b b', like b b' → InStep p (next b) (next' b')) :
    InStep p (consult p.here answer >>= next) (consult p.there answer >>= next') := by
  intro w w' hw
  have halike := alike_iff.mp hw
  let caller' : Caller := ⟨p.there, w'.signals.isAborted p.there, w'.now⟩
  have hcaller : p.CallerAlike ⟨p.here, w.signals.isAborted p.here, w.now⟩ caller' :=
    ⟨rfl, rfl, halike.aborted, halike.now⟩
  rcases h _ _ hcaller w.state with ⟨hlike, hstate⟩
  -- The same is remembered in both runs, so that the answers differ by the callers alone.
  have hconsult : (consult p.there answer >>= next') w' =
      next' (answer caller' w.state).1 { w' with state := (answer caller' w.state).2 } := by
    rw [← halike.state]
    rfl
  rw [hconsult]
  exact hnext _ _ hlike _ _ (alike_iff.mpr { halike with state := hstate })

theorem inStep_pause (policy : RetryPolicy) (number : Nat) :
    InStep (S := World σ) p (pause policy p.here number) (pause policy p.there number) := by
  refine inStep_draw.bind fun roll => inStep_check.bind fun _ => ?_
  exact (inStep_note rfl).bind fun _ => inStep_wait _

theorem inStep_attempts (policy : RetryPolicy) {task task' : Work σ ServiceError α}
    (h : InStep p task task') (left number : Nat) :
    InStep p (attempts policy p.here task left number) (attempts policy p.there task' left number) := by
  induction left generalizing number with
  | zero => exact inStep_check.bind fun _ => h
  | succ left ih =>
      refine inStep_check.bind fun _ => (inStep_attempt h).bind fun result => ?_
      -- Both attempts came to the same, so that both are made again or none is.
      cases result with
      | ok a => exact inStep_pure a
      | error e =>
          refine inStep_ite ?_ (inStep_fail e)
          exact (inStep_pause policy number).bind fun _ => ih (number + 1)

theorem inStep_retrying (policy : RetryPolicy) {task task' : Work σ ServiceError α}
    (h : InStep p task task') :
    InStep p (retrying policy p.here task) (retrying policy p.there task') :=
  inStep_attempts policy h policy.maxRetries 1

end Work

namespace WorkOn

variable {p : Pairing}

/-- With something in the hands, states are alike if the worlds are and the same is in the hands. -/
theorem alike_iff {s s' : World σ × τ} : Alike p s s' ↔ s.1.Alike p s'.1 ∧ s.2 = s'.2 :=
  and_congr_right fun _ => ⟨fun h => (congrArg Prod.snd h).symm, fun h => Prod.ext rfl h.symm⟩

theorem inStep_ofWork {task task' : Work σ ε α} (h : InStep p task task') :
    InStep p (ofWork task : WorkOn τ σ ε α) (ofWork task') := by
  rintro ⟨w, t⟩ ⟨w', t'⟩ hs
  rcases alike_iff.mp hs with ⟨hw, rfl⟩
  have hend := h w w' ⟨hw, rfl⟩
  simp only [ofWork]
  generalize task w = result at hend ⊢
  generalize task' w' = result' at hend ⊢
  cases hend with
  | ok a hw₁ => exact .ok a (alike_iff.mpr ⟨hw₁.1, rfl⟩)
  | error stop hw₁ => exact .error stop (alike_iff.mpr ⟨hw₁.1, rfl⟩)

theorem inStep_fail (e : ε) : InStep p (fail e : WorkOn τ σ ε α) (fail e) :=
  inStep_throw (.failed e)

theorem inStep_tell (e : Event) : InStep p (tell e : WorkOn τ σ ε Unit) (tell e) :=
  inStep_ofWork (Work.inStep_tell e)

theorem inStep_log (phase : Phase) (severity : Severity) (message : String) :
    InStep p (log phase severity message : WorkOn τ σ ε Unit) (log phase severity message) :=
  inStep_ofWork (Work.inStep_log phase severity message)

theorem inStep_check :
    InStep p (check p.here : WorkOn τ σ MigrationError Unit) (check p.there) :=
  inStep_ofWork (Work.inStep_asPhase Work.inStep_check)

theorem inStep_held : InStep p (held : WorkOn τ σ ε τ) held := by
  rintro ⟨w, t⟩ ⟨w', t'⟩ hs
  rcases alike_iff.mp hs with ⟨-, rfl⟩
  exact .ok _ hs

theorem inStep_change (f : τ → τ) : InStep p (change f : WorkOn τ σ ε Unit) (change f) := by
  refine inStep_modify fun s s' hs => ?_
  rcases alike_iff.mp hs with ⟨hw, ht⟩
  exact alike_iff.mpr ⟨hw, congrArg f ht⟩

/-- The clocks differ, and with them what comes after a look at them. -/
theorem inStep_now_bind {next next' : Nat → WorkOn τ σ ε α}
    (h : ∀ time time', p.TimeAlike time time' → InStep p (next time) (next' time')) :
    InStep p (ofWork Work.now >>= next) (ofWork Work.now >>= next') :=
  fun s s' hs => h s.1.now s'.1.now hs.1.now s s' hs

theorem inStep_taking (part : τ → υ) (put : υ → τ → τ) (hole : υ) {task task' : WorkOn υ σ ε α}
    (h : InStep p task task') :
    InStep p (taking part put hole task) (taking part put hole task') := by
  rintro ⟨w, t⟩ ⟨w', t'⟩ hs
  rcases alike_iff.mp hs with ⟨hw, rfl⟩
  have hend := h (w, part t) (w', part t) (alike_iff.mpr ⟨hw, rfl⟩)
  simp only [taking]
  generalize task (w, part t) = result at hend ⊢
  generalize task' (w', part t) = result' at hend ⊢
  cases hend with
  | ok a hs₁ =>
      rcases alike_iff.mp hs₁ with ⟨hw₁, hpart⟩
      exact .ok a (alike_iff.mpr ⟨hw₁, congrArg (put · t) hpart⟩)
  | error stop hs₁ =>
      rcases alike_iff.mp hs₁ with ⟨hw₁, hpart⟩
      -- If the tasks were dropped, the same hole is left in both runs.
      cases stop with
      | failed e => exact .error _ (alike_iff.mpr ⟨hw₁, congrArg (put · t) hpart⟩)
      | dropped => exact .error _ (alike_iff.mpr ⟨hw₁, rfl⟩)

theorem inStep_startingWith (t : τ) {task task' : WorkOn τ σ ε α} (h : InStep p task task') :
    InStep p (startingWith t task) (startingWith t task') := by
  intro w w' hw
  have hend := h (w, t) (w', t) (alike_iff.mpr ⟨hw.1, rfl⟩)
  simp only [startingWith]
  generalize task (w, t) = result at hend ⊢
  generalize task' (w', t) = result' at hend ⊢
  cases hend with
  | @ok a s₁ s₁' hs₁ =>
      rcases alike_iff.mp hs₁ with ⟨hw₁, hheld⟩
      simp only [hheld]
      exact .ok _ (Work.alike_iff.mpr hw₁)
  | error stop hs₁ => exact .error stop (Work.alike_iff.mpr hs₁.1)

end WorkOn

variable {p : Pairing}

namespace Service.Impartial

variable {s : Service σ}

theorem inStep_call (h : s.Impartial p) (r : Request) :
    InStep p (s.call p.here r) (s.call p.there r) := by
  refine (Work.inStep_note rfl).bind fun _ => ?_
  refine Work.inStep_consult_bind (h.request r) fun reply reply' hreply => ?_
  rw [hreply.result]
  exact (Work.inStep_performAll hreply.acts).bind fun _ => Work.inStep_ofExcept reply.result

/-- What comes after a streamed reply. -/
theorem inStep_openStream_bind (h : s.Impartial p) (r : Request)
    {next next' : Stream → Work σ ServiceError α}
    (hnext : ∀ reply reply', p.StreamAlike reply reply' → InStep p (next reply) (next' reply')) :
    InStep p (s.openStream p.here r >>= next) (s.openStream p.there r >>= next') := by
  have hasked : InStep p (Work.note (.asked r) : Work σ ServiceError Unit) (Work.note (.asked r)) :=
    Work.inStep_note rfl
  exact hasked.bind fun _ => Work.inStep_consult_bind (h.stream r) hnext

theorem inStep_callRetrying (h : s.Impartial p) (policy : RetryPolicy) (r : Request) :
    InStep p (s.callRetrying policy p.here r) (s.callRetrying policy p.there r) :=
  Work.inStep_retrying policy (h.inStep_call r)

/-- What goes on before an answer goes on before a stream of it. -/
theorem beatAlike_append {acts acts' : List Act} {beats beats' : List Beat}
    (hacts : List.Forall₂ p.ActAlike acts acts') (hbeats : List.Forall₂ p.BeatAlike beats beats') :
    List.Forall₂ p.BeatAlike (acts.map .act ++ beats) (acts'.map .act ++ beats') := by
  induction hacts with
  | nil => exact hbeats
  | cons hact _ ih => exact .cons (.act hact) ih

/-- A service that streams its whole answer as one piece does its part if its answers do. -/
theorem ofRequest {request : Caller → Request → σ → Reply ServiceError Response × σ}
    (h : ∀ r, p.AnswerAlike p.ReplyAlike (request · r)) (hasKey : σ → Bool) :
    (Service.ofRequest request hasKey).Impartial p where
  request := h
  stream r caller caller' hcaller state := by
    rcases h r caller caller' hcaller state with ⟨⟨hacts, hresult⟩, hstate⟩
    refine ⟨?_, hstate⟩
    simp only [Service.ofRequest, Reply.toStream, hresult]
    cases (request caller r state).1.result with
    | ok response => exact ⟨beatAlike_append hacts (.cons (.chunk _) .nil), rfl⟩
    | error e =>
        have hbeats := beatAlike_append hacts .nil
        rw [List.append_nil, List.append_nil] at hbeats
        exact ⟨hbeats, rfl⟩

end Service.Impartial

namespace Repository.Impartial

variable {r : Repository σ}

theorem inStep_fetch (h : r.Impartial p) (url : String) :
    InStep p (r.fetch p.here url) (r.fetch p.there url) := by
  refine Work.inStep_check.bind fun _ => (Work.inStep_note rfl).bind fun _ => ?_
  refine Work.inStep_consult_bind (h.list url) fun reply reply' hreply => ?_
  rw [hreply.result]
  exact (Work.inStep_performAll hreply.acts).bind fun _ => inStep_pure reply.result

theorem inStep_readFile (h : r.Impartial p) (url path : String) :
    InStep p (r.readFile p.here url path) (r.readFile p.there url path) := by
  refine (Work.inStep_note rfl).bind fun _ => ?_
  refine Work.inStep_consult_bind (h.read url path) fun reply reply' hreply => ?_
  rw [hreply.result]
  refine (Work.inStep_performAll hreply.acts).bind fun _ => ?_
  cases reply.result with
  | ok content =>
      refine InStep.bind (inStep_modify fun w w' hw => ?_) fun _ => inStep_pure _
      have halike := Work.alike_iff.mp hw
      exact Work.alike_iff.mpr { halike with cache := congrArg (·.insert url path content) halike.cache }
  | error e => exact inStep_pure _

/-- The cache is the same in both runs. -/
theorem inStep_fetchFile (h : r.Impartial p) (url path : String) :
    InStep p (r.fetchFile p.here url path) (r.fetchFile p.there url path) := by
  refine Work.inStep_check.bind fun _ => inStep_get_bind fun w w' hw => ?_
  rw [(Work.alike_iff.mp hw).cache]
  -- Both runs find the file or none does.
  cases w.cache.get? url path with
  | some content => exact inStep_pure _
  | none => exact h.inStep_readFile url path

end Repository.Impartial

end Replatform
