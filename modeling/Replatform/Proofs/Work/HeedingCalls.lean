import Replatform.Proofs.Work.Heeding
import Replatform.Work.Call

/-!
# Calls That Heed Their Signal

Every wait watches the signal of the call, and ends the moment it is aborted. Between the waits
the signal is asked, before each attempt, before each pause and before a repository is read.
These are all the places where something is started, so that every call to a service or a
repository heeds its signal.

A single request does not ask, and heeds its signal only if it is made while the signal is live.
The attempts at it ask before each.

## Theorems

* `Work.heeding_wait`, `Work.heeding_performAll`: What goes on before an answer.
* `Work.heeding_retrying`: Attempts and the pauses between them.
* `Service.heeding_callRetrying`, `Repository.heeding_fetch`, `Repository.heeding_fetchFile`:
  Calls.
-/

namespace Replatform

variable {σ τ υ ε δ α β : Type} {signal : SignalId} {cut : ε}

namespace Work

theorem mapError_of_failed (f : ε → δ) {task : Work σ ε α} {w w' : World σ} {e : ε}
    (h : task w = .error (.failed e) w') : mapError f task w = .error (.failed (f e)) w' := by
  simp only [mapError, h]

/-- Only the failure is put in other words, and the world that is left is the same. -/
theorem leaves_mapError (f : ε → δ) (task : Work σ ε α) (w : World σ) :
    leaves (mapError f task) w = leaves task w := by
  unfold leaves mapError
  cases task w with
  | ok a w' => rfl
  | error stop w' => cases stop <;> rfl

/-- A failure in other words is a cut in other words. -/
theorem heeding_mapError (f : ε → δ) {task : Work σ ε α} (h : Heeding signal cut task) :
    Heeding signal (f cut) (mapError f task) := by
  intro w
  rw [HeedsAt, ends_mapError]
  refine Ends.mono (h w) ?_ ?_
  · rintro a w' ⟨hheeds, hspared⟩
    refine ⟨hheeds, ?_⟩
    rw [mapError, hspared]
  · rintro stop w' ⟨hheeds, hspared | ⟨rfl, haborted, hstarts⟩⟩
    · cases stop with
      | failed e =>
          refine ⟨hheeds, Or.inl ?_⟩
          rw [mapError, hspared]
      | dropped =>
          refine ⟨hheeds, Or.inl ?_⟩
          rw [mapError, hspared]
    · refine ⟨hheeds, Or.inr ⟨rfl, haborted, ?_⟩⟩
      rw [leaves_mapError]
      exact hstarts

theorem attempt_eq (task : Work σ ε α) (w : World σ) :
    (attempt task : Work σ δ _) w = attempted (task w) := by
  unfold attempt attempted
  cases task w with
  | ok a w' => rfl
  | error stop w' => cases stop <;> rfl

theorem heeding_fail (e : ε) : Heeding signal cut (fail e : Work σ ε α) :=
  heeding_throw _

theorem heeding_ofExcept (r : Except ε α) : Heeding signal cut (ofExcept r : Work σ ε α) := by
  cases r with
  | ok a => exact heeding_pure a
  | error e => exact heeding_fail e

theorem heeding_now : Heeding signal cut (now : Work σ ε Nat) :=
  heeding_of_eq (fun w => w.now) id (fun _ => rfl) (fun _ => rfl) (fun _ => rfl) fun _ => .refl _

theorem heeding_tell (e : Event) : Heeding signal cut (tell e : Work σ ε Unit) :=
  heeding_of_eq (fun _ => ()) (fun w => w.tell e) (fun _ => rfl) (fun _ => rfl) (fun _ => rfl)
    fun w => World.heeds_tell w e

theorem heeding_log (phase : Phase) (severity : Severity) (message : String) :
    Heeding signal cut (log phase severity message : Work σ ε Unit) :=
  heeding_of_eq (fun _ => ()) _ (fun _ => rfl) (fun _ => rfl) (fun _ => rfl)
    fun w => World.heeds_tell w _

theorem heeding_cancel (id : SignalId) : Heeding signal cut (cancel id : Work σ ε Unit) :=
  heeding_of_eq (fun _ => ()) (fun w => w.cancel id) (fun _ => rfl) (fun _ => rfl) (fun _ => rfl)
    fun w => World.heeds_cancel w id

theorem heeding_draw : Heeding signal cut (draw : Work σ ε Nat) :=
  heeding_of_eq (fun w => w.dice w.thrown) (fun w => { w with thrown := w.thrown + 1 })
    (fun _ => rfl) (fun _ => rfl) (fun _ => rfl) fun _ => .of_eq rfl rfl

theorem check_of_aborted {w : World σ} (h : w.signals.isAborted signal = true) :
    check signal w = .error (.failed .aborted) w := by
  change (ofExcept (w.signals.check signal) : Work σ ServiceError Unit) w = _
  rw [Signals.check, if_pos h]
  rfl

theorem check_of_live {w : World σ} (h : w.signals.isAborted signal = false) :
    check signal w = .ok () w := by
  change (ofExcept (w.signals.check signal) : Work σ ServiceError Unit) w = _
  rw [Signals.check, h, if_neg Bool.false_ne_true]
  rfl

/-- To ask the signal before something is started is what makes a task heed it in any case. -/
theorem heeding_check_bind {next : Unit → Work σ ServiceError α}
    (h : HeedingLive signal .aborted (next ())) :
    Heeding signal .aborted (check signal >>= next) := by
  have hcheck : ∀ w : World σ, w.signals.isAborted signal = false →
      (check signal >>= next) w = next () w := fun w hlive => bind_of_ok (check_of_live hlive)
  intro w
  by_cases haborted : w.signals.isAborted signal = true
  · have hcut : (check signal >>= next) w = .error (.failed .aborted) w :=
      bind_of_error (check_of_aborted haborted)
    -- In the other run the signal is live, and the task goes on.
    have hspared := isAborted_spared signal w
    unfold HeedsAt Ends
    rw [hcut]
    refine ⟨.refl w, Or.inr ⟨rfl, haborted, ?_⟩⟩
    rw [leaves, hcheck (spared signal w) hspared]
    refine List.IsSuffix.trans ?_ (h (spared signal w) hspared).heeds.starts
    exact (starts_spared signal w).symm ▸ List.suffix_refl _
  · -- A live signal lets both runs pass.
    have hlive := Bool.eq_false_iff.mpr haborted
    exact (h w hlive).congr (hcheck w hlive) (hcheck _ (isAborted_spared signal w))

theorem heeding_check : Heeding (σ := σ) signal .aborted (check signal) := by
  have h : HeedingLive signal .aborted (pure () : Work σ ServiceError Unit) :=
    (heeding_pure ()).live
  have hbind : (check signal >>= pure : Work σ ServiceError Unit) = check signal := bind_pure _
  exact hbind ▸ heeding_check_bind h

/-- A start is noted while the signal is live. -/
theorem heedingLive_note_bind {d : Deed} {next : Unit → Work σ ε α} (hd : d.isStart = true)
    (hnext : HeedingLive signal cut (next ())) :
    HeedingLive signal cut (note d >>= next) := by
  intro w hlive
  have hsignals : (w.note d).signals = w.signals := rfl
  refine Ends.mono (hnext (w.note d) hlive) ?_ ?_
  · rintro a w' ⟨hheeds, hspared⟩
    exact ⟨(World.heeds_note hd hlive).trans hheeds, hspared⟩
  · rintro stop w' ⟨hheeds, hother⟩
    exact ⟨(World.heeds_note hd hlive).trans hheeds, hother⟩

/-- A service sees that the signal of its caller is live, as it always is in the other run. -/
theorem heedingLive_consult (answer : Caller → σ → β × σ) :
    HeedingLive signal cut (consult signal answer : Work σ ε β) := by
  intro w hlive
  have hsame : (w.sparing signal).signals.isAborted signal = w.signals.isAborted signal :=
    (Signals.isAborted_sparing_self w.signals signal).trans hlive.symm
  refine ⟨.of_eq rfl rfl, ?_⟩
  change consult signal answer (w.sparing signal) = _
  unfold consult
  rw [hsame]
  rfl

/-- To let time pass up to an entry of the agenda, as a task. -/
theorem elapse_cons (watch : SignalId) (time moment : Nat) (what : Outside)
    (rest : List (Nat × Outside)) :
    (elapse watch time ((moment, what) :: rest) : Work σ ServiceError Unit) =
      if time < moment then
        modify fun w => { w with now := time, agenda := (moment, what) :: rest }
      else (do
        modify fun w => { w with now := max w.now moment, agenda := rest }
        match what with
        | .drop => throw .dropped
        | .cancel id =>
          cancel id
          check watch
          elapse watch time rest) := by
  funext w
  rw [elapse]
  by_cases hlate : time < moment
  · rw [if_pos hlate, if_pos hlate]
    rfl
  · rw [if_neg hlate, if_neg hlate]
    cases what with
    | drop => rfl
    | cancel id =>
        -- What the wait does after a cancellation is what a check does.
        change _ = (check watch >>= fun _ => elapse watch time rest)
          (World.cancel { w with now := max w.now moment, agenda := rest } id)
        simp only []
        generalize World.cancel { w with now := max w.now moment, agenda := rest } id = w₁
        by_cases haborted : w₁.signals.isAborted watch = true
        · rw [if_pos haborted]
          exact (bind_of_error (check_of_aborted haborted)).symm
        · rw [if_neg haborted]
          have hlive : check watch w₁ = .ok () w₁ := check_of_live (Bool.eq_false_iff.mpr haborted)
          refine Eq.symm ?_
          exact bind_of_ok hlive

/-- Time passes up to the moment at which the signal is aborted. In the other run it goes on. -/
theorem heeding_elapse (time : Nat) (agenda : List (Nat × Outside)) :
    Heeding (σ := σ) signal .aborted (elapse signal time agenda) := by
  induction agenda with
  | nil =>
      exact heeding_of_eq (fun _ => ()) (fun w => { w with now := time, agenda := [] })
        (fun _ => rfl) (fun _ => rfl) (fun _ => rfl) fun _ => .of_eq rfl rfl
  | cons entry rest ih =>
      -- The clock and the agenda are the same in both runs, so they part only at a check.
      rcases entry with ⟨moment, what⟩
      rw [elapse_cons]
      refine heeding_ite (heeding_modify _ (fun _ => rfl) fun _ => .of_eq rfl rfl) ?_
      refine Heeding.bind (heeding_modify _ (fun _ => rfl) fun _ => .of_eq rfl rfl) fun _ => ?_
      cases what with
      | drop => exact heeding_throw .dropped
      | cancel id => exact (heeding_cancel id).bind fun _ => heeding_check_bind ih.live

theorem heeding_wait (ms : Nat) : Heeding (σ := σ) signal .aborted (wait signal ms) := by
  refine heeding_ite (heeding_check_bind (Heeding.live ?_)) (heeding_pure ())
  exact heeding_read_bind (fun w : World σ => (w.now + ms, w.agenda))
    (fun span => elapse signal span.1 span.2) (fun _ => rfl) fun span => heeding_elapse span.1 span.2

theorem heeding_perform (act : Act) : Heeding (σ := σ) signal .aborted (perform signal act) := by
  cases act with
  | wait ms => exact heeding_wait ms
  | cancel id => exact heeding_cancel id

theorem heeding_performAll (acts : List Act) :
    Heeding (σ := σ) signal .aborted (performAll signal acts) := by
  induction acts with
  | nil => exact heeding_pure ()
  | cons act acts ih => exact (heeding_perform act).bind fun _ => ih

/-- A pause asks the signal before it begins, and its wait watches it. -/
theorem heeding_pause (policy : RetryPolicy) (number : Nat) :
    Heeding (σ := σ) signal .aborted (pause policy signal number) := by
  refine heeding_draw.bind fun roll => heeding_check_bind ?_
  exact heedingLive_note_bind rfl (heeding_wait _).live

/-- Attempts at a task ask the signal before each, and are not repeated once it is aborted. -/
theorem heeding_attempts (policy : RetryPolicy) {task : Work σ ServiceError α}
    (htask : HeedingLive signal .aborted task) (left number : Nat) :
    Heeding signal .aborted (attempts policy signal task left number) := by
  induction left generalizing number with
  | zero => exact heeding_check_bind htask
  | succ left ih =>
      refine heeding_check_bind fun w hlive => ?_
      refine (htask w hlive).attempt_bind (attempt_eq task) (fun result => ?_) fun w' => ?_
      · cases result with
        | ok a => exact heeding_pure a
        | error e =>
            refine heeding_ite ?_ (heeding_fail e)
            exact (heeding_pause policy number).bind fun _ => ih (number + 1)
      · -- A call that was aborted is not made again.
        exact ⟨rfl, rfl, rfl⟩

theorem heeding_retrying (policy : RetryPolicy) {task : Work σ ServiceError α}
    (htask : HeedingLive signal .aborted task) :
    Heeding signal .aborted (retrying policy signal task) :=
  heeding_attempts policy htask policy.maxRetries 1

/-- A call that was aborted is a migration that was cancelled. -/
theorem heeding_asPhase {call : Work σ ServiceError α} (h : Heeding signal .aborted call) :
    Heeding signal .cancelled call.asPhase :=
  heeding_mapError MigrationError.ofService h

end Work

namespace WorkOn

theorem ofWork_of_ok {task : Work σ ε α} {w w' : World σ} {t : τ} {a : α} (h : task w = .ok a w') :
    (ofWork task : WorkOn τ σ ε α) (w, t) = .ok a (w', t) := by
  simp only [ofWork, h]

theorem ofWork_of_error {task : Work σ ε α} {w w' : World σ} {t : τ} {stop : Stop ε}
    (h : task w = .error stop w') :
    (ofWork task : WorkOn τ σ ε α) (w, t) = .error stop (w', t) := by
  simp only [ofWork, h]

/-- To have a failure as a value with something in the hands. -/
theorem ofWork_attempt_eq (task : Work σ ε α) (s : World σ × τ) :
    (ofWork (Work.attempt task) : WorkOn τ σ δ _) s = attempted ((ofWork task : WorkOn τ σ ε α) s) := by
  simp only [ofWork, Work.attempt_eq]
  cases task s.1 with
  | ok a w' => rfl
  | error stop w' => cases stop <;> rfl

section Taking

variable {part : τ → υ} {put : υ → τ → τ} {hole : υ} {task : WorkOn υ σ ε α} {w : World σ} {t : τ}
  {s : World σ × υ}

theorem taking_of_ok {a : α} (h : task (w, part t) = .ok a s) :
    taking part put hole task (w, t) = .ok a (s.1, put s.2 t) := by
  simp only [taking, h]

theorem taking_of_failed {e : ε} (h : task (w, part t) = .error (.failed e) s) :
    taking part put hole task (w, t) = .error (.failed e) (s.1, put s.2 t) := by
  simp only [taking, h]

theorem taking_of_dropped (h : task (w, part t) = .error .dropped s) :
    taking part put hole task (w, t) = .error .dropped (s.1, put hole t) := by
  simp only [taking, h]

end Taking

theorem heeding_fail (e : ε) : Heeding signal cut (fail e : WorkOn τ σ ε α) :=
  heeding_throw _

theorem heeding_held : Heeding signal cut (held : WorkOn τ σ ε τ) :=
  heeding_of_eq Prod.snd id (fun _ => rfl) (fun _ => rfl) (fun _ => rfl) fun _ => .refl _

theorem heeding_change (f : τ → τ) : Heeding signal cut (change f : WorkOn τ σ ε Unit) :=
  heeding_modify _ (fun _ => rfl) fun _ => .refl _

theorem heeding_tell (e : Event) : Heeding signal cut (tell e : WorkOn τ σ ε Unit) :=
  heeding_of_eq (fun _ => ()) (fun s => (s.1.tell e, s.2)) (fun _ => rfl) (fun _ => rfl)
    (fun _ => rfl) fun s => World.heeds_tell s.1 e

theorem leaves_ofWork (task : Work σ ε α) (w : World σ) (t : τ) :
    leaves (ofWork task : WorkOn τ σ ε α) (w, t) = (leaves task w, t) := by
  simp only [leaves, ofWork]
  cases task w with
  | ok a w' => rfl
  | error stop w' => rfl

/-- What is in the hands has no part in a task with empty hands. -/
theorem heeding_ofWork {task : Work σ ε α} (h : Heeding signal cut task) :
    Heeding signal cut (ofWork task : WorkOn τ σ ε α) := by
  rintro ⟨w, t⟩
  rw [HeedsAt, ends_ofWork]
  refine Ends.mono (h w) ?_ ?_
  · rintro a w' ⟨hheeds, hspared⟩
    exact ⟨hheeds, ofWork_of_ok hspared⟩
  · rintro stop w' ⟨hheeds, hspared | ⟨hstop, haborted, hstarts⟩⟩
    · exact ⟨hheeds, Or.inl (ofWork_of_error hspared)⟩
    · refine ⟨hheeds, Or.inr ⟨hstop, haborted, hstarts.trans ?_⟩⟩
      have hleaves := congrArg Prod.fst (leaves_ofWork task (w.sparing signal) t)
      exact (congrArg World.starts hleaves).symm ▸ List.suffix_refl _

theorem heeding_log (phase : Phase) (severity : Severity) (message : String) :
    Heeding signal cut (log phase severity message : WorkOn τ σ ε Unit) :=
  heeding_ofWork (Work.heeding_log phase severity message)

theorem heeding_check : Heeding signal .cancelled (check signal : WorkOn τ σ MigrationError Unit) :=
  heeding_ofWork (Work.heeding_asPhase Work.heeding_check)

/-- A part is put back in both runs alike. -/
theorem heeding_taking (part : τ → υ) (put : υ → τ → τ) (hole : υ) {task : WorkOn υ σ ε α}
    (h : Heeding signal cut task) : Heeding signal cut (taking part put hole task) := by
  rintro ⟨w, t⟩
  have hleaves : ∀ w, (leaves (taking part put hole task) (w, t)).1 =
      (leaves task (w, part t)).1 := by
    intro w
    simp only [leaves, taking]
    cases task (w, part t) with
    | ok a s => rfl
    | error stop s => cases stop <;> rfl
  rw [HeedsAt, ends_taking]
  refine Ends.mono (h (w, part t)) ?_ ?_
  · rintro a s ⟨hheeds, hspared⟩
    change task (w.sparing signal, part t) = _ at hspared
    exact ⟨hheeds, taking_of_ok hspared⟩
  · rintro stop s ⟨hheeds, hspared | ⟨rfl, haborted, hstarts⟩⟩
    · change task (w.sparing signal, part t) = _ at hspared
      cases stop with
      | failed e => exact ⟨hheeds, Or.inl (taking_of_failed hspared)⟩
      | dropped => exact ⟨hheeds, Or.inl (taking_of_dropped hspared)⟩
    · refine ⟨hheeds, Or.inr ⟨rfl, haborted, hstarts.trans ?_⟩⟩
      exact (congrArg World.starts (hleaves (w.sparing signal))).symm ▸ List.suffix_refl _

end WorkOn

namespace Service

variable (s : Service σ)

theorem heedingLive_call (r : Request) : HeedingLive signal .aborted (s.call signal r) := by
  refine Work.heedingLive_note_bind rfl ((Work.heedingLive_consult _).bind fun reply => ?_)
  exact (Work.heeding_performAll reply.acts).bind fun _ => Work.heeding_ofExcept reply.result

theorem heedingLive_openStream (r : Request) :
    HeedingLive signal .aborted (s.openStream signal r) :=
  Work.heedingLive_note_bind rfl (Work.heedingLive_consult _)

theorem heeding_callRetrying (policy : RetryPolicy) (r : Request) :
    Heeding signal .aborted (s.callRetrying policy signal r) :=
  Work.heeding_retrying policy (s.heedingLive_call r)

end Service

namespace Repository

variable (r : Repository σ) (url : String)

theorem heeding_fetch : Heeding signal .aborted (r.fetch signal url) := by
  refine Work.heeding_check_bind ?_
  refine Work.heedingLive_note_bind rfl ((Work.heedingLive_consult _).bind fun reply => ?_)
  exact (Work.heeding_performAll reply.acts).bind fun _ => heeding_pure reply.result

theorem heedingLive_readFile (path : String) :
    HeedingLive signal .aborted (r.readFile signal url path) := by
  refine Work.heedingLive_note_bind rfl ((Work.heedingLive_consult _).bind fun reply => ?_)
  refine (Work.heeding_performAll reply.acts).bind fun _ => ?_
  cases reply.result with
  | ok content =>
      refine Heeding.bind (heeding_modify _ (fun _ => rfl) fun _ => .of_eq rfl rfl) fun _ => ?_
      exact heeding_pure _
  | error e => exact heeding_pure _

/-- A file that is in the cache is not read again. -/
theorem heeding_fetchFile (path : String) :
    Heeding signal .aborted (r.fetchFile signal url path) := by
  refine Work.heeding_check_bind fun w hlive => ?_
  -- The cache is the same in both runs.
  have hcache : (spared signal w).cache = w.cache := rfl
  cases hfound : w.cache.get? url path with
  | some content =>
      refine HeedsAt.congr (heeding_pure (.ok content) w) ?_ ?_
      · rw [get_bind, hfound]
      · rw [get_bind, hcache, hfound]
  | none =>
      refine HeedsAt.congr (r.heedingLive_readFile url path w hlive) ?_ ?_
      · rw [get_bind, hfound]
      · rw [get_bind, hcache, hfound]

end Repository

end Replatform
