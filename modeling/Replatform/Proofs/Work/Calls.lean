import Replatform.Proofs.Work.Deeds

/-!
# What a Call Leaves

What is left of a call to a service once it has ended, in whatever way. A call sends its
request exactly once, and a call with retries sends it at least once and no more often than
the policy allows, unless it is given up before it is made.

Giving up needs a cause. A call fails as aborted only if its signal is aborted by then, or
if the service says so itself; `Service.GivesUp` names services that ever do. The waits
between and inside of attempts are the only places where a signal is looked at, and
`Quiet` says of them all that they send nothing and give up for no other reason.

## Main definitions

* `Quiet`: A task that sends nothing, and fails only with its signal.
* `Service.GivesUp`: A service that may answer that it was aborted.
* `Service.inStore`: A service whose replies are known beforehand.

## Theorems

* `requests_note`: What a deed adds to the requests.
* `quiet_performAll`: What goes on before an answer is quiet.
* `Service.ends_call`: One call is one request.
* `Service.ends_callRetrying`, `Service.ends_attempt_callRetrying`: A call with retries is as
  many as the policy allows.
-/

namespace Replatform

variable {σ : Type}

namespace World

@[simp] theorem requests_note (w : World σ) (d : Deed) :
    (w.note d).requests = w.requests ++ (requestOf? d).toList :=
  seen_note requestOf? w d

@[simp] theorem requests_tell (w : World σ) (e : Event) : (w.tell e).requests = w.requests := by
  simp only [tell, requests_note, requestOf?, Option.toList_none, List.append_nil]

@[simp] theorem requests_cancel (w : World σ) (id : SignalId) :
    (w.cancel id).requests = w.requests := by
  simp only [cancel, requests_note, requestOf?, Option.toList_none, List.append_nil]
  rfl

end World

/-- A task that sends nothing, and fails only when its signal is aborted. -/
def Quiet {α : Type} (signal : SignalId) (task : Work σ ServiceError α) : Prop :=
  ∀ w, Ends task w (fun _ w' => w'.requests = w.requests)
    (fun stop w' => w'.requests = w.requests ∧
      ∀ e, stop = .failed e → e = .aborted ∧ w'.signals.isAborted signal = true)

/-- A service that may answer that it was aborted, whether its caller's signal was or not. -/
def Service.GivesUp (s : Service σ) : Prop :=
  ∃ caller r state, (s.request caller r state).1.result = .error .aborted

/-- A service that has replies in store and gives them one after another. -/
def Service.inStore : Service (List (Reply ServiceError Response)) :=
  .ofRequest (fun _ _ replies => (replies.headD ⟨[], .error (.other "no more")⟩, replies.tail))
    fun _ => true

theorem quiet_pure {α : Type} (signal : SignalId) (a : α) :
    Quiet (σ := σ) signal (pure a : Work σ ServiceError α) :=
  fun _ => rfl

theorem Quiet.bind {α β : Type} {signal : SignalId} {task : Work σ ServiceError α}
    {next : α → Work σ ServiceError β} (htask : Quiet signal task)
    (hnext : ∀ a, Quiet signal (next a)) : Quiet signal (task >>= next) := by
  intro w
  rw [ends_bind]
  refine (htask w).mono (fun a w₁ h₁ => ?_) (fun stop w₁ h => h)
  refine (hnext a w₁).mono (fun b w₂ h₂ => h₂.trans h₁) (fun stop w₂ h => ?_)
  exact ⟨h.1.trans h₁, h.2⟩

namespace Work

theorem ends_note (d : Deed) (w : World σ) (good : Unit → World σ → Prop)
    (bad : Stop ServiceError → World σ → Prop) :
    Ends (note d) w good bad ↔ good () (w.note d) :=
  Iff.rfl

theorem ends_consult {α : Type} (signal : SignalId) (answer : Caller → σ → α × σ) (w : World σ)
    (good : α → World σ → Prop) (bad : Stop ServiceError → World σ → Prop) :
    Ends (consult signal answer) w good bad ↔
      good (answer ⟨signal, w.signals.isAborted signal, w.now⟩ w.state).1
        { w with state := (answer ⟨signal, w.signals.isAborted signal, w.now⟩ w.state).2 } :=
  Iff.rfl

theorem ends_check (signal : SignalId) (w : World σ) (good : Unit → World σ → Prop)
    (bad : Stop ServiceError → World σ → Prop) :
    Ends (check signal) w good bad ↔
      if w.signals.isAborted signal = true then bad (.failed .aborted) w else good () w := by
  rw [check, ends_bind, ends_get, ends_ofExcept, Signals.check]
  by_cases h : w.signals.isAborted signal = true
  · rw [if_pos h, if_pos h]
  · rw [if_neg h, if_neg h]

/-- What comes after a look at the signal begins under a live one. -/
theorem ends_check_bind {α : Type} {signal : SignalId} {next : Unit → Work σ ServiceError α} {w : World σ}
    {good : α → World σ → Prop} {bad : Stop ServiceError → World σ → Prop}
    (haborted : w.signals.isAborted signal = true → bad (.failed .aborted) w)
    (hlive : w.signals.isAborted signal = false → Ends (next ()) w good bad) :
    Ends (check signal >>= next) w good bad := by
  rw [ends_bind, ends_check]
  by_cases h : w.signals.isAborted signal = true
  · rw [if_pos h]
    exact haborted h
  · rw [if_neg h]
    exact hlive (Bool.eq_false_iff.mpr h)

theorem quiet_check (signal : SignalId) : Quiet (σ := σ) signal (check signal) := by
  intro w
  rw [ends_check]
  by_cases h : w.signals.isAborted signal = true
  · rw [if_pos h]
    refine ⟨rfl, fun e he => ⟨?_, h⟩⟩
    simp only [Stop.failed.injEq] at he
    exact he.symm
  · rw [if_neg h]

/-- The agenda may cancel signals and drop the task, but it sends nothing. -/
theorem ends_elapse (watch : SignalId) (time : Nat) (agenda : List (Nat × Outside)) (w : World σ) :
    Ends (elapse watch time agenda) w (fun _ w' => w'.requests = w.requests)
      (fun stop w' => w'.requests = w.requests ∧
        ∀ e, stop = .failed e → e = .aborted ∧ w'.signals.isAborted watch = true) := by
  induction agenda generalizing w with
  | nil => exact rfl
  | cons entry rest ih =>
      rcases entry with ⟨moment, what⟩
      unfold Ends
      rw [elapse]
      by_cases hlate : time < moment
      · rw [if_pos hlate]
        rfl
      · rw [if_neg hlate]
        cases what with
        | drop => exact ⟨rfl, fun e he => absurd he (by simp only [reduceCtorEq, not_false_eq_true])⟩
        | cancel id =>
            simp only []
            by_cases hab : (World.cancel { w with now := max w.now moment, agenda := rest }
                id).signals.isAborted watch = true
            · rw [if_pos hab]
              refine ⟨World.requests_cancel _ id, fun e he => ⟨?_, hab⟩⟩
              simp only [Stop.failed.injEq] at he
              exact he.symm
            · rw [if_neg hab]
              have hrest := ih (World.cancel { w with now := max w.now moment, agenda := rest } id)
              rw [World.requests_cancel] at hrest
              exact hrest

theorem quiet_wait (watch : SignalId) (ms : Nat) : Quiet (σ := σ) watch (wait watch ms) := by
  rw [wait]
  by_cases hms : ms ≠ 0
  · rw [if_pos hms]
    refine (quiet_check watch).bind fun _ w => ?_
    rw [ends_bind, ends_get]
    exact ends_elapse watch _ _ w
  · rw [if_neg hms]
    exact quiet_pure watch ()

theorem quiet_perform (watch : SignalId) (act : Act) : Quiet (σ := σ) watch (perform watch act) := by
  cases act with
  | wait ms => exact quiet_wait watch ms
  | cancel id => exact fun w => World.requests_cancel w id

/-- What goes on before an answer is quiet. -/
theorem quiet_performAll (watch : SignalId) (acts : List Act) :
    Quiet (σ := σ) watch (performAll watch acts) := by
  induction acts with
  | nil => exact quiet_pure watch ()
  | cons act acts ih => exact (quiet_perform watch act).bind fun _ => ih

theorem quiet_pause (policy : RetryPolicy) (signal : SignalId) (number : Nat) :
    Quiet (σ := σ) signal (pause policy signal number) := by
  have hdraw : Quiet (σ := σ) signal (draw : Work σ ServiceError Nat) := fun _ => rfl
  refine hdraw.bind fun roll => (quiet_check signal).bind fun _ => Quiet.bind ?_ fun _ =>
    quiet_wait signal _
  intro w
  change (w.note _).requests = _
  simp only [World.requests_note, World.requestOf?, Option.toList_none, List.append_nil]

end Work

namespace Service

variable (s : Service σ) (signal : SignalId) (r : Request)

/-- One call is one request, and one that fails as aborted has a cause. -/
theorem ends_call (w : World σ) :
    Ends (s.call signal r) w (fun _ w' => w'.requests = w.requests ++ [r])
      (fun stop w' => w'.requests = w.requests ++ [r] ∧
        (stop = .failed .aborted → w'.signals.isAborted signal = true ∨ s.GivesUp)) := by
  have hsent : ∀ w' : World σ, w'.requests = (w.note (.asked r)).requests →
      w'.requests = w.requests ++ [r] := by
    intro w' h
    rw [h, World.requests_note, World.requestOf?, Option.toList_some]
  rw [call, ends_bind, Work.ends_note, ends_bind, Work.ends_consult, ends_bind]
  refine (Work.quiet_performAll signal _ _).mono (fun _ w' h => ?_) (fun stop w' h => ?_)
  · rw [Work.ends_ofExcept]
    cases hresult : (s.request ⟨signal, _, _⟩ r (w.note (.asked r)).state).1.result with
    | ok response => exact hsent w' h
    | error e =>
        refine ⟨hsent w' h, fun he => Or.inr ?_⟩
        simp only [Stop.failed.injEq] at he
        rw [he] at hresult
        exact ⟨_, r, _, hresult⟩
  · exact ⟨hsent w' h.1, fun he => Or.inl (h.2 _ he).2⟩

/-- Attempts send a request each, at least one unless they are given up before, and at most one
    more than may follow. -/
theorem ends_attempts (policy : RetryPolicy) (left number : Nat) (w : World σ) :
    Ends (Work.attempts policy signal (s.call signal r) left number) w
      (fun _ w' => ∃ tries, 1 ≤ tries ∧ tries ≤ left + 1 ∧
        w'.requests = w.requests ++ List.replicate tries r)
      (fun stop w' =>
        (∃ tries, (stop ≠ .failed .aborted → 1 ≤ tries) ∧ tries ≤ left + 1 ∧
          w'.requests = w.requests ++ List.replicate tries r) ∧
        (stop = .failed .aborted → w'.signals.isAborted signal = true ∨ s.GivesUp)) := by
  -- What holds of a world in which the attempts are given up before the next is made.
  have hnone : ∀ (left : Nat) (w : World σ), ∃ tries,
      (Stop.failed ServiceError.aborted ≠ .failed .aborted → 1 ≤ tries) ∧ tries ≤ left + 1 ∧
        w.requests = w.requests ++ List.replicate tries r := by
    intro left w
    refine ⟨0, fun hne => absurd rfl hne, Nat.zero_le _, ?_⟩
    rw [List.replicate_zero, List.append_nil]
  induction left generalizing number w with
  | zero =>
      rw [Work.attempts]
      refine Work.ends_check_bind (fun hab => ⟨hnone _ w, fun _ => Or.inl hab⟩) fun _ => ?_
      refine (s.ends_call signal r w).mono (fun _ w' h => ?_) (fun stop w' h => ?_)
      · exact ⟨1, Nat.le_refl _, Nat.le_refl _, h⟩
      · exact ⟨⟨1, fun _ => Nat.le_refl _, Nat.le_refl _, h.1⟩, h.2⟩
  | succ left ih =>
      rw [Work.attempts]
      refine Work.ends_check_bind (fun hab => ⟨hnone _ w, fun _ => Or.inl hab⟩) fun _ => ?_
      rw [ends_bind, Work.ends_attempt]
      refine (s.ends_call signal r w).mono (fun a w₁ h => ?_) (fun stop w₁ h => ?_)
      · exact ⟨1, Nat.le_refl _, by omega, h⟩
      · -- The first attempt came to nothing, and has sent its request.
        cases stop with
        | dropped => exact ⟨⟨1, fun _ => Nat.le_refl _, by omega, h.1⟩, h.2⟩
        | failed e =>
            simp only []
            by_cases hretry : e.isRetryable = true
            · rw [if_pos hretry, ends_bind]
              refine (Work.quiet_pause policy signal number w₁).mono (fun _ w₂ h₂ => ?_)
                (fun stop w₂ h₂ => ?_)
              · -- The attempts after the pause are counted on top of the first.
                have hsum : ∀ (w₃ : World σ) (tries : Nat),
                    w₃.requests = w₂.requests ++ List.replicate tries r →
                    w₃.requests = w.requests ++ List.replicate (tries + 1) r := by
                  intro w₃ tries h₃
                  rw [h₃, h₂, h.1, List.append_assoc, List.replicate_succ, List.singleton_append]
                refine (ih (number + 1) w₂).mono (fun a w₃ h₃ => ?_) (fun stop w₃ h₃ => ?_)
                · rcases h₃ with ⟨tries, hpos, hle, hreq⟩
                  exact ⟨tries + 1, by omega, by omega, hsum w₃ tries hreq⟩
                · rcases h₃ with ⟨⟨tries, hpos, hle, hreq⟩, hcause⟩
                  exact ⟨⟨tries + 1, fun _ => by omega, by omega, hsum w₃ tries hreq⟩, hcause⟩
              · refine ⟨⟨1, fun _ => Nat.le_refl _, by omega, h₂.1.trans h.1⟩, fun he => ?_⟩
                exact Or.inl (h₂.2 _ he).2
            · rw [if_neg hretry]
              exact ⟨⟨1, fun _ => Nat.le_refl _, by omega, h.1⟩, h.2⟩

/-- A call with retries sends its request at least once, unless it is given up before, and no
    more often than the policy allows. -/
theorem ends_callRetrying (policy : RetryPolicy) (w : World σ) :
    Ends (s.callRetrying policy signal r) w
      (fun _ w' => ∃ tries, 1 ≤ tries ∧ tries ≤ policy.maxRetries + 1 ∧
        w'.requests = w.requests ++ List.replicate tries r)
      (fun stop w' =>
        (∃ tries, (stop ≠ .failed .aborted → 1 ≤ tries) ∧ tries ≤ policy.maxRetries + 1 ∧
          w'.requests = w.requests ++ List.replicate tries r) ∧
        (stop = .failed .aborted → w'.signals.isAborted signal = true ∨ s.GivesUp)) :=
  s.ends_attempts signal r policy policy.maxRetries 1 w

/-- Whoever has the failure of a call as a value gets an answer, unless they are dropped. -/
theorem ends_attempt_callRetrying {ε : Type} (policy : RetryPolicy) (w : World σ) :
    Ends (Work.attempt (s.callRetrying policy signal r) : Work σ ε _) w
      (fun answer w' =>
        (∃ tries, (answer ≠ .error .aborted → 1 ≤ tries) ∧ tries ≤ policy.maxRetries + 1 ∧
          w'.requests = w.requests ++ List.replicate tries r) ∧
        (answer = .error .aborted → w'.signals.isAborted signal = true ∨ s.GivesUp))
      (fun stop _ => stop = .dropped) := by
  rw [Work.ends_attempt]
  refine (s.ends_callRetrying signal r policy w).mono (fun response w' h => ?_)
    (fun stop w' h => ?_)
  · rcases h with ⟨tries, hpos, hle, hreq⟩
    exact ⟨⟨tries, fun _ => hpos, hle, hreq⟩, fun he => by simp only [reduceCtorEq] at he⟩
  · cases stop with
    | dropped => rfl
    | failed e => simpa only [ne_eq, Except.error.injEq, Stop.failed.injEq] using h

end Service

end Replatform
