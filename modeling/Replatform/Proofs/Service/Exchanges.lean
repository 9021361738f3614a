import Replatform.Proofs.Text
import Replatform.Proofs.Work.Idling
import Replatform.Proofs.Work.Retrying
import Replatform.Service.Http
import Replatform.Work.Call

/-!
# Exchanges and Retries

A call over HTTP that is tried again goes through exchanges with a server, one for each attempt. Here
the server has a script of them, and remembers how many there were. Whatever the script says, what
comes of an exchange is known, and with it which exchange is the last.

That a failed connection is worth another attempt is said nowhere. It follows from the words in front of
its text, which speak of passing trouble, and they do so whatever comes after them
(`isTransient_append`).

A call may also be cut short, as its signal may be aborted at any time and the task be dropped. So it is
said of every end of a call what exchanges there were before it. In a world where nobody aborts the signal
and nobody drops the task, the call is not cut short.

The induction is on the attempts that may still follow. `Underway` is what holds in between: the
exchanges up to then were retried, with a pause after each.

## Main definitions

* `Http.Exchange.Arrives`: A status and a body come back in time.
* `Http.scripted`, `Http.outcome`: A server with a script, and what comes of an exchange with it.
* `Http.Settles`: No exchange is to follow this one.
* `Interrupted`: A task was ended from outside.
* `Http.GoesThrough`: What a call with retries does with a script.
* `Http.Settings.RetriesExchanges`: The same for every script, and what is done without a key.

## Theorems

* `isTransient_append`: A text speaks of passing trouble if it begins with one that does.
* `Http.isRetryable_of_transport`: Another attempt is made when a connection has failed.
* `Http.ends_call`: What one exchange does.
* `Http.ended_attempts`: What is done from any exchange on.
* `Http.callRetrying_of_keyless`: There is no exchange without a key.
* `Http.Settings.retriesExchanges`: How failures over HTTP and retries go together.
-/

namespace Replatform

variable {σ : Type}

section Transient

/-- A text speaks of passing trouble if it begins with one that does. -/
theorem isTransient_append {text : String} (h : isTransient text = true) (rest : String) :
    isTransient (text ++ rest) = true := by
  rw [isTransient, List.any_eq_true] at h ⊢
  rcases h with ⟨phrase, hphrase, hoccurs⟩
  refine ⟨phrase, hphrase, ?_⟩
  rw [Text.occurs_iff] at hoccurs ⊢
  rw [String.toList_append, List.map_append]
  exact hoccurs.trans (List.prefix_append _ _).isInfix

/-- A failed connection is worth another attempt, whatever its text. -/
theorem Http.Fault.isRetryable_error (f : Fault) : f.error.isRetryable = true := by
  have hlate : isTransient "request timed out: " = true := by decide
  have hlost : isTransient "network error: " = true := by decide
  rw [Fault.error, ServiceError.isRetryable]
  cases f.timedOut with
  | true => exact isTransient_append hlate f.text
  | false => exact isTransient_append hlost f.text

example : (Http.Fault.error { text := "no such host" }).isRetryable = true := by decide

end Transient

section Waits

/-- A task was ended from outside: it was dropped, or its signal was aborted. -/
def Interrupted (signal : SignalId) (stop : Stop ServiceError) (w : World σ) : Prop :=
  stop = .dropped ∨ stop = .failed .aborted ∧ w.signals.isAborted signal = true

/-- A task does nothing but wait, and is cut short only if somebody does it. -/
def OnlyWaits (signal : SignalId) (task : Work σ ServiceError Unit) : Prop :=
  ∀ w, Ends task w
    (fun _ w' => Unmoved w w' ∧ (Awaits signal none w → Awaits signal none w'))
    (fun stop w' => Unmoved w w' ∧ Interrupted signal stop w' ∧ ¬ Awaits signal none w)

instance : Composes (Unmoved (σ := σ)) where
  refl := Unmoved.refl
  trans := Unmoved.trans

variable {signal : SignalId}

theorem OnlyWaits.bind {task : Work σ ServiceError Unit} {next : Unit → Work σ ServiceError Unit}
    (h : OnlyWaits signal task) (hnext : OnlyWaits signal (next ())) : OnlyWaits signal (task >>= next) := by
  intro w
  rw [ends_bind]
  refine (h w).mono (fun _ w₁ h₁ => ?_) fun _ _ hcut => hcut
  refine (hnext w₁).mono (fun _ w₂ h₂ => ?_) (fun stop w₂ h₂ => ?_)
  · exact ⟨h₁.1.trans h₂.1, fun hcalm => h₂.2 (h₁.2 hcalm)⟩
  · exact ⟨h₁.1.trans h₂.1, h₂.2.1, fun hcalm => h₂.2.2 (h₁.2 hcalm)⟩

theorem onlyWaits_wait (signal : SignalId) (ms : Nat) : OnlyWaits (σ := σ) signal (Work.wait signal ms) := by
  intro w
  by_cases hcalm : Awaits signal none w
  · -- Nobody cuts the wait short, so it lasts as long as it was meant to.
    rcases (lasts_wait hcalm ms).through nofun with ⟨w', hend, -, hcalm', hmoved⟩
    rw [Ends, hend]
    exact ⟨hmoved, fun _ => hcalm'⟩
  · -- It is not known here how the wait ends, but it does nothing else in any case.
    have hmoved : Leads Unmoved (Work.wait signal ms : Work σ ServiceError Unit) :=
      Work.leads_wait (fun _ _ _ => ⟨rfl, rfl, rfl, rfl⟩)
        (fun _ _ => ⟨rfl, rfl, rfl, (World.seen_note pauseOf? _ _).trans (List.append_nil _)⟩) signal ms
    refine ((hmoved w).and (Work.quiet_wait signal ms w)).mono (fun _ w' h => ?_) (fun stop w' h => ?_)
    · exact ⟨h.1, fun hcalm' => absurd hcalm' hcalm⟩
    · refine ⟨h.1 trivial, ?_, hcalm⟩
      cases stop with
      | dropped => exact Or.inl rfl
      | failed e =>
          rcases h.2.2 e rfl with ⟨rfl, haborted⟩
          exact Or.inr ⟨rfl, haborted⟩

theorem onlyWaits_performAll (signal : SignalId) {acts : List Act} (h : ∀ act ∈ acts, ∃ ms, act = .wait ms) :
    OnlyWaits (σ := σ) signal (Work.performAll signal acts) := by
  induction acts with
  | nil => exact fun w => ⟨.refl w, id⟩
  | cons act acts ih =>
      rw [List.forall_mem_cons] at h
      rcases h.1 with ⟨ms, rfl⟩
      exact (onlyWaits_wait signal ms).bind (ih h.2)

end Waits

namespace Http

section Exchange

variable {x : Exchange} {timeout : Nat}

/-- A status and a body come back in time. -/
structure Exchange.Arrives (x : Exchange) (timeout : Nat) : Prop where
  head : x.headFault = none
  body : x.bodyFault = none
  inTime : x.headWait + x.bodyWait < timeout

/-- The status is one of success. -/
def Exchange.Succeeds (x : Exchange) : Prop :=
  200 ≤ x.status ∧ x.status < 300

theorem Exchange.result_reply_of_arrives (h : x.Arrives timeout) : (x.reply timeout).result = x.result := by
  have htime := h.inTime
  rw [Exchange.reply, if_neg (by omega), h.head]
  simp only []
  rw [if_neg (by omega), h.body]

/-- If nothing comes back in time, the connection has failed. -/
theorem Exchange.result_reply_of_not_arrives (h : ¬ x.Arrives timeout) :
    ∃ f : Fault, (x.reply timeout).result = .error f.error := by
  unfold Exchange.reply
  by_cases hhead : timeout ≤ x.headWait
  · rw [if_pos hhead]
    exact ⟨_, rfl⟩
  · rw [if_neg hhead]
    cases hlost : x.headFault with
    | some f => exact ⟨f, rfl⟩
    | none =>
        simp only []
        by_cases hbody : timeout - x.headWait ≤ x.bodyWait
        · rw [if_pos hbody]
          exact ⟨_, rfl⟩
        · rw [if_neg hbody]
          cases hcut : x.bodyFault with
          | some f => exact ⟨f, rfl⟩
          | none => exact absurd ⟨hlost, hcut, by omega⟩ h

/-- A server does not speak of its connection. -/
theorem Exchange.result_ne_transport (x : Exchange) (text : String) :
    x.result ≠ .error (.transport text) := by
  unfold Exchange.result parse?
  split
  · split <;> exact nofun
  · exact nofun

theorem Exchange.exists_wait_of_mem_acts {act : Act} (h : act ∈ (x.reply timeout).acts) :
    ∃ ms, act = .wait ms := by
  unfold Exchange.reply at h
  split at h
  · exact ⟨_, List.mem_singleton.mp h⟩
  · split at h
    · exact ⟨_, List.mem_singleton.mp h⟩
    · simp only [] at h
      split at h
      · rw [List.mem_cons, List.mem_singleton] at h
        exact h.elim (fun h => ⟨_, h⟩) fun h => ⟨_, h⟩
      · rw [List.mem_cons, List.mem_singleton] at h
        exact h.elim (fun h => ⟨_, h⟩) fun h => ⟨_, h⟩

end Exchange

/-- A server that goes through a script, and remembers how many exchanges there were. -/
def scripted (script : Nat → Exchange) : Post → Nat → Exchange × Nat :=
  fun _ performed => (script performed, performed + 1)

section Script

variable (s : Settings) (script : Nat → Exchange) (policy : RetryPolicy) (signal : SignalId) (w : World Nat)

/-- What comes of an exchange. -/
def outcome (i : Nat) : Except ServiceError Response :=
  ((script i).reply s.timeout).result

/-- No exchange is to follow this one: there may be no other, or it was not a failure that another would
    mend. -/
def Settles (i : Nat) : Prop :=
  i = policy.maxRetries ∨ ∀ e, outcome s script i = .error e → e.isRetryable = false

/-- So many retries were begun, each with a pause that is as long as the policy and chance have it. -/
def Paused (retries : Nat) (w' : World Nat) : Prop :=
  w'.seen pauseOf? = w.seen pauseOf? ++
    (List.range retries).map fun i => policy.delay (w.dice (w.thrown + i)) (i + 1)

/-- So many exchanges were performed and so many retries begun, and nothing else has happened. -/
structure Underway (exchanges retries : Nat) (w' : World Nat) : Prop where
  state : w'.state = exchanges
  dice : w'.dice = w.dice
  thrown : w'.thrown = w.thrown + retries
  paused : Paused policy w retries w'
  retried : ∀ i < retries, ¬ Settles s script policy i

/-- A call was cut short, in a world where somebody does that. -/
def Disturbed (ending : Except (Stop ServiceError) Response) (w' : World Nat) : Prop :=
  ∃ stop, ending = .error stop ∧ Interrupted signal stop w' ∧ ¬ Awaits signal none w

/-- How a call with retries has ended. -/
structure Ended (ending : Except (Stop ServiceError) Response) (w' : World Nat) : Prop where
  retried : ∀ i, i + 1 < w'.state → ¬ Settles s script policy i
  paused : ∃ retries, Paused policy w retries w' ∧ retries ≤ w'.state ∧ w'.state ≤ retries + 1
  ended : (∃ last, w'.state = last + 1 ∧ Paused policy w last w' ∧ Settles s script policy last ∧
      ending = (outcome s script last).mapError .failed) ∨ Disturbed signal w ending w'

/-- What a call with retries has done with a script by its end. -/
structure GoesThrough (ending : Except (Stop ServiceError) Response) (w' : World Nat) : Prop where
  bounded : w'.state ≤ policy.maxRetries + 1
  /-- There is one retry between an exchange and the next, and there may be one that comes to none. -/
  charged : ∃ retries, Paused policy w retries w' ∧ retries ≤ w'.state ∧ w'.state ≤ retries + 1
  /-- What is returned has come of the last exchange, and there was one retry for each exchange before it. -/
  returned : (∃ last, w'.state = last + 1 ∧ Paused policy w last w' ∧
    ending = (outcome s script last).mapError .failed) ∨ Disturbed signal w ending w'
  /-- There is no exchange but after a failure that another one may mend. -/
  retried : ∀ i, i + 1 < w'.state → ∃ e, outcome s script i = .error e ∧ e.isRetryable = true
  /-- No failed connection is returned while another exchange may follow. -/
  transport : ∀ text, ending = .error (.failed (.transport text)) → w'.state = policy.maxRetries + 1
  /-- No busy service is returned while another exchange may follow. -/
  busy : ∀ code text, ending = .error (.failed (.status code text)) →
    code ∈ ServiceError.busyStatuses → w'.state = policy.maxRetries + 1
  /-- An answer that can be read is the last one, and is returned. -/
  read : ∀ i < w'.state, (script i).Arrives s.timeout → (script i).Succeeds →
    ∀ response, parse? (script i).content = .ok response →
      w'.state = i + 1 ∧ (ending = .ok response ∨ Disturbed signal w ending w')
  /-- A failure that is not worth another attempt is the last one. -/
  refused : ∀ i < w'.state, (script i).Arrives s.timeout → ¬ (script i).Succeeds →
    (script i).status ∉ ServiceError.busyStatuses →
    isTransient (failureText (script i).content) = false → w'.state = i + 1
  /-- So is an answer that cannot be read. -/
  unreadable : ∀ i < w'.state, (script i).Arrives s.timeout → (script i).Succeeds →
    ∀ text, parse? (script i).content = .error (.malformed text) → isTransient text = false →
      w'.state = i + 1

end Script

section Call

variable {s : Settings} {signal : SignalId} {r : Request}

/-- What a request comes to, with what the server remembers after it. -/
def sent (s : Settings) (serve : Post → σ → Exchange × σ) (signal : SignalId) (r : Request)
    (w : World σ) : Reply ServiceError Response × σ :=
  send s serve ⟨signal, w.signals.isAborted signal, w.now⟩ r w.state

theorem call_eq (s : Settings) (serve : Post → σ → Exchange × σ) (signal : SignalId) (r : Request)
    (w : World σ) :
    (service s serve).call signal r w =
      (do
        Work.performAll signal (sent s serve signal r w).1.acts
        Work.ofExcept (sent s serve signal r w).1.result)
        { w.note (.asked r) with state := (sent s serve signal r w).2 } :=
  rfl

variable {script : Nat → Exchange} {policy : RetryPolicy} {w w₁ : World Nat}

/-- A world in which an exchange was begun. -/
def exchanged (r : Request) (w : World Nat) : World Nat :=
  { w.note (.asked r) with state := w.state + 1 }

/-- One exchange comes to what the script has for it, unless it is cut short. -/
theorem ends_call (hkey : s.key?.isSome = true) (hlive : w₁.signals.isAborted signal = false) :
    Ends ((service s (scripted script)).call signal r) w₁
      (fun response w₂ => Unmoved (exchanged r w₁) w₂ ∧ outcome s script w₁.state = .ok response ∧
        (Awaits signal none w₁ → Awaits signal none w₂))
      (fun stop w₂ => Unmoved (exchanged r w₁) w₂ ∧
        ((∃ e, stop = .failed e ∧ outcome s script w₁.state = .error e ∧
            (Awaits signal none w₁ → Awaits signal none w₂)) ∨
          Interrupted signal stop w₂ ∧ ¬ Awaits signal none w₁)) := by
  have hsent : sent s (scripted script) signal r w₁ =
      ((script w₁.state).reply s.timeout, w₁.state + 1) := by
    rcases Option.isSome_iff_exists.mp hkey with ⟨key, hkey⟩
    rw [sent, send, hkey, hlive]
    rfl
  have hcall := call_eq s (scripted script) signal r w₁
  rw [hsent] at hcall
  have hcalm : Awaits signal none w₁ ↔ Awaits signal none (exchanged r w₁) :=
    ⟨fun h => ⟨h.plans, h.ahead⟩, fun h => ⟨h.plans, h.ahead⟩⟩
  rw [hcalm, Ends, hcall]
  refine (ends_bind _ _ (exchanged r w₁) _ _).mpr ?_
  refine (onlyWaits_performAll signal (fun _ => Exchange.exists_wait_of_mem_acts) (exchanged r w₁)).mono
    (fun _ w₂ h => ?_) (fun stop w₂ h => ⟨h.1, Or.inr h.2⟩)
  rw [Work.ends_ofExcept]
  cases houtcome : ((script w₁.state).reply s.timeout).result with
  | ok response => exact ⟨h.1, houtcome, h.2⟩
  | error e => exact ⟨h.1, Or.inl ⟨e, rfl, houtcome, h.2⟩⟩

/-- A pause lasts as long as it was to, unless it is cut short. -/
theorem ends_pause (policy : RetryPolicy) (signal : SignalId) (number : Nat) (w : World σ) :
    Ends (Work.pause policy signal number) w
      (fun _ w' => w'.state = w.state ∧ w'.dice = w.dice ∧ w'.thrown = w.thrown + 1 ∧
        w'.seen pauseOf? = w.seen pauseOf? ++ [policy.delay (w.dice w.thrown) number] ∧
        (Awaits signal none w → Awaits signal none w'))
      (fun stop w' => w'.state = w.state ∧ (w'.seen pauseOf? = w.seen pauseOf? ∨
          w'.seen pauseOf? = w.seen pauseOf? ++ [policy.delay (w.dice w.thrown) number]) ∧
        Interrupted signal stop w' ∧ ¬ Awaits signal none w) := by
  have hdraw : Ends (Work.draw : Work σ ServiceError Nat) w
      (fun roll w' => roll = w.dice w.thrown ∧ w' = { w with thrown := w.thrown + 1 })
      (fun _ _ => False) := ⟨rfl, rfl⟩
  rw [Work.pause, ends_bind]
  refine hdraw.mono ?_ fun _ _ h => h.elim
  rintro _ _ ⟨rfl, rfl⟩
  -- The pause is noted only if the signal is live, and the random number is used up in any case.
  refine Work.ends_check_bind (fun haborted => ?_) fun _ => ?_
  · refine ⟨rfl, Or.inl rfl, Or.inr ⟨rfl, haborted⟩, fun h => ?_⟩
    exact Bool.false_ne_true (h.plans.live.symm.trans haborted)
  · rw [ends_bind, Work.ends_note]
    have hnote := World.seen_note pauseOf? { w with thrown := w.thrown + 1 }
      (.paused (policy.delay (w.dice w.thrown) number))
    refine (onlyWaits_wait signal _ _).mono (fun _ w' h => ?_) (fun stop w' h => ?_)
    · refine ⟨h.1.state, h.1.dice, h.1.thrown, h.1.pauses.trans hnote, fun h' => h.2 ⟨h'.plans, h'.ahead⟩⟩
    · exact ⟨h.1.state, Or.inr (h.1.pauses.trans hnote), h.2.1, fun h' => h.2.2 ⟨h'.plans, h'.ahead⟩⟩

variable {i : Nat}

theorem Paused.succ {w' : World Nat} (h : Underway s script policy w (i + 1) i w₁)
    (hseen : w'.seen pauseOf? = w₁.seen pauseOf? ++ [policy.delay (w₁.dice w₁.thrown) (i + 1)]) :
    Paused policy w (i + 1) w' := by
  rw [Paused, hseen, h.paused, h.dice, h.thrown, List.range_succ, List.map_append, List.map_singleton,
    List.append_assoc]

/-- One more exchange was performed. -/
theorem Underway.exchanged {w₂ : World Nat} (h : Underway s script policy w i i w₁)
    (hmoved : Unmoved (exchanged r w₁) w₂) : Underway s script policy w (i + 1) i w₂ := by
  refine ⟨hmoved.state.trans (congrArg (· + 1) h.state), hmoved.dice.trans h.dice,
    hmoved.thrown.trans h.thrown, ?_, h.retried⟩
  have hseen : (Http.exchanged r w₁).seen pauseOf? = w₁.seen pauseOf? :=
    (World.seen_note pauseOf? w₁ (.asked r)).trans (List.append_nil _)
  exact hmoved.pauses.trans (hseen.trans h.paused)

section Ended

variable {stop : Stop ServiceError} {w₂ : World Nat}

/-- A call is cut short with as many exchanges as retries, or with one more. -/
theorem Underway.ended_of_interrupted {exchanges retries : Nat}
    (h : Underway s script policy w exchanges i w₁) (hstate : w₂.state = exchanges)
    (hpaused : Paused policy w retries w₂) (hretries : retries ≤ exchanges)
    (hexchanges : exchanges ≤ i + 1) (hle : i ≤ retries) (hcut : Interrupted signal stop w₂)
    (hcalm : ¬ Awaits signal none w) : Ended s script policy signal w (.error stop) w₂ := by
  subst hstate
  exact ⟨fun j hj => h.retried j (by omega), ⟨retries, hpaused, hretries, by omega⟩,
    Or.inr ⟨stop, rfl, hcut, hcalm⟩⟩

/-- No exchange is begun when the signal is aborted. -/
theorem Underway.ended_of_aborted (h : Underway s script policy w i i w₁)
    (hcalm : Awaits signal none w → Awaits signal none w₁)
    (haborted : w₁.signals.isAborted signal = true) :
    Ended s script policy signal w (.error (.failed .aborted)) w₁ := by
  refine h.ended_of_interrupted h.state h.paused (Nat.le_refl i) (Nat.le_succ i) (Nat.le_refl i)
    (Or.inr ⟨rfl, haborted⟩) fun h' => ?_
  exact Bool.false_ne_true ((hcalm h').plans.live.symm.trans haborted)

/-- An exchange that settles the matter is the last one. -/
theorem Underway.ended_of_settles (h : Underway s script policy w (i + 1) i w₁)
    (hsettles : Settles s script policy i) {ending : Except (Stop ServiceError) Response}
    (hending : ending = (outcome s script i).mapError .failed) :
    Ended s script policy signal w ending w₁ := by
  refine ⟨fun j hj => h.retried j ?_, ⟨i, h.paused, ?_, ?_⟩,
    Or.inl ⟨i, h.state, h.paused, hsettles, hending⟩⟩
  · rw [h.state] at hj
    omega
  · rw [h.state]
    exact Nat.le_succ i
  · exact Nat.le_of_eq h.state

/-- One exchange is performed, and comes to what the script has for it or is cut short. -/
theorem Underway.ends_call (hkey : s.key?.isSome = true) (h : Underway s script policy w i i w₁)
    (hcalm : Awaits signal none w → Awaits signal none w₁)
    (hlive : w₁.signals.isAborted signal = false) :
    Ends ((service s (scripted script)).call signal r) w₁
      (fun response w₂ => Underway s script policy w (i + 1) i w₂ ∧ outcome s script i = .ok response)
      (fun stop w₂ =>
        (∃ e, stop = .failed e ∧ outcome s script i = .error e ∧
          Underway s script policy w (i + 1) i w₂ ∧ (Awaits signal none w → Awaits signal none w₂)) ∨
        Interrupted signal stop w₂ ∧ Ended s script policy signal w (.error stop) w₂) := by
  refine (Http.ends_call hkey hlive).mono (fun response w₂ h₂ => ?_) (fun stop w₂ h₂ => ?_)
  · rcases h₂ with ⟨hmoved, houtcome, -⟩
    exact ⟨h.exchanged hmoved, h.state ▸ houtcome⟩
  · rcases h₂ with ⟨hmoved, ⟨e, he, houtcome, hcalm₂⟩ | ⟨hcut, hnot⟩⟩
    · exact Or.inl ⟨e, he, h.state ▸ houtcome, h.exchanged hmoved, fun h' => hcalm₂ (hcalm h')⟩
    · have hmade := h.exchanged hmoved
      refine Or.inr ⟨hcut, hmade.ended_of_interrupted hmade.state hmade.paused (Nat.le_succ i)
        (Nat.le_refl _) (Nat.le_refl i) hcut fun h' => hnot (hcalm h')⟩

/-- After an exchange that settles nothing another one is about to be performed, or the pause before it
    is cut short. -/
theorem Underway.ends_pause (h : Underway s script policy w (i + 1) i w₁)
    (hnot : ¬ Settles s script policy i) (hcalm : Awaits signal none w → Awaits signal none w₁) :
    Ends (Work.pause policy signal (i + 1)) w₁
      (fun _ w₂ => Underway s script policy w (i + 1) (i + 1) w₂ ∧
        (Awaits signal none w → Awaits signal none w₂))
      (fun stop w₂ => Ended s script policy signal w (.error stop) w₂) := by
  refine (Http.ends_pause policy signal (i + 1) w₁).mono (fun _ w₂ h₂ => ?_) (fun stop w₂ h₂ => ?_)
  · rcases h₂ with ⟨hstate, hdice, hthrown, hseen, hcalm₂⟩
    refine ⟨⟨hstate.trans h.state, hdice.trans h.dice, ?_, Paused.succ h hseen, ?_⟩,
      fun h' => hcalm₂ (hcalm h')⟩
    · rw [hthrown, h.thrown, Nat.add_assoc]
    · intro j hj
      rcases Nat.lt_succ_iff_lt_or_eq.mp hj with hlt | rfl
      · exact h.retried j hlt
      · exact hnot
  · rcases h₂ with ⟨hstate, hseen | hseen, hcut, hcalm₂⟩
    · exact h.ended_of_interrupted (hstate.trans h.state) (hseen.trans h.paused) (Nat.le_succ i)
        (Nat.le_refl _) (Nat.le_refl i) hcut fun h' => hcalm₂ (hcalm h')
    · exact h.ended_of_interrupted (hstate.trans h.state) (Paused.succ h hseen) (Nat.le_refl _)
        (Nat.le_refl _) (Nat.le_succ i) hcut fun h' => hcalm₂ (hcalm h')

end Ended

/-- A failure settles the matter if another exchange would not mend it. -/
theorem settles_of_error {e : ServiceError} (houtcome : outcome s script i = .error e)
    (hfinal : e.isRetryable = false) : Settles s script policy i := by
  refine Or.inr fun e' he' => ?_
  rw [houtcome, Except.error.injEq] at he'
  exact he' ▸ hfinal

theorem settles_of_ok {response : Response} (houtcome : outcome s script i = .ok response) :
    Settles s script policy i := by
  refine Or.inr fun e he => ?_
  rw [houtcome] at he
  exact absurd he nofun

/-- What is done from an exchange on that others may follow. -/
theorem ended_attempts (hkey : s.key?.isSome = true) {left : Nat} (hleft : i + left = policy.maxRetries)
    (h : Underway s script policy w i i w₁) (hcalm : Awaits signal none w → Awaits signal none w₁) :
    Ends (Work.attempts policy signal ((service s (scripted script)).call signal r) left (i + 1)) w₁
      (fun response w' => Ended s script policy signal w (.ok response) w')
      (fun stop w' => Ended s script policy signal w (.error stop) w') := by
  -- What was done up to here is in `h`, so that nothing is left to say of it when the call has ended.
  induction left generalizing i w₁ with
  | zero =>
      rw [Work.attempts]
      refine Work.ends_check_bind (h.ended_of_aborted hcalm) fun hlive => ?_
      refine (h.ends_call hkey hcalm hlive).mono (fun response w₂ h₂ => ?_) (fun stop w₂ h₂ => ?_)
      · exact h₂.1.ended_of_settles (Or.inl hleft) (by rw [h₂.2]; rfl)
      · rcases h₂ with ⟨e, rfl, houtcome, hmade, -⟩ | ⟨-, hend⟩
        · exact hmade.ended_of_settles (Or.inl hleft) (by rw [houtcome]; rfl)
        · exact hend
  | succ left ih =>
      rw [Work.attempts]
      refine Work.ends_check_bind (h.ended_of_aborted hcalm) fun hlive => ?_
      rw [ends_bind, Work.ends_attempt]
      refine (h.ends_call hkey hcalm hlive).mono (fun response w₂ h₂ => ?_) (fun stop w₂ h₂ => ?_)
      · exact h₂.1.ended_of_settles (settles_of_ok h₂.2) (by rw [h₂.2]; rfl)
      · rcases h₂ with ⟨e, rfl, houtcome, hmade, hcalm₂⟩ | ⟨hcut, hend⟩
        · simp only []
          by_cases hretry : e.isRetryable = true
          · have hnot : ¬ Settles s script policy i := by
              rintro (hmax | hfinal)
              · omega
              · exact Bool.false_ne_true ((hfinal e houtcome).symm.trans hretry)
            rw [if_pos hretry, ends_bind]
            refine (hmade.ends_pause hnot hcalm₂).mono (fun _ w₃ h₃ => ?_) fun _ _ hend => hend
            exact ih (by omega) h₃.1 h₃.2
          · rw [if_neg hretry]
            have hsettles : Settles s script policy i :=
              settles_of_error houtcome (Bool.eq_false_iff.mpr hretry)
            exact hmade.ended_of_settles hsettles (by rw [houtcome]; rfl)
        · -- What is cut short is not retried.
          rcases hcut with rfl | ⟨rfl, -⟩
          · exact hend
          · exact hend

section Outcome

/-- Another exchange may mend a failed connection. -/
theorem isRetryable_of_transport {text : String} (h : outcome s script i = .error (.transport text)) :
    (ServiceError.transport text).isRetryable = true := by
  by_cases harrives : (script i).Arrives s.timeout
  · -- What arrives is an answer or a status.
    rw [outcome, Exchange.result_reply_of_arrives harrives] at h
    exact absurd h ((script i).result_ne_transport text)
  · rcases Exchange.result_reply_of_not_arrives harrives with ⟨f, hf⟩
    rw [outcome, hf, Except.error.injEq] at h
    exact h ▸ f.isRetryable_error

theorem outcome_of_succeeds (harrives : (script i).Arrives s.timeout) (h : (script i).Succeeds) :
    outcome s script i = parse? (script i).content := by
  rw [outcome, Exchange.result_reply_of_arrives harrives, Exchange.result]
  exact if_pos h

theorem outcome_of_not_succeeds (harrives : (script i).Arrives s.timeout) (h : ¬ (script i).Succeeds) :
    outcome s script i = .error (.status (script i).status (failureText (script i).content)) := by
  rw [outcome, Exchange.result_reply_of_arrives harrives, Exchange.result]
  exact if_neg h

end Outcome

section Ended

variable {ending : Except (Stop ServiceError) Response} {w' : World Nat}

/-- An exchange that settles the matter is followed by none. -/
theorem Ended.state_eq (h : Ended s script policy signal w ending w') (hi : i < w'.state)
    (hsettles : Settles s script policy i) : w'.state = i + 1 := by
  refine Nat.le_antisymm (Nat.not_lt.mp fun hlt => ?_) hi
  exact h.retried i hlt hsettles

/-- A failure that another exchange may mend is returned after the last one there may be. -/
theorem Ended.exhausted (h : Ended s script policy signal w ending w') {e : ServiceError}
    (hending : ending = .error (.failed e)) (hlive : e ≠ .aborted)
    (hretry : ∀ i, outcome s script i = .error e → e.isRetryable = true) :
    w'.state = policy.maxRetries + 1 := by
  rcases h.ended with ⟨last, hstate, -, hsettles, hlast⟩ | ⟨stop, hstop, hcut, -⟩
  · have houtcome : outcome s script last = .error e := by
      cases houtcome : outcome s script last with
      | ok response =>
          rw [hending, houtcome] at hlast
          exact absurd hlast nofun
      | error e' =>
          rw [hending, houtcome] at hlast
          cases hlast
          rfl
    -- It settles the matter without being final, so there was to be no other exchange.
    rcases hsettles with rfl | hfinal
    · exact hstate
    · exact absurd ((hfinal e houtcome).symm.trans (hretry last houtcome)) Bool.false_ne_true
  · rw [hending, Except.error.injEq] at hstop
    rcases hcut with rfl | ⟨rfl, -⟩
    · exact absurd hstop nofun
    · exact absurd (Stop.failed.inj hstop) hlive

theorem Ended.goesThrough (h : Ended s script policy signal w ending w') :
    GoesThrough s script policy signal w ending w' := by
  refine { bounded := ?bounded, charged := h.paused, returned := ?returned, retried := ?retried,
           transport := ?transport, busy := ?busy, read := ?read, refused := ?refused,
           unreadable := ?unreadable }
  case bounded =>
    exact Nat.not_lt.mp fun hlt => h.retried policy.maxRetries hlt (Or.inl rfl)
  case returned =>
    refine h.ended.imp_left ?_
    rintro ⟨last, hstate, hpaused, -, hending⟩
    exact ⟨last, hstate, hpaused, hending⟩
  case retried =>
    intro i hi
    cases houtcome : outcome s script i with
    | ok response => exact absurd (settles_of_ok houtcome) (h.retried i hi)
    | error e =>
        refine ⟨e, rfl, Bool.not_eq_false _ ▸ fun hfinal => ?_⟩
        exact h.retried i hi (settles_of_error houtcome hfinal)
  case transport =>
    intro text hending
    exact h.exhausted hending nofun fun _ => isRetryable_of_transport
  case busy =>
    intro code text hending hcode
    refine h.exhausted hending nofun fun _ _ => ?_
    rw [ServiceError.isRetryable, List.contains_iff_mem.mpr hcode, Bool.true_or]
  case read =>
    intro i hi harrives hsucceeds response hparse
    have houtcome := (outcome_of_succeeds harrives hsucceeds).trans hparse
    have hstate := h.state_eq hi (settles_of_ok houtcome)
    refine ⟨hstate, h.ended.imp_left ?_⟩
    rintro ⟨last, hlast, -, -, rfl⟩
    cases Nat.succ.inj (hlast.symm.trans hstate)
    rw [houtcome]
    rfl
  case refused =>
    intro i hi harrives hsucceeds hcode htext
    refine h.state_eq hi (settles_of_error (outcome_of_not_succeeds harrives hsucceeds) ?_)
    rw [ServiceError.isRetryable, htext, Bool.or_false]
    exact Bool.eq_false_iff.mpr fun hcontains => hcode (List.contains_iff_mem.mp hcontains)
  case unreadable =>
    intro i hi harrives hsucceeds text hparse htext
    exact h.state_eq hi (settles_of_error ((outcome_of_succeeds harrives hsucceeds).trans hparse) htext)

end Ended

/-- There is no exchange and no pause without a key. -/
theorem callRetrying_of_keyless (hkey : s.key? = none) (serve : Post → σ → Exchange × σ)
    (policy : RetryPolicy) (r : Request) {w : World σ} (hlive : w.signals.isAborted signal = false) :
    (service s serve).callRetrying policy signal r w =
      .error (.failed (.unavailable "no API key configured")) (w.note (.asked r)) := by
  have hcall : (service s serve).call signal r w =
      .error (.failed (.unavailable "no API key configured")) (w.note (.asked r)) := by
    rw [call_eq, sent, send, hkey]
    rfl
  rw [Service.callRetrying, Work.retrying]
  cases policy.maxRetries with
  | zero => rw [Work.attempts_zero policy _ hlive, hcall]
  | succ left =>
      rw [Work.attempts_succ policy hlive (Work.attempt_of_failed hcall)]
      rfl

/-- Nothing is done for a caller who has given up. -/
theorem callRetrying_of_aborted (service : Service σ) (policy : RetryPolicy) (r : Request) {w : World σ}
    (haborted : w.signals.isAborted signal = true) :
    service.callRetrying policy signal r w = .error (.failed .aborted) w := by
  rw [Service.callRetrying, Work.retrying]
  cases policy.maxRetries with
  | zero => exact bind_of_error (Work.check_of_aborted haborted)
  | succ left => exact bind_of_error (Work.check_of_aborted haborted)

end Call

namespace Settings

variable (s : Settings)

/-- Calls with retries go through scripts of exchanges, and through nothing without a key. -/
structure RetriesExchanges : Prop where
  keyed : s.key?.isSome = true → ∀ (script : Nat → Exchange) (policy : RetryPolicy)
    (signal : SignalId) (r : Request) (w : World Nat), w.state = 0 →
      Ends ((service s (scripted script)).callRetrying policy signal r) w
        (fun response w' => GoesThrough s script policy signal w (.ok response) w')
        (fun stop w' => GoesThrough s script policy signal w (.error stop) w')
  /-- Whatever the server, the service is unavailable to whoever has not given up before. -/
  keyless : s.key = none ∨ s.key = some "" → ∀ {σ : Type} (serve : Post → σ → Exchange × σ)
    (policy : RetryPolicy) (signal : SignalId) (r : Request) (w : World σ),
      (service s serve).callRetrying policy signal r w =
        if w.signals.isAborted signal then .error (.failed .aborted) w
        else .error (.failed (.unavailable "no API key configured")) (w.note (.asked r))

theorem retriesExchanges : s.RetriesExchanges := by
  refine ⟨fun hkey script policy signal r w hstate => ?_, fun hkey σ serve policy signal r w => ?_⟩
  · have hbegin : Underway s script policy w 0 0 w :=
      ⟨hstate, rfl, rfl, (List.append_nil _).symm, fun _ hi => absurd hi (Nat.not_lt_zero _)⟩
    refine (ended_attempts hkey (Nat.zero_add _) hbegin id).mono ?_ ?_
    · exact fun _ _ hend => hend.goesThrough
    · exact fun _ _ hend => hend.goesThrough
  · have hnone : s.key? = none := by
      rw [key?]
      rcases hkey with hkey | hkey
      · rw [hkey]
        rfl
      · rw [hkey]
        rfl
    by_cases haborted : w.signals.isAborted signal = true
    · rw [if_pos haborted, callRetrying_of_aborted _ policy r haborted]
    · rw [if_neg haborted, callRetrying_of_keyless hnone serve policy r (Bool.eq_false_iff.mpr haborted)]

end Settings

end Http

end Replatform
