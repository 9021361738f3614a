import Replatform.Migration.Generation
import Replatform.Proofs.Work.Ending

/-!
# What Tasks Do

A task leaves its traces in the world, the latest first, and never removes any. What it does
between two worlds is therefore the list that was put before the older one, and `Since` says
of which kind everything in that list is. `Does` says it of a task, in whatever world the task
is begun and whichever way it ends.

Everything in a call that waits may cancel a signal, and attempts are paused in between. These
deeds come with every call, so that the laws of this file ask for them to be allowed once and
for all. What else a call does depends on the call, and is added where the call is.

What is read off the deeds, such as the requests or the progress that was told, is a list in
the order in which it was done. `Does.seen` is how such a list is shown to be the same after a
task as before it.

## Main definitions

* `World.Since`: What was done between two worlds is of some kind.
* `EndsSince`: What was done by the end of a task, since an earlier world, is of some kind.
* `Does`: What a task does is of some kind.
* `World.seen`: What can be read off the deeds.
* `Generation.Streams`: What is done while the content of a file is streamed.

## Theorems

* `Does.bind`, `does_attempt`, `does_mapError`: What tasks do that are put together.
* `does_retrying`: What the attempts at a task do.
* `does_streamRetrying`: What is done to get the content of a file.
-/

namespace Replatform

variable {σ ε δ α β : Type}

namespace World

/-- Everything that was done between two worlds is of an allowed kind. -/
def Since (allowed : Deed → Prop) (w w' : World σ) : Prop :=
  ∃ deeds, w'.deeds = deeds ++ w.deeds ∧ ∀ d ∈ deeds, allowed d

variable {allowed : Deed → Prop} {w w' w'' : World σ}

theorem Since.of_deeds_eq (h : w'.deeds = w.deeds) : w.Since allowed w' :=
  ⟨[], h, fun _ hd => absurd hd List.not_mem_nil⟩

theorem Since.refl (w : World σ) : w.Since allowed w :=
  .of_deeds_eq rfl

theorem Since.trans (h : w.Since allowed w') (h' : w'.Since allowed w'') : w.Since allowed w'' := by
  rcases h with ⟨deeds, hw, hall⟩
  rcases h' with ⟨deeds', hw', hall'⟩
  -- The latest come first.
  refine ⟨deeds' ++ deeds, by rw [hw', hw, List.append_assoc], fun d hd => ?_⟩
  rcases List.mem_append.mp hd with hd | hd
  · exact hall' d hd
  · exact hall d hd

theorem Since.mono {allowed' : Deed → Prop} (h : w.Since allowed w')
    (hallowed : ∀ d, allowed d → allowed' d) : w.Since allowed' w' := by
  rcases h with ⟨deeds, hw, hall⟩
  exact ⟨deeds, hw, fun d hd => hallowed d (hall d hd)⟩

theorem since_note (w : World σ) {d : Deed} (hd : allowed d) : w.Since allowed (w.note d) := by
  refine ⟨[d], rfl, fun d' hd' => ?_⟩
  rw [List.mem_singleton.mp hd']
  exact hd

/-- What can be read off the deeds, in the order in which they were done. -/
def seen (read : Deed → Option β) (w : World σ) : List β :=
  w.deeds.reverse.filterMap read

theorem seen_note (read : Deed → Option β) (w : World σ) (d : Deed) :
    (w.note d).seen read = w.seen read ++ (read d).toList := by
  rw [seen, seen, note, List.reverse_cons, List.filterMap_append, List.filterMap_cons,
    List.filterMap_nil]
  cases read d with
  | none => rfl
  | some b => rfl

/-- What could be read off the deeds at some time can be read off them ever after. -/
theorem Since.seen_isPrefix (read : Deed → Option β) (h : w.Since allowed w') :
    w.seen read <+: w'.seen read := by
  rcases h with ⟨deeds, hw, -⟩
  rw [seen, seen, hw, List.reverse_append, List.filterMap_append]
  exact List.prefix_append _ _

theorem Since.seen_eq {read : Deed → Option β} (h : w.Since allowed w')
    (hread : ∀ d, allowed d → read d = none) : w'.seen read = w.seen read := by
  rcases h with ⟨deeds, hw, hall⟩
  have hnone : deeds.reverse.filterMap read = [] := by
    refine List.filterMap_eq_nil_iff.mpr fun d hd => ?_
    exact hread d (hall d (List.mem_reverse.mp hd))
  rw [seen, seen, hw, List.reverse_append, List.filterMap_append, hnone, List.append_nil]

end World

/-- A task begun in `w` ends in a world since `w₀` where everything is of an allowed kind. -/
abbrev EndsSince (allowed : Deed → Prop) (w₀ : World σ) (task : Work σ ε α) (w : World σ) : Prop :=
  Ends task w (fun _ w' => w₀.Since allowed w') (fun _ w' => w₀.Since allowed w')

/-- A task does nothing but what is of an allowed kind, whichever way it ends. -/
def Does (allowed : Deed → Prop) (task : Work σ ε α) : Prop :=
  ∀ w, Ends task w (fun _ w' => w.Since allowed w') (fun _ w' => w.Since allowed w')

section Does

variable {allowed : Deed → Prop}

/-- A task leaves what can only be read off other deeds. -/
theorem Does.seen {task : Work σ ε α} {read : Deed → Option β} (h : Does allowed task)
    (hread : ∀ d, allowed d → read d = none) (w : World σ) :
    Ends task w (fun _ w' => w'.seen read = w.seen read) (fun _ w' => w'.seen read = w.seen read) :=
  (h w).mono (fun _ _ hw => hw.seen_eq hread) (fun _ _ hw => hw.seen_eq hread)

theorem Does.mono {allowed' : Deed → Prop} {task : Work σ ε α} (h : Does allowed task)
    (hallowed : ∀ d, allowed d → allowed' d) : Does allowed' task :=
  fun w => (h w).mono (fun _ _ hw => hw.mono hallowed) (fun _ _ hw => hw.mono hallowed)

theorem does_pure (a : α) : Does allowed (pure a : Work σ ε α) :=
  fun w => .refl w

/-- What was done since a world was done since an earlier one. -/
theorem EndsSince.after {task : Work σ ε α} {w₀ w₁ w : World σ} (h : EndsSince allowed w₁ task w)
    (hw : w₀.Since allowed w₁) : EndsSince allowed w₀ task w :=
  h.mono (fun _ _ h' => hw.trans h') (fun _ _ h' => hw.trans h')

theorem Does.after {task : Work σ ε α} {w₀ w : World σ} (h : Does allowed task)
    (hw : w₀.Since allowed w) : EndsSince allowed w₀ task w :=
  EndsSince.after (h w) hw

theorem EndsSince.bind {task : Work σ ε α} {next : α → Work σ ε β} {w₀ w : World σ}
    (h : EndsSince allowed w₀ task w) (hnext : ∀ a, Does allowed (next a)) :
    EndsSince allowed w₀ (task >>= next) w :=
  (ends_bind _ _ _ _ _).mpr (h.mono (fun a _ h₁ => (hnext a).after h₁) (fun _ _ h₁ => h₁))

theorem Does.bind {task : Work σ ε α} {next : α → Work σ ε β} (h : Does allowed task)
    (hnext : ∀ a, Does allowed (next a)) : Does allowed (task >>= next) :=
  fun w => EndsSince.bind (h w) hnext

theorem does_get : Does allowed (get : Work σ ε (World σ)) :=
  fun w => .refl w

theorem does_ite {p : Prop} [Decidable p] {task task' : Work σ ε α} (h : Does allowed task)
    (h' : Does allowed task') : Does allowed (if p then task else task') := by
  by_cases hp : p
  · rw [if_pos hp]
    exact h
  · rw [if_neg hp]
    exact h'

namespace Work

theorem does_fail (e : ε) : Does allowed (fail e : Work σ ε α) :=
  fun w => .refl w

theorem does_ofExcept (r : Except ε α) : Does allowed (ofExcept r : Work σ ε α) := by
  cases r with
  | ok a => exact does_pure a
  | error e => exact does_fail e

theorem does_attempt {task : Work σ ε α} (h : Does allowed task) :
    Does allowed (attempt task : Work σ δ _) := by
  intro w
  rw [ends_attempt]
  refine (h w).mono (fun _ _ hw => hw) (fun stop _ hw => ?_)
  cases stop with
  | failed e => exact hw
  | dropped => exact hw

theorem does_mapError {f : ε → δ} {task : Work σ ε α} (h : Does allowed task) :
    Does allowed (mapError f task) := by
  intro w
  rw [ends_mapError]
  refine (h w).mono (fun _ _ hw => hw) (fun stop _ hw => ?_)
  cases stop with
  | failed e => exact hw
  | dropped => exact hw

theorem does_note {d : Deed} (hd : allowed d) : Does allowed (note d : Work σ ε Unit) :=
  fun w => World.since_note w hd

/-- What comes after a note comes on top of it. -/
theorem ends_note_bind {d : Deed} {next : Unit → Work σ ε α} (h : Does allowed (next ())) (w : World σ) :
    EndsSince allowed (w.note d) (note d >>= next) w :=
  h (w.note d)

theorem does_log (he : ∀ entry, allowed (.told (.log entry))) (phase : Phase) (severity : Severity)
    (message : String) : Does allowed (log phase severity message : Work σ ε Unit) :=
  fun w => World.since_note w (he _)

theorem does_tell {e : Event} (he : allowed (.told e)) : Does allowed (tell e : Work σ ε Unit) :=
  does_note he

theorem does_check (signal : SignalId) : Does (σ := σ) allowed (check signal) :=
  does_get.bind fun w => does_ofExcept (w.signals.check signal)

theorem does_now : Does allowed (now : Work σ ε Nat) :=
  fun w => .refl w

theorem does_consult (signal : SignalId) (answer : Caller → σ → β × σ) :
    Does allowed (consult signal answer : Work σ ε β) :=
  fun _ => .of_deeds_eq rfl

section Waiting

variable (hcancelled : ∀ id, allowed (.cancelled id))

include hcancelled

theorem does_cancel (id : SignalId) : Does allowed (cancel id : Work σ ε Unit) :=
  fun w => World.since_note { w with signals := w.signals.cancel id } (hcancelled id)

/-- The agenda may cancel signals, but does nothing else that can be seen. -/
theorem does_elapse (watch : SignalId) (time : Nat) (agenda : List (Nat × Outside)) :
    Does (σ := σ) allowed (elapse watch time agenda) := by
  intro w
  induction agenda generalizing w with
  | nil => exact .of_deeds_eq rfl
  | cons entry rest ih =>
      rcases entry with ⟨moment, what⟩
      unfold Ends
      rw [elapse]
      by_cases hlate : time < moment
      · rw [if_pos hlate]
        exact .of_deeds_eq rfl
      · rw [if_neg hlate]
        cases what with
        | drop => exact .of_deeds_eq rfl
        | cancel id =>
            simp only []
            have hstep : w.Since allowed
                (World.cancel { w with now := max w.now moment, agenda := rest } id) :=
              ⟨[.cancelled id], rfl, fun d hd => List.mem_singleton.mp hd ▸ hcancelled id⟩
            generalize World.cancel { w with now := max w.now moment, agenda := rest } id = w₁
              at hstep ⊢
            -- The agenda is left as it is from here on if nobody waits any more.
            by_cases hab : w₁.signals.isAborted watch = true
            · rw [if_pos hab]
              exact hstep
            · rw [if_neg hab]
              exact (ih w₁).mono (fun _ _ h => hstep.trans h) (fun _ _ h => hstep.trans h)

theorem does_wait (watch : SignalId) (ms : Nat) : Does (σ := σ) allowed (wait watch ms) := by
  unfold wait
  refine does_ite ?_ (does_pure ())
  refine (does_check watch).bind fun _ => does_get.bind fun w => ?_
  exact does_elapse hcancelled watch (w.now + ms) w.agenda

theorem does_perform (watch : SignalId) (act : Act) :
    Does (σ := σ) allowed (perform watch act) := by
  cases act with
  | wait ms => exact does_wait hcancelled watch ms
  | cancel id => exact does_cancel hcancelled id

theorem does_performAll (watch : SignalId) (acts : List Act) :
    Does (σ := σ) allowed (performAll watch acts) := by
  induction acts with
  | nil => exact does_pure ()
  | cons act acts ih => exact (does_perform hcancelled watch act).bind fun _ => ih

variable (hpaused : ∀ ms, allowed (.paused ms))

include hpaused

theorem does_pause (policy : RetryPolicy) (signal : SignalId) (number : Nat) :
    Does (σ := σ) allowed (pause policy signal number) := by
  refine Does.bind (fun w => .of_deeds_eq rfl) fun roll => ?_
  refine (does_check signal).bind fun _ => (does_note (hpaused _)).bind fun _ => ?_
  exact does_wait hcancelled signal _

/-- The attempts at a task do what the task does, and are paused in between. -/
theorem does_attempts (policy : RetryPolicy) (signal : SignalId) {task : Work σ ServiceError α}
    (htask : Does allowed task) (left number : Nat) :
    Does allowed (attempts policy signal task left number) := by
  induction left generalizing number with
  | zero => exact (does_check signal).bind fun _ => htask
  | succ left ih =>
      unfold attempts
      refine (does_check signal).bind fun _ => (does_attempt htask).bind fun result => ?_
      cases result with
      | ok a => exact does_pure a
      | error e =>
          refine does_ite ?_ (does_fail e)
          exact (does_pause hcancelled hpaused policy signal number).bind fun _ => ih (number + 1)

theorem does_retrying (policy : RetryPolicy) (signal : SignalId) {task : Work σ ServiceError α}
    (htask : Does allowed task) : Does allowed (retrying policy signal task) :=
  does_attempts hcancelled hpaused policy signal htask policy.maxRetries 1

end Waiting

end Work

end Does

namespace Generation

/-- What is done while the content of a file is streamed: requests are sent, with pauses in between,
    what there is of the file so far is told, and signals may be cancelled meanwhile. -/
def Streams (target : String) : Deed → Prop
  | .asked _ | .paused _ | .cancelled _ => True
  | .told (.fileContent path _ true) => path = target
  | _ => False

theorem does_receive (signal : SignalId) (target : String) (beats : List Beat) (text : String) :
    Does (σ := σ) (Streams target) (receive signal target beats text) := by
  induction beats generalizing text with
  | nil => exact does_pure text
  | cons beat beats ih =>
      cases beat with
      | act act =>
          exact (Work.does_perform (fun _ => trivial) signal act).bind fun _ => ih text
      | chunk piece =>
          have htold : Streams target (.told (.fileContent target
              (Answer.stripFences (text ++ piece)) true)) := rfl
          exact (Work.does_tell htold).bind fun _ => ih (text ++ piece)

theorem does_stream (s : Service σ) (c : Config) (signal : SignalId) (target prompt : String) :
    Does (Streams target) (stream s c signal target prompt) := by
  have hopen : Does (Streams target) (s.openStream signal (request c prompt)) :=
    (Work.does_note (d := .asked (request c prompt)) trivial).bind fun _ => Work.does_consult signal _
  refine hopen.bind fun reply => (does_receive signal target reply.beats "").bind fun text => ?_
  cases reply.failure with
  | none => exact does_pure text
  | some e => exact Work.does_fail e

/-- To get the content of a file is to stream it as often as it takes. -/
theorem does_streamRetrying (s : Service σ) (c : Config) (signal : SignalId)
    (target prompt : String) :
    Does (Streams target) (streamRetrying s c signal target prompt) := by
  have hcall := Work.does_retrying (fun _ => trivial) (fun _ => trivial) c.retry signal
    (does_stream s c signal target prompt)
  exact (Work.does_mapError hcall).bind fun text => does_pure (Answer.stripFences text)

end Generation

end Replatform
