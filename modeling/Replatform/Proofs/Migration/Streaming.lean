import Mathlib.Data.List.Infix
import Replatform.Proofs.Migration.Settling
import Replatform.Proofs.Work.Idling

/-!
# The Attempt That Counts

Where the content of a generated file comes from. An attempt may have told a good part of the file
before it fails, and the next one begins from nothing. What is left in the end is the text of the last
attempt, however it was cut into pieces, and nothing of what the others have streamed.

Nothing is assumed of the service. What it streamed during a generation is therefore a list of replies
that it gave one after another, `Service.Delivers`, and the requests that were sent say how many there
were. `Took` says that between two worlds some replies were taken in from beginning to end and nothing
else was told of the file, and it is what one attempt adds to those before it (`Took.append`). That each
attempt begins from nothing can be seen in what it tells: the beginnings of its own text, `partials`, and
no others.

The induction is on the attempts that may still follow. An attempt that is cut off by its signal is the
last one and leaves no file, so that all others have been taken in to their ends.

## Main definitions

* `Stream.text`, `Stream.outcome`: The text of a reply, put together from its pieces, and what comes of it.
* `Service.Delivers`: A service streams replies one after another.
* `Generation.Took`, `Generation.Tries`: Replies are taken in, of which all but the last have failed for
  reasons that may pass.
* `Generation.ComesOf`: What a generation comes to, and which replies it comes of.

## Theorems

* `ends_receive`: The pieces of a reply are put together.
* `uncut_stream`, `uncut_attempts`: One attempt, and all of them.
* `comesOf_generateFile`: A generated file comes of the last attempt alone.
-/

namespace Replatform

variable {σ ε : Type}

namespace Stream

/-- The pieces of a reply. -/
def pieces (reply : Stream) : List String :=
  reply.beats.filterMap fun
    | .chunk piece => some piece
    | .act _ => none

/-- The text of a reply, put together from its pieces. -/
def text (reply : Stream) : String :=
  String.join reply.pieces

/-- What comes of a reply: its text, unless it ends in a failure. -/
def outcome (reply : Stream) : Except ServiceError String :=
  match reply.failure with
  | none => .ok reply.text
  | some e => .error e

end Stream

/-- Going from what it remembers to what it remembers afterwards, a service streams replies to the same
    request, each under a live signal and at some time. -/
inductive Service.Delivers (s : Service σ) (signal : SignalId) (r : Request) :
    σ → List Stream → σ → Prop where
  | nil (st : σ) : Delivers s signal r st [] st
  | cons {st st' : σ} {replies : List Stream} (now : Nat)
      (rest : Delivers s signal r (s.stream ⟨signal, false, now⟩ r st).2 replies st') :
      Delivers s signal r st ((s.stream ⟨signal, false, now⟩ r st).1 :: replies) st'

theorem Service.Delivers.append {s : Service σ} {signal : SignalId} {r : Request} {st st' st'' : σ}
    {replies replies' : List Stream} (h : s.Delivers signal r st replies st')
    (h' : s.Delivers signal r st' replies' st'') :
    s.Delivers signal r st (replies ++ replies') st'' := by
  induction h with
  | nil st => exact h'
  | cons now rest ih => exact .cons now (ih h')

namespace Generation

/-- What is told of a file while a reply is taken in: what there is of it after each piece. -/
def partials (target : String) (reply : Stream) : List Event :=
  reply.pieces.inits.tail.map fun pieces =>
    .fileContent target (Answer.stripFences (String.join pieces)) true

/-- Replies to a request for a file were taken in between two worlds, from beginning to end and one
    after another, and nothing else was told of its content. -/
structure Took (s : Service σ) (signal : SignalId) (r : Request) (target : String) (w : World σ)
    (replies : List Stream) (w' : World σ) : Prop where
  delivered : s.Delivers signal r w.state replies w'.state
  requests : w'.requests = w.requests ++ List.replicate replies.length r
  contents : w'.contents = w.contents ++ replies.flatMap (partials target)

/-- After some attempts that failed for reasons that may pass, not more than are allowed, a last one was
    made. -/
structure Tries (s : Service σ) (signal : SignalId) (r : Request) (target : String) (left : Nat)
    (w : World σ) (failed : List Stream) (last : Stream) (w' : World σ) : Prop where
  took : Took s signal r target w (failed ++ [last]) w'
  allowed : failed.length ≤ left
  passing : ∀ reply ∈ failed, ∃ e, reply.outcome = .error e ∧ e.isRetryable = true

/-- What is left of the last attempt: a content, unless it has failed. -/
def contentOf (last : Stream) : Option String :=
  last.outcome.toOption.map Answer.stripFences

/-- A generation came to a result, and it comes of these attempts. -/
structure ComesOf (s : Service σ) (c : Config) (signal : SignalId) (target prompt : String)
    (w : World σ) (tree : Tree) (failed : List Stream) (last : Stream) (generated : Bool)
    (w' : World σ) (tree' : Tree) : Prop where
  /-- The service gave these replies, one after another. -/
  delivered : s.Delivers signal (request c prompt) w.state (failed ++ [last]) w'.state
  /-- It was asked for each of them. -/
  requests : w'.requests = w.requests ++ List.replicate (failed.length + 1) (request c prompt)
  /-- There were no more attempts than the policy allows. -/
  allowed : failed.length ≤ c.retry.maxRetries
  /-- All but the last had failed for reasons that may pass. -/
  passing : ∀ reply ∈ failed, ∃ e, reply.outcome = .error e ∧ e.isRetryable = true
  /-- The file is generated if the last one has not failed. -/
  generated : generated = (contentOf last).isSome
  /-- What is in its node is then what the last one has left. -/
  node : Tree.find? target tree' = (Tree.find? target tree).map (fill (contentOf last))
  /-- Nothing else has changed. -/
  tree : tree' = Tree.modify target (fill (contentOf last)) tree
  /-- Each attempt has told the beginnings of its own text, and the content is told at the end. -/
  contents : w'.contents = w.contents ++ (failed ++ [last]).flatMap (partials target) ++
    (contentOf last).toList.map fun content => .fileContent target content false

/-- The beginnings of a list, apart from the empty one. -/
theorem tail_inits_cons {α : Type} (a : α) (l : List α) :
    (a :: l).inits.tail = [a] :: l.inits.tail.map (List.cons a) := by
  cases l with
  | nil => rfl
  | cons b l => rw [List.inits_cons, List.inits_cons, List.map_cons, List.tail_cons, List.tail_cons]

section Took

variable {s : Service σ} {signal : SignalId} {r : Request} {target : String}
  {w w' w'' : World σ} {replies replies' : List Stream}

theorem Took.append (h : Took s signal r target w replies w')
    (h' : Took s signal r target w' replies' w'') :
    Took s signal r target w (replies ++ replies') w'' where
  delivered := h.delivered.append h'.delivered
  requests := by
    rw [h'.requests, h.requests, List.append_assoc, List.length_append, List.replicate_add]
  contents := by
    rw [h'.contents, h.contents, List.append_assoc, List.flatMap_append]

/-- One reply is taken in if it is the one that the service gives. -/
theorem took_reply (now : Nat) {reply : Stream} {st : σ}
    (hreply : s.stream ⟨signal, false, now⟩ r w.state = (reply, st)) (hstate : w'.state = st)
    (hrequests : w'.requests = w.requests ++ [r])
    (hcontents : w'.contents = w.contents ++ partials target reply) :
    Took s signal r target w [reply] w' where
  delivered := by
    have hgiven : s.Delivers signal r w.state [(s.stream ⟨signal, false, now⟩ r w.state).1]
        (s.stream ⟨signal, false, now⟩ r w.state).2 := .cons now (.nil _)
    rw [hreply] at hgiven
    exact hstate ▸ hgiven
  requests := hrequests
  contents := by
    rw [hcontents, List.flatMap_singleton]

/-- A pause before replies are taken in makes no difference. -/
theorem Took.of_idle (hidle : w.Idle w') (h : Took s signal r target w' replies w'') :
    Took s signal r target w replies w'' where
  delivered := hidle.state ▸ h.delivered
  requests := hidle.requests ▸ h.requests
  contents := hidle.contents ▸ h.contents

theorem tries_last {left : Nat} {reply : Stream} (h : Took s signal r target w [reply] w') :
    Tries s signal r target left w [] reply w' :=
  ⟨h, Nat.zero_le left, fun _ hreply => absurd hreply List.not_mem_nil⟩

/-- A failed attempt, a pause and the attempts after it. -/
theorem Tries.again {left : Nat} {w₁ w₂ : World σ} {reply last : Stream} {failed : List Stream}
    {e : ServiceError} (h : Took s signal r target w [reply] w₁)
    (hfailure : reply.outcome = .error e) (hretry : e.isRetryable = true) (hidle : w₁.Idle w₂)
    (hrest : Tries s signal r target left w₂ failed last w') :
    Tries s signal r target (left + 1) w (reply :: failed) last w' where
  took := h.append (hrest.took.of_idle hidle)
  allowed := Nat.succ_le_succ hrest.allowed
  passing := List.forall_mem_cons.mpr ⟨⟨e, hfailure, hretry⟩, hrest.passing⟩

/-- What the attempts come to when the file is settled with what the last one has left. -/
theorem Tries.comesOf {c : Config} {prompt : String} {w₀ w₁ : World σ} {tree tree' : Tree}
    {failed : List Stream} {last : Stream} {generated : Bool}
    (h : Tries s signal (request c prompt) target c.retry.maxRetries w failed last w₁)
    (hgenerated : generated = (contentOf last).isSome) (hidle : w₀.Idle w) (hstate : w'.state = w₁.state) (hrequests : w'.requests = w₁.requests)
    (hcontents : w'.contents = w₁.contents ++
      (contentOf last).toList.map fun content => .fileContent target content false)
    (htree : tree' = Tree.modify target (fill (contentOf last)) tree) :
    ComesOf s c signal target prompt w₀ tree failed last generated w' tree' where
  delivered := hstate ▸ (h.took.of_idle hidle).delivered
  requests := by
    rw [hrequests, (h.took.of_idle hidle).requests, List.length_append, List.length_singleton]
  allowed := h.allowed
  passing := h.passing
  generated := hgenerated
  node := by
    rw [htree, Tree.find?_modify (refills_fill _)]
  tree := htree
  contents := by
    rw [hcontents, (h.took.of_idle hidle).contents]

end Took

section Attempts

variable (s : Service σ) (c : Config) (signal : SignalId) (target prompt : String)

/-- The pieces of a reply are put together behind what was there before, and what there is is told
    after each. -/
theorem ends_receive (beats : List Beat) (text : String) (w : World σ) :
    Ends (receive signal target beats text) w
      (fun text' w' => text' = text ++ Stream.text { beats } ∧ w'.state = w.state ∧
        w'.requests = w.requests ∧
        w'.contents = w.contents ++ (Stream.pieces { beats }).inits.tail.map fun pieces =>
          .fileContent target (Answer.stripFences (text ++ String.join pieces)) true)
      (fun stop _ => ∀ e, stop = .failed e → e = .aborted) := by
  induction beats generalizing text w with
  | nil =>
      refine ⟨?_, rfl, rfl, (List.append_nil _).symm⟩
      exact String.append_empty.symm
  | cons beat beats ih =>
      cases beat with
      | act act =>
          rw [receive, ends_bind]
          refine (Work.idles_perform signal act w).mono (fun _ w₁ h₁ => ?_) (fun _ _ h => h)
          refine (ih text w₁).mono (fun text' w₂ h₂ => ?_) (fun _ _ h => h)
          rw [← h₁.state, ← h₁.requests, ← h₁.contents]
          exact h₂
      | chunk piece =>
          rw [receive, ends_bind, Work.ends_tell]
          refine (ih (text ++ piece) _).mono (fun text' w₂ h₂ => ?_) (fun _ _ h => h)
          rcases h₂ with ⟨htext, hstate, hrequests, hcontents⟩
          have hpieces : Stream.pieces { beats := .chunk piece :: beats } =
              piece :: Stream.pieces { beats } := rfl
          refine ⟨?_, hstate, hrequests.trans (World.requests_tell w _), ?_⟩
          · rw [htext, Stream.text, Stream.text, hpieces, String.join_cons, String.append_assoc]
          · have hfirst : String.join [piece] = piece := by
              rw [String.join_cons, String.join_nil, String.append_empty]
            rw [hcontents, World.contents_tell_fileContent, hpieces, tail_inits_cons, List.map_cons,
              List.map_map, List.append_assoc, List.singleton_append, hfirst]
            simp only [Function.comp_def, String.join_cons, String.append_assoc]

/-- One attempt takes in one reply, and has nothing before it. -/
theorem uncut_stream {w : World σ} (hlive : w.signals.isAborted signal = false) :
    Uncut (stream s c signal target prompt) w fun result w' =>
      ∃ reply, Took s signal (request c prompt) target w [reply] w' ∧ reply.outcome = result := by
  rcases hreply : s.stream ⟨signal, false, w.now⟩ (request c prompt) w.state with ⟨reply, st⟩
  have hcaller : (w.note (.asked (request c prompt))).signals.isAborted signal = false := hlive
  have hanswer : s.stream ⟨signal, false, (w.note (.asked (request c prompt))).now⟩
      (request c prompt) (w.note (.asked (request c prompt))).state = (reply, st) := hreply
  rw [Uncut, stream, Service.openStream, ends_bind, ends_bind, Work.ends_note, Work.ends_consult,
    hcaller, hanswer, ends_bind]
  refine (ends_receive signal target reply.beats "" _).mono (fun text w' h => ?_)
    (fun stop w' h => ?_)
  · rcases h with ⟨htext, hstate, hrequests, hcontents⟩
    have hrequests' : w'.requests = w.requests ++ [request c prompt] :=
      hrequests.trans (World.requests_note w _)
    have hcontents' : w'.contents = w.contents ++ partials target reply := by
      simp only [String.empty_append] at hcontents
      exact hcontents.trans (congrArg (· ++ _) ((World.contents_note w _).trans (List.append_nil _)))
    have htook := took_reply w.now hreply hstate hrequests' hcontents'
    cases hfailure : reply.failure with
    | none =>
        rw [ends_pure]
        refine ⟨reply, htook, ?_⟩
        rw [Stream.outcome, hfailure, htext, String.empty_append]
        rfl
    | some e =>
        rw [Work.ends_fail]
        intro e' he' _
        refine ⟨reply, htook, ?_⟩
        rw [Stream.outcome, hfailure, Stop.failed.inj he']
  · exact fun e he hne => absurd (h e he) hne

/-- Attempts are made one after another until one settles the matter. -/
theorem uncut_attempts (policy : RetryPolicy) (left number : Nat) (w : World σ) :
    Uncut (Work.attempts policy signal (stream s c signal target prompt) left number) w
      fun result w' => ∃ failed last,
        Tries s signal (request c prompt) target left w failed last w' ∧ last.outcome = result := by
  induction left generalizing number w with
  | zero =>
      rw [Work.attempts]
      refine uncut_check_bind fun hlive => ?_
      refine (uncut_stream s c signal target prompt hlive).mono fun result w' h => ?_
      rcases h with ⟨reply, htook, houtcome⟩
      exact ⟨[], reply, tries_last htook, houtcome⟩
  | succ left ih =>
      rw [Work.attempts]
      refine uncut_check_bind fun hlive => ?_
      refine (uncut_stream s c signal target prompt hlive).attempt_bind (fun result w₁ h => ?_)
        fun w₁ => uncut_fail_aborted
      rcases h with ⟨reply, htook, houtcome⟩
      cases result with
      | ok text => exact ⟨[], reply, tries_last htook, houtcome⟩
      | error e =>
          simp only []
          by_cases hretry : e.isRetryable = true
          · rw [if_pos hretry]
            refine (Work.idles_pause policy signal number).uncut_bind fun _ w₂ hidle => ?_
            refine (ih (number + 1) w₂).mono fun result w' h => ?_
            rcases h with ⟨failed, last, htries, hlast⟩
            exact ⟨reply :: failed, last, Tries.again htook houtcome hretry hidle htries, hlast⟩
          · rw [if_neg hretry]
            intro e' he' _
            rw [← Stop.failed.inj he']
            exact ⟨[], reply, tries_last htook, houtcome⟩

theorem isCancelled_ofService_iff (e : ServiceError) :
    (MigrationError.ofService e).isCancelled = true ↔ e = .aborted := by
  cases e with
  | aborted => exact iff_of_true rfl rfl
  | _ => exact iff_of_false Bool.false_ne_true nofun

/-- To finish a file is to tell its content, and no service is asked for that. -/
theorem contents_finish (phase : Phase) (content : String) (w : World σ) (tree : Tree) :
    Ends (finish phase target content : WorkOn Tree σ ε Unit) (w, tree)
      (fun _ st => st.1.state = w.state ∧ st.1.requests = w.requests ∧
        st.1.contents = w.contents ++ [.fileContent target content false])
      (fun _ _ => False) := by
  refine ends_finish_of fun w₁ entry hw₁ => ?_
  have hbefore : w.Idle w₁ := by
    rcases hw₁ with rfl | ⟨warning, rfl⟩
    · exact .refl w₁
    · exact World.idle_tell rfl w
  refine ⟨hbefore.state, ?_, ?_⟩
  · rw [World.requests_tell, World.requests_tell, World.requests_tell, hbefore.requests]
  · rw [World.contents_tell_of_none rfl, World.contents_tell_of_none rfl,
      World.contents_tell_fileContent, hbefore.contents]

section Settled

variable {s c signal target prompt} {w w₁ : World σ} {tree : Tree} {failed : List Stream}
  {last : Stream}

/-- What a file is settled with covers that it was begun. -/
theorem modify_fill_setStatus (result : Option String) (status : FileStatus) :
    Tree.modify target (fill result) (Tree.setStatus target status tree) =
      Tree.modify target (fill result) tree := by
  rw [Tree.setStatus, Tree.modify_modify _ (refills_status status)]
  cases result with
  | none => rfl
  | some content => rfl

/-- When the last attempt was successful the file is finished with its text. -/
theorem Tries.ends_finish {text : String} (phase : Phase)
    (h : Tries s signal (request c prompt) target c.retry.maxRetries
      (w.tell (.fileStatus target .inProgress)) failed last w₁)
    (houtcome : last.outcome = .ok text) :
    Ends (finish phase target (Answer.stripFences text) : WorkOn Tree σ ε Unit)
      (w₁, Tree.setStatus target .inProgress tree)
      (fun _ st => ComesOf s c signal target prompt w tree failed last true st.1 st.2)
      (fun _ _ => False) := by
  have hcontent : contentOf last = some (Answer.stripFences text) := by
    rw [contentOf, houtcome]
    rfl
  have hsome : true = (contentOf last).isSome := by
    rw [hcontent, Option.isSome_some]
  refine ((contents_finish target phase _ w₁ _).and (Generation.ends_finish phase target _ w₁ _)).mono
    (fun _ st hst => ?_) (fun _ _ hf => hf.1.elim)
  rcases hst with ⟨⟨hstate, hrequests, hcontents⟩, -, htree⟩
  have htold : st.1.contents = w₁.contents ++
      (contentOf last).toList.map fun content => .fileContent target content false := by
    rw [hcontents, hcontent, Option.toList_some, List.map_singleton]
  have hfilled : st.2 = Tree.modify target (fill (contentOf last)) tree := by
    rw [htree, modify_fill_setStatus, hcontent]
  exact h.comesOf hsome (World.idle_tell rfl w) hstate hrequests htold hfilled

/-- When the last attempt has failed the file is given up, and nothing more is told of its content. -/
theorem Tries.comesOf_failed {e : ServiceError}
    (h : Tries s signal (request c prompt) target c.retry.maxRetries
      (w.tell (.fileStatus target .inProgress)) failed last w₁)
    (houtcome : last.outcome = .error e) (entry : LogEntry) :
    ComesOf s c signal target prompt w tree failed last false
      ((w₁.tell (.fileStatus target .error)).tell (.log entry))
      (Tree.setStatus target .error (Tree.setStatus target .inProgress tree)) := by
  have hcontent : contentOf last = none := by
    rw [contentOf, houtcome]
    rfl
  have hnone : false = (contentOf last).isSome := by
    rw [hcontent, Option.isSome_none]
  have hsettled : w₁.Idle ((w₁.tell (.fileStatus target .error)).tell (.log entry)) :=
    (World.idle_tell rfl w₁).trans (World.idle_tell rfl _)
  refine h.comesOf hnone (World.idle_tell rfl w) hsettled.state hsettled.requests ?_ ?_
  · rw [hsettled.contents, hcontent, Option.toList_none, List.map_nil, List.append_nil]
  · rw [hcontent]
    exact modify_fill_setStatus none .inProgress

end Settled

/-- A file that comes to a result comes of the last attempt alone. -/
theorem comesOf_generateFile (phase : Phase) (w : World σ) (tree : Tree) :
    Ends (generateFile s c phase signal target prompt) (w, tree)
      (fun generated st => ∃ failed last,
        ComesOf s c signal target prompt w tree failed last generated st.1 st.2)
      (fun _ _ => True) := by
  rw [generateFile, ends_bind, ends_setStatus, ends_bind, WorkOn.ends_ofWork, Work.ends_attempt,
    streamRetrying, ends_bind, Work.asPhase, Work.ends_mapError, Work.retrying]
  refine Ends.mono (uncut_attempts s c signal target prompt c.retry c.retry.maxRetries 1 _)
    (fun text w₁ h => ?_) (fun stop w₁ h => ?_)
  · rcases h with ⟨failed, last, htries, houtcome⟩
    rw [ends_pure]
    simp only []
    rw [ends_bind]
    refine (htries.ends_finish phase houtcome).mono (fun _ st hst => ?_) (fun _ _ hf => hf.elim)
    rw [ends_pure]
    exact ⟨failed, last, hst⟩
  · cases stop with
    | dropped => trivial
    | failed e =>
        simp only []
        by_cases hcut : e = .aborted
        · -- A generation that is cancelled comes to no result.
          rw [if_pos ((isCancelled_ofService_iff e).mpr hcut), ends_bind, ends_setStatus,
            WorkOn.ends_fail]
          trivial
        · rcases h e rfl hcut with ⟨failed, last, htries, houtcome⟩
          rw [if_neg fun he => hcut ((isCancelled_ofService_iff e).mp he), ends_bind, ends_setStatus,
            ends_bind, WorkOn.ends_log, ends_pure]
          exact ⟨failed, last, htries.comesOf_failed houtcome _⟩

end Attempts

/-- A service that has streams in store, and a file of which the first says too much. -/
example :
    let service : Service (List Stream) := {
      request := fun _ _ replies => ({ result := .error (.other "not streamed") }, replies)
      stream := fun _ _ replies => (replies.headD {}, replies.tail)
      hasKey := fun _ => true }
    let replies : List Stream := [
      { beats := [.chunk "let a = 1;", .chunk " let b"], failure := some (.status 503 "") },
      { beats := [.chunk "let", .act (.wait 10), .chunk " c = 3;"] }]
    Ends (generateFile service {} .generate 0 "a.ts" "") ({ state := replies }, [.file "a.ts"])
      (fun generated st => generated = true ∧ st.1.state.length = 0 ∧
        (Tree.find? "a.ts" st.2).bind FileNode.content = some "let c = 3;" ∧
        st.1.contents = [.fileContent "a.ts" "let a = 1;" true,
          .fileContent "a.ts" "let a = 1; let b" true, .fileContent "a.ts" "let" true,
          .fileContent "a.ts" "let c = 3;" true, .fileContent "a.ts" "let c = 3;" false])
      (fun _ _ => False) := by
  decide +kernel

end Generation

end Replatform
