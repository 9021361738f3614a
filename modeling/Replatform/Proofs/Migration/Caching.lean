import Replatform.Proofs.Migration.Rereading
import Replatform.Proofs.Migration.Scope
import Replatform.Proofs.Work.Idling

/-!
# A Cache That Is Shared

Legacy files are read through a cache, which all orchestrators may share. What a repository has given
once, it is not asked for again: by no phase, on no orchestrator, and however the phases end. What it has
failed to give is asked for again the next time.

A call of `analyze` or `scaffold` is seen here as the readings that it is made of. In between, no file is
read and the cache stays as it is, so that every reading finds the cache that the one before has left,
also across calls. This is all that the laws of the cache need to know of the calls. Whether a
repository was asked is seen from the deeds that a reading leaves, and not from what the cache has.

A reading under a signal that is aborted already comes to nothing before anything is looked up. One that
is cut off on the way has asked the repository, but has got nothing from it.

## Main definitions

* `World.Unread`: No file was read, and the cache is the same.
* `Reading`: A legacy file that is read, with `Reading.asked` and `Reading.content?`.
* `Orchestrator.Reads`: What was done between two worlds, as readings.
* `SharingCall`, `Cache.History`: Calls that share a cache, and their readings.
* `Cache.Serves`: Every reading finds the cache that the one before has left.
* `Cache.FetchesOnce`: What is asked for, and what is seen by whom.

## Theorems

* `Reading.came`: How a reading comes out.
* `Cache.Serves.keeps_content`: What the cache has is seen by all, and is asked for by none.
* `Cache.Serves.fetchesOnce`: Readings that share a cache fetch every file once.
* `Orchestrator.leads_analyze`, `leads_scaffold`: Phases are made of readings.
* `Cache.history_fetchesOnce`: So is what is done by calls that share a cache.
-/

namespace Replatform

variable {σ ε δ α : Type}

/-- A deed that reads no legacy file. -/
abbrev Deed.ReadsNone : Deed → Prop :=
  ReadsOnly fun _ _ => False

namespace World

/-- No legacy file was read between two worlds, and the cache is the same. -/
structure Unread (w w' : World σ) : Prop where
  since : w.Since Deed.ReadsNone w'
  cache : w'.cache = w.cache

instance : Composes (Unread (σ := σ)) where
  refl w := ⟨.refl w, rfl⟩
  trans h h' := ⟨h.since.trans h'.since, h'.cache.trans h.cache⟩

theorem unread_note (w : World σ) {d : Deed} (h : d.ReadsNone) : w.Unread (w.note d) :=
  ⟨since_note w h, rfl⟩

theorem reads_note_read (w : World σ) (url path : String) :
    (w.note (.read url path)).reads = w.reads + 1 :=
  List.countP_cons_of_pos rfl

theorem Since.reads_eq {w w' : World σ} (h : w.Since Deed.ReadsNone w') : w'.reads = w.reads := by
  rcases h with ⟨deeds, hw, hall⟩
  rw [reads, reads, hw, List.countP_append, Nat.add_eq_right, List.countP_eq_zero]
  intro d hd
  have hnone := hall d hd
  cases d with
  | read url path => exact hnone.elim
  | _ => exact Bool.false_ne_true

end World

section Unread

open World (Unread)

theorem unread_log (phase : Phase) (severity : Severity) (message : String) :
    Leads Unread (Work.log phase severity message : Work σ ε Unit) :=
  fun w => w.unread_note (d := .told _) trivial

/-- Whatever is left of a call is left of it as part of a phase. -/
theorem Ends.asPhase {call : Work σ ServiceError α} {w : World σ} {good : α → World σ → Prop}
    {P : World σ → Prop} (h : Ends call w good fun _ w' => P w') :
    Ends call.asPhase w good fun _ w' => P w' := by
  rw [Work.asPhase, Work.ends_mapError]
  refine h.mono (fun _ _ h' => h') (fun stop _ h' => ?_)
  cases stop with
  | failed e => exact h'
  | dropped => exact h'

theorem leads_asPhase {R : World σ → World σ → Prop} {call : Work σ ServiceError α}
    (h : Leads R call) : Leads R call.asPhase :=
  fun w => (h.ends w).asPhase.mono (fun _ _ h' => h') (fun _ _ h' _ => h')

theorem leads_attempt {R : World σ → World σ → Prop} {task : Work σ ε α} (h : Leads R task) :
    Leads R (Work.attempt task : Work σ δ _) := by
  intro w
  rw [Work.ends_attempt]
  refine (h w).mono (fun _ _ h' => h') (fun stop _ h' => ?_)
  cases stop with
  | failed e => exact h' trivial
  | dropped => exact h'

namespace Work

theorem leads_ofExcept {R : World σ → World σ → Prop} [Composes R] (r : Except ε α) :
    Leads R (ofExcept r : Work σ ε α) := by
  cases r with
  | ok a => exact leads_pure a
  | error e => exact leads_throw _

theorem unread_consult {β : Type} (signal : SignalId) (answer : Caller → σ → β × σ) :
    Leads Unread (consult signal answer : Work σ ε β) :=
  fun _ => ⟨.of_deeds_eq rfl, rfl⟩

theorem unread_wait (watch : SignalId) (ms : Nat) :
    Leads Unread (wait watch ms : Work σ ServiceError Unit) :=
  leads_wait (fun _ _ _ => ⟨.of_deeds_eq rfl, rfl⟩)
    (fun _ id => ⟨⟨[.cancelled id], rfl, fun _ hd => List.mem_singleton.mp hd ▸ trivial⟩, rfl⟩)
    watch ms

theorem unread_performAll (watch : SignalId) (acts : List Act) :
    Leads Unread (performAll watch acts : Work σ ServiceError Unit) := by
  induction acts with
  | nil => exact leads_pure ()
  | cons act acts ih =>
      refine LeadsIf.bind ?_ fun _ => ih
      cases act with
      | wait ms => exact unread_wait watch ms
      | cancel id =>
          exact fun _ => ⟨⟨[.cancelled id], rfl, fun _ hd => List.mem_singleton.mp hd ▸ trivial⟩, rfl⟩

theorem unread_pause (policy : RetryPolicy) (signal : SignalId) (number : Nat) :
    Leads Unread (pause policy signal number : Work σ ServiceError Unit) := by
  have hdraw : Leads Unread (draw : Work σ ServiceError Nat) := fun _ => ⟨.of_deeds_eq rfl, rfl⟩
  refine hdraw.bind fun _ => (leads_check signal).bind fun _ => ?_
  exact LeadsIf.bind (fun w => w.unread_note (d := .paused _) trivial) fun _ => unread_wait signal _

theorem unread_attempts (policy : RetryPolicy) (signal : SignalId) {task : Work σ ServiceError α}
    (h : Leads Unread task) (left number : Nat) :
    Leads Unread (attempts policy signal task left number) := by
  induction left generalizing number with
  | zero => exact (leads_check signal).bind fun _ => h
  | succ left ih =>
      refine (leads_check signal).bind fun _ => (leads_attempt h).bind fun result => ?_
      cases result with
      | ok a => exact leads_pure a
      | error e =>
          exact leads_ite ((unread_pause policy signal number).bind fun _ => ih (number + 1))
            (leads_throw _)

end Work

theorem Service.unread_call (s : Service σ) (signal : SignalId) (r : Request) :
    Leads Unread (s.call signal r) := by
  refine LeadsIf.bind (fun w => w.unread_note (d := .asked r) trivial) fun _ => ?_
  refine (Work.unread_consult signal _).bind fun reply => ?_
  exact (Work.unread_performAll signal reply.acts).bind fun _ => Work.leads_ofExcept _

theorem Repository.unread_fetch (r : Repository σ) (signal : SignalId) (url : String) :
    Leads Unread (r.fetch signal url) := by
  refine (Work.leads_check signal).bind fun _ => ?_
  refine LeadsIf.bind (fun w => w.unread_note (d := .listed url) trivial) fun _ => ?_
  refine (Work.unread_consult signal _).bind fun reply => ?_
  exact (Work.unread_performAll signal reply.acts).bind fun _ => leads_pure _

end Unread

/-- A legacy file that is read: by whom, under which signal, and in which world. -/
structure Reading (σ : Type) where
  reader : Orchestrator σ
  signal : SignalId
  url : String
  path : String
  world : World σ

namespace Reading

variable (r : Reading σ)

/-- The repository and the path of the file. -/
def file : String × String :=
  (r.url, r.path)

/-- What is done to read the file. -/
def task : Work σ MigrationError (Except RepositoryError String) :=
  r.reader.readSource r.url r.path r.signal

/-- The world that the reading leaves. -/
def left : World σ :=
  leaves r.task r.world

/-- The content that was read. -/
def content? : Option String :=
  match r.task r.world with
  | .ok (.ok content) _ => some content
  | _ => none

/-- The repository was asked for the file. -/
def asked : Bool :=
  r.world.reads < r.left.reads

/-- The repository was asked for the file and gave its content. -/
def fetched : Bool :=
  r.asked && r.content?.isSome

/-- The signal was aborted before the reading began. -/
def aborted : Bool :=
  r.world.signals.isAborted r.signal

/-- What the repository gives when it is asked for the file. -/
def answer : Except RepositoryError String :=
  (r.reader.repository.read { signal := r.signal, aborted := r.aborted, now := r.world.now } r.url
    r.path r.world.state).1.result

/-- How a reading comes out. -/
inductive Came : Prop where
  /-- Nothing was looked up under an aborted signal. -/
  | off (haborted : r.aborted = true) (hcontent : r.content? = none) (hleft : r.left = r.world)
  /-- The cache had the file. -/
  | cached (content : String) (haborted : r.aborted = false)
    (hcached : r.world.cache.get? r.url r.path = some content)
    (hcontent : r.content? = some content) (hleft : r.left = r.world)
  /-- The repository was asked, and its answer was awaited. -/
  | fetched (content : String) (haborted : r.aborted = false)
    (hcached : r.world.cache.get? r.url r.path = none) (hcontent : r.content? = some content)
    (hanswer : r.answer = .ok content) (hreads : r.left.reads = r.world.reads + 1)
    (hleft : r.left.cache = r.world.cache.insert r.url r.path content)
  /-- The repository was asked and failed, or the reading was cut off. -/
  | failed (haborted : r.aborted = false) (hcached : r.world.cache.get? r.url r.path = none)
    (hcontent : r.content? = none) (hreads : r.left.reads = r.world.reads + 1)
    (hleft : r.left.cache = r.world.cache)

end Reading

/-- What is left of a file that is asked for: it was asked for once, and the cache has it if it was
    given. -/
theorem Repository.ends_readFile (r : Repository σ) (signal : SignalId) (url path : String)
    (w : World σ) :
    Ends (r.readFile signal url path) w
      (fun result w' => w'.reads = w.reads + 1 ∧
        (r.read { signal, aborted := w.signals.isAborted signal, now := w.now } url path
          w.state).1.result = result ∧
        w'.cache = match result with
          | .ok content => w.cache.insert url path content
          | .error _ => w.cache)
      (fun _ w' => w'.reads = w.reads + 1 ∧ w'.cache = w.cache) := by
  rw [readFile, ends_bind, Work.ends_note, ends_bind, Work.ends_consult]
  generalize hreply : r.read _ url path _ = reply
  rw [ends_bind]
  -- While the answer is awaited, nothing is read and the cache stays as it is.
  have hread : ∀ w', World.Unread { w.note (.read url path) with state := reply.2 } w' →
      w'.reads = w.reads + 1 := fun w' h => h.since.reads_eq.trans (w.reads_note_read url path)
  have hwait := Work.unread_performAll (σ := σ) signal reply.1.acts
    { w.note (.read url path) with state := reply.2 }
  refine hwait.mono (fun _ w₁ h₁ => ?_) (fun _ w₁ h₁ => ⟨hread w₁ (h₁ trivial), (h₁ trivial).cache⟩)
  have hcaller : (r.read { signal, aborted := w.signals.isAborted signal, now := w.now } url path
      w.state) = reply := hreply
  rw [hcaller]
  cases hresult : reply.1.result with
  | ok content =>
      refine ⟨hread w₁ h₁, rfl, ?_⟩
      exact congrArg (Cache.insert · url path content) h₁.cache
  | error e => exact ⟨hread w₁ h₁, rfl, h₁.cache⟩

theorem Reading.came (r : Reading σ) : r.Came := by
  have happly : r.task r.world = _ := Orchestrator.readSource_apply r.reader r.world
  by_cases haborted : r.world.signals.isAborted r.signal = true
  · rw [if_pos haborted] at happly
    exact .off haborted (by rw [content?, happly]) (by rw [left, leaves, happly])
  rw [if_neg haborted] at happly
  have hlive : r.aborted = false := Bool.eq_false_iff.mpr haborted
  cases hcached : r.world.cache.get? r.url r.path with
  | some content =>
      rw [hcached] at happly
      exact .cached content hlive hcached (by rw [content?, happly]) (by rw [left, leaves, happly])
  | none =>
      rw [hcached] at happly
      rcases (r.reader.repository.ends_readFile r.signal r.url r.path r.world).asPhase.ok_or_error with
        ⟨result, w', hread, hreads, hanswer, hcache⟩ | ⟨stop, w', hread, hreads, hcache⟩
      · rw [hread] at happly
        have hleft : r.left = w' := by rw [left, leaves, happly]
        rw [← hleft] at hreads hcache
        cases result with
        | ok content =>
            exact .fetched content hlive hcached (by rw [content?, happly]) hanswer hreads hcache
        | error e => exact .failed hlive hcached (by rw [content?, happly]) hreads hcache
      · -- The reading was cut off while the answer was on its way.
        rw [hread] at happly
        have hleft : r.left = w' := by rw [left, leaves, happly]
        rw [← hleft] at hreads hcache
        exact .failed hlive hcached (by rw [content?, happly]) hreads hcache

namespace Cache

/-- What is dropped of one file is not seen from another one. -/
theorem lookup_filter_ne {file dropped : String × String} (h : file ≠ dropped)
    (entries : List ((String × String) × String)) :
    List.lookup file (entries.filter (·.1 ≠ dropped)) = List.lookup file entries := by
  induction entries with
  | nil => rfl
  | cons e entries ih =>
      rw [List.lookup_cons]
      by_cases he : e.1 = dropped
      · rw [List.filter_cons_of_neg (by rw [decide_eq_true_eq]; exact not_not_intro he), ih,
          beq_eq_false_iff_ne.mpr (he ▸ h)]
      · rw [List.filter_cons_of_pos (by rw [decide_eq_true_eq]; exact he), List.lookup_cons, ih]

theorem get?_insert {c : Cache} (hkeeps : c.keeps = true) (url path content url' path' : String) :
    (c.insert url path content).get? url' path' =
      if (url', path') = (url, path) then some content else c.get? url' path' := by
  rw [insert, if_pos hkeeps, get?, List.lookup_cons]
  by_cases hfile : (url', path') = (url, path)
  · rw [if_pos hfile, beq_iff_eq.mpr hfile]
  · rw [if_neg hfile, beq_eq_false_iff_ne.mpr hfile]
    exact lookup_filter_ne hfile c.entries

theorem keeps_insert (c : Cache) (url path content : String) :
    (c.insert url path content).keeps = c.keeps := by
  rw [insert]
  split_ifs <;> rfl

end Cache

namespace Reading

variable {r : Reading σ} {url path content : String}

theorem fetched_iff : r.fetched = true ↔ r.asked = true ∧ ∃ content, r.content? = some content := by
  rw [fetched, Bool.and_eq_true, Option.isSome_iff_exists]

theorem asked_of_left_eq (h : r.left = r.world) : r.asked = false := by
  rw [asked, h, decide_eq_false (Nat.lt_irrefl _)]

theorem asked_of_reads_left (h : r.left.reads = r.world.reads + 1) : r.asked = true := by
  rw [asked, h, decide_eq_true (Nat.lt_succ_self _)]

/-- A repository is asked for a file once by a reading, if at all. -/
theorem reads_left (r : Reading σ) : r.left.reads = r.world.reads + if r.asked then 1 else 0 := by
  cases r.came with
  | off _ _ hleft | cached _ _ _ _ hleft =>
      rw [asked_of_left_eq hleft, hleft]
      rfl
  | fetched _ _ _ _ _ hreads _ | failed _ _ _ hreads _ =>
      rw [asked_of_reads_left hreads, hreads]
      rfl

theorem keeps_left (r : Reading σ) : r.left.cache.keeps = r.world.cache.keeps := by
  cases r.came with
  | fetched content _ _ _ _ _ hleft => rw [hleft, Cache.keeps_insert]
  | off _ _ hleft | cached _ _ _ _ hleft | failed _ _ _ _ hleft => rw [hleft]

/-- What the cache has is seen by everybody, and the repository is not asked for it. -/
theorem of_cached (hcached : r.world.cache.get? r.url r.path = some content) :
    r.asked = false ∧ r.content? = if r.aborted then none else some content := by
  cases r.came with
  | off haborted hcontent hleft =>
      exact ⟨asked_of_left_eq hleft, by rw [hcontent, if_pos haborted]⟩
  | cached content' haborted hcached' hcontent hleft =>
      rw [hcached', Option.some.injEq] at hcached
      rw [hcontent, haborted, hcached]
      exact ⟨asked_of_left_eq hleft, rfl⟩
  | fetched _ _ hmissing _ _ _ _ | failed _ hmissing _ _ _ =>
      exact absurd (hmissing.symm.trans hcached) (Option.some_ne_none content).symm

/-- What the cache does not have is asked for by everybody. -/
theorem of_missing (hmissing : r.world.cache.get? r.url r.path = none) : r.asked = !r.aborted := by
  cases r.came with
  | off haborted _ hleft =>
      rw [asked_of_left_eq hleft, haborted]
      rfl
  | cached content _ hcached _ _ =>
      exact absurd (hmissing.symm.trans hcached) (Option.some_ne_none content).symm
  | fetched _ haborted _ _ _ hreads _ | failed haborted _ _ hreads _ =>
      rw [asked_of_reads_left hreads, haborted]
      rfl

/-- What is seen of a file was given for it. -/
theorem of_content (hcontent : r.content? = some content) :
    r.asked = true ∧ r.answer = .ok content ∨ r.world.cache.get? r.url r.path = some content := by
  cases r.came with
  | off _ hnone _ | failed _ _ hnone _ _ =>
      exact absurd (hnone.symm.trans hcontent) (Option.some_ne_none content).symm
  | cached content' _ hcached hcontent' _ => exact .inr (hcached.trans (hcontent'.symm.trans hcontent))
  | fetched content' _ _ hcontent' hanswer hreads _ =>
      rw [hcontent', Option.some.injEq] at hcontent
      exact .inl ⟨asked_of_reads_left hreads, hcontent ▸ hanswer⟩

theorem answer_of_asked (hasked : r.asked = true) (hcontent : r.content? = some content) :
    r.answer = .ok content := by
  rcases of_content hcontent with h | hcached
  · exact h.2
  · exact absurd ((of_cached hcached).1.symm.trans hasked) Bool.false_ne_true

/-- What a reading leaves of a file in the cache was there before, or was given to this reading. -/
theorem get?_left (hkeeps : r.world.cache.keeps = true) (url path : String) :
    r.left.cache.get? url path =
      if r.file = (url, path) ∧ r.fetched = true then r.content? else r.world.cache.get? url path := by
  cases r.came with
  | fetched content _ _ hcontent _ hreads hleft =>
      have hfetched : r.fetched = true := fetched_iff.mpr ⟨asked_of_reads_left hreads, content, hcontent⟩
      rw [hleft, Cache.get?_insert hkeeps, hcontent]
      exact if_congr ⟨fun h => ⟨h.symm, hfetched⟩, fun h => h.1.symm⟩ rfl rfl
  | off _ _ hleft | cached _ _ _ _ hleft =>
      rw [hleft, if_neg]
      exact fun h => Bool.false_ne_true ((asked_of_left_eq hleft).symm.trans (fetched_iff.mp h.2).1)
  | failed _ _ hcontent _ hleft =>
      rw [hleft, if_neg]
      rintro ⟨-, h⟩
      rcases fetched_iff.mp h with ⟨-, content, hsome⟩
      exact Option.some_ne_none content (hsome.symm.trans hcontent)

end Reading

namespace Cache

/-- Every reading finds the cache that the one before has left. -/
inductive Serves : Cache → List (Reading σ) → Cache → Prop
  | nil (c : Cache) : Serves c [] c
  | cons (r : Reading σ) {later : List (Reading σ)} {c' : Cache} (h : Serves r.left.cache later c') :
    Serves r.world.cache (r :: later) c'

/-- What is asked for by readings that begin with a cache, and what is seen by whom. -/
structure FetchesOnce (c : Cache) (history : List (Reading σ)) : Prop where
  /-- A repository gives the content of a file once. -/
  once : ∀ url path, history.countP (fun r => r.file == (url, path) && r.fetched) ≤ 1
  /-- What the cache had is not asked for, and is what everybody sees. -/
  had : ∀ r ∈ history, ∀ content, c.get? r.url r.path = some content →
    r.asked = false ∧ r.content? = if r.aborted then none else some content
  /-- What a repository gave is not asked for any more, and is what everybody sees from then on. -/
  given : ∀ before r later, history = before ++ r :: later → r.asked = true →
    ∀ content, r.content? = some content → ∀ r' ∈ later, r'.file = r.file →
      r'.asked = false ∧ r'.content? = if r'.aborted then none else some content
  /-- What it has not given yet is asked for. -/
  retried : ∀ before r later, history = before ++ r :: later → c.get? r.url r.path = none →
    (∀ r' ∈ before, r'.file = r.file → r'.fetched = false) → r.asked = !r.aborted
  /-- What is seen of a file is an answer that was given for it, unless the cache had it. -/
  own : ∀ before r later, history = before ++ r :: later → ∀ content, r.content? = some content →
    c.get? r.url r.path = some content ∨
      ∃ r' ∈ before ++ [r], r'.file = r.file ∧ r'.asked = true ∧ r'.answer = .ok content

namespace Serves

variable {c c' c'' : Cache} {history later : List (Reading σ)} {url path content : String}

theorem append (h : Serves c history c') (h' : Serves c' later c'') :
    Serves c (history ++ later) c'' := by
  induction h with
  | nil => exact h'
  | cons r _ ih => exact .cons r (ih h')

/-- Readings one after another, seen from one of them. -/
theorem at_split {before : List (Reading σ)} {r : Reading σ} (h : Serves c (before ++ r :: later) c') :
    Serves c before r.world.cache ∧ Serves r.left.cache later c' := by
  induction before generalizing c with
  | nil =>
      cases h with
      | cons _ h => exact ⟨.nil _, h⟩
  | cons r' before ih =>
      cases h with
      | cons _ h => exact ⟨.cons r' (ih h).1, (ih h).2⟩

theorem keeps (h : Serves c history c') : c'.keeps = c.keeps := by
  induction h with
  | nil => rfl
  | cons r _ ih => rw [ih, r.keeps_left]

/-- What the cache has is seen by all, and is asked for by none. -/
theorem keeps_content (h : Serves c history c') (hkeeps : c.keeps = true)
    (hcached : c.get? url path = some content) :
    c'.get? url path = some content ∧ ∀ r ∈ history, r.file = (url, path) →
      r.asked = false ∧ r.content? = if r.aborted then none else some content := by
  induction h with
  | nil => exact ⟨hcached, fun _ hr => absurd hr List.not_mem_nil⟩
  | cons r _ ih =>
      have hseen : r.file = (url, path) →
          r.asked = false ∧ r.content? = if r.aborted then none else some content := by
        intro hfile
        rw [Reading.file, Prod.mk.injEq] at hfile
        exact Reading.of_cached (by rw [hfile.1, hfile.2, hcached])
      have hleft : r.left.cache.get? url path = some content := by
        rw [Reading.get?_left hkeeps, if_neg, hcached]
        rintro ⟨hfile, hfetched⟩
        exact Bool.false_ne_true ((hseen hfile).1.symm.trans (Reading.fetched_iff.mp hfetched).1)
      have hrest := ih (r.keeps_left.trans hkeeps) hleft
      exact ⟨hrest.1, List.forall_mem_cons.mpr ⟨hseen, hrest.2⟩⟩

/-- What the cache has in the end it had, or it was given for that file. -/
theorem get?_eq_some (h : Serves c history c') (hkeeps : c.keeps = true)
    (hcached : c'.get? url path = some content) :
    c.get? url path = some content ∨
      ∃ r ∈ history, r.file = (url, path) ∧ r.asked = true ∧ r.content? = some content := by
  induction h with
  | nil => exact .inl hcached
  | cons r _ ih =>
      rcases ih (r.keeps_left.trans hkeeps) hcached with hleft | ⟨r', hr', hgiven⟩
      · rw [Reading.get?_left hkeeps] at hleft
        by_cases hfetched : r.file = (url, path) ∧ r.fetched = true
        · rw [if_pos hfetched] at hleft
          exact .inr ⟨r, List.mem_cons_self, hfetched.1, (Reading.fetched_iff.mp hfetched.2).1, hleft⟩
        · rw [if_neg hfetched] at hleft
          exact .inl hleft
      · exact .inr ⟨r', List.mem_cons_of_mem _ hr', hgiven⟩

/-- A file that the cache has is not fetched. -/
theorem countP_fetched_of_cached (h : Serves c history c') (hkeeps : c.keeps = true)
    (hcached : c.get? url path = some content) :
    history.countP (fun r => r.file == (url, path) && r.fetched) = 0 := by
  rw [List.countP_eq_zero]
  intro r hr hfetched
  rw [Bool.and_eq_true, beq_iff_eq, Reading.fetched_iff] at hfetched
  have hasked := ((h.keeps_content hkeeps hcached).2 r hr hfetched.1).1
  exact Bool.false_ne_true (hasked.symm.trans hfetched.2.1)

theorem countP_fetched_le (h : Serves c history c') (hkeeps : c.keeps = true) (url path : String) :
    history.countP (fun r => r.file == (url, path) && r.fetched) ≤ 1 := by
  induction h with
  | nil => exact Nat.zero_le 1
  | cons r hlater ih =>
      have hkeeps' := r.keeps_left.trans hkeeps
      rw [List.countP_cons]
      by_cases hfetched : (r.file == (url, path) && r.fetched) = true
      · -- From the first success on the cache has the file.
        rw [Bool.and_eq_true, beq_iff_eq] at hfetched
        rcases Reading.fetched_iff.mp hfetched.2 with ⟨-, content, hcontent⟩
        have hleft : r.left.cache.get? url path = some content := by
          rw [Reading.get?_left hkeeps, if_pos hfetched, hcontent]
        rw [hlater.countP_fetched_of_cached hkeeps' hleft, Nat.zero_add]
        split_ifs
        · exact Nat.le_refl 1
        · exact Nat.zero_le 1
      · rw [if_neg hfetched, Nat.add_zero]
        exact ih hkeeps'

/-- Readings that share a cache fetch every file once. -/
theorem fetchesOnce (h : Serves c history c') (hkeeps : c.keeps = true) : c.FetchesOnce history where
  once := h.countP_fetched_le hkeeps
  had r hr content hcached := (h.keeps_content hkeeps hcached).2 r hr rfl
  given := by
    rintro before r later rfl hasked content hcontent r' hr' hfile
    have hsplit := h.at_split
    have hkeeps' : r.world.cache.keeps = true := hsplit.1.keeps.trans hkeeps
    have hleft : r.left.cache.get? r.url r.path = some content := by
      rw [Reading.get?_left hkeeps', if_pos ⟨rfl, Reading.fetched_iff.mpr ⟨hasked, content, hcontent⟩⟩,
        hcontent]
    exact (hsplit.2.keeps_content (r.keeps_left.trans hkeeps') hleft).2 r' hr' hfile
  retried := by
    rintro before r later rfl hmissing hbefore
    refine Reading.of_missing (Option.eq_none_iff_forall_ne_some.mpr fun content hcached => ?_)
    -- If the cache had the file, then from a reading that has fetched it.
    rcases h.at_split.1.get?_eq_some hkeeps hcached with hsome | ⟨r', hr', hfile, hasked, hcontent⟩
    · exact Option.some_ne_none content (hsome.symm.trans hmissing)
    · have hfetched := Reading.fetched_iff.mpr ⟨hasked, content, hcontent⟩
      exact Bool.false_ne_true ((hbefore r' hr' hfile).symm.trans hfetched)
  own := by
    rintro before r later rfl content hcontent
    rcases Reading.of_content hcontent with hgiven | hcached
    · exact .inr ⟨r, List.mem_append_right _ (List.mem_singleton.mpr rfl), rfl, hgiven⟩
    rcases h.at_split.1.get?_eq_some hkeeps hcached with hsome | ⟨r', hr', hfile, hasked, hcontent'⟩
    · exact .inl hsome
    · refine .inr ⟨r', List.mem_append_left _ hr', hfile, hasked, ?_⟩
      exact Reading.answer_of_asked hasked hcontent'

end Serves

end Cache

namespace Orchestrator

/-- What was done between two worlds under a signal, seen as the readings that it is made of. Nothing
    is read in between. -/
inductive Reads (o : Orchestrator σ) (signal : SignalId) :
    World σ → List (Reading σ) → World σ → Prop
  | rest {w w' : World σ} (h : w.Unread w') : Reads o signal w [] w'
  | read (url path : String) {w w₁ w' : World σ} {later : List (Reading σ)} (h : w.Unread w₁)
    (hlater : Reads o signal (leaves (o.readSource url path signal) w₁) later w') :
    Reads o signal w (⟨o, signal, url, path, w₁⟩ :: later) w'

/-- What was done between two worlds can be seen as readings. -/
def IsReadIn (o : Orchestrator σ) (signal : SignalId) (w w' : World σ) : Prop :=
  ∃ readings, o.Reads signal w readings w'

/-- The same, whatever becomes of a run meanwhile. -/
def IsReadOn (o : Orchestrator σ) (signal : SignalId) (s s' : World σ × Run) : Prop :=
  o.IsReadIn signal s.1 s'.1

variable {o : Orchestrator σ} {signal : SignalId}

namespace Reads

variable {w w' w'' : World σ} {readings later : List (Reading σ)}

theorem after (h : w.Unread w') (hreads : o.Reads signal w' readings w'') :
    o.Reads signal w readings w'' := by
  cases hreads with
  | rest h' => exact .rest (Composes.trans h h')
  | read url path h' hlater => exact .read url path (Composes.trans h h') hlater

theorem append (h : o.Reads signal w readings w') (h' : o.Reads signal w' later w'') :
    o.Reads signal w (readings ++ later) w'' := by
  induction h with
  | rest h => exact h'.after h
  | read url path h _ ih => exact .read url path h (ih h')

/-- Every reading finds the cache that the one before has left. -/
theorem serves (h : o.Reads signal w readings w') : w.cache.Serves readings w'.cache := by
  induction h with
  | rest h =>
      rw [h.cache]
      exact .nil _
  | read url path h _ ih =>
      rw [← h.cache]
      exact .cons ⟨o, signal, url, path, _⟩ ih

/-- Repositories are asked as often as the readings say. -/
theorem reads_eq (h : o.Reads signal w readings w') :
    w'.reads = w.reads + readings.countP Reading.asked := by
  induction h with
  | rest h => exact h.since.reads_eq
  | @read url path w w₁ w' later h _ ih =>
      have hleft := Reading.reads_left ⟨o, signal, url, path, w₁⟩
      rw [ih, List.countP_cons, Nat.add_comm (List.countP _ _), ← Nat.add_assoc, ← h.since.reads_eq]
      exact congrArg (· + _) hleft

end Reads

instance : Composes (o.IsReadIn signal) where
  refl w := ⟨[], .rest (Composes.refl w)⟩
  trans h h' := by
    rcases h with ⟨readings, h⟩
    rcases h' with ⟨later, h'⟩
    exact ⟨readings ++ later, h.append h'⟩

instance : Composes (o.IsReadOn signal) where
  refl s := Composes.refl s.1
  trans h h' := Composes.trans (R := o.IsReadIn signal) h h'

/-- Nothing is read by what is done without reading. -/
theorem leads_of_unread {task : Work σ ε α} (h : Leads World.Unread task) :
    Leads (o.IsReadIn signal) task :=
  fun w => (h w).mono (fun _ _ h' => ⟨[], .rest h'⟩) (fun _ _ h' _ => ⟨[], .rest (h' trivial)⟩)

theorem leads_log (phase : Phase) (severity : Severity) (message : String) :
    Leads (o.IsReadIn signal) (Work.log phase severity message : Work σ ε Unit) :=
  leads_of_unread (unread_log phase severity message)

theorem leads_check : Leads (o.IsReadIn signal) (Work.check signal).asPhase :=
  leads_asPhase (Work.leads_check signal)

theorem leads_call (request : Request) : Leads (o.IsReadIn signal) (o.call signal request) := by
  refine leads_of_unread (leads_asPhase ?_)
  exact Work.unread_attempts _ signal (o.service.unread_call signal request) _ 1

theorem leads_readSource (url path : String) :
    Leads (o.IsReadIn signal) (o.readSource url path signal) := by
  intro w
  have hread : o.IsReadIn signal w (leaves (o.readSource url path signal) w) :=
    ⟨_, .read url path (Composes.refl w) (.rest (Composes.refl _))⟩
  exact (ends_iff_leaves.mpr hread).mono (fun _ _ h => h) (fun _ _ h _ => h)

theorem leads_survey (url : String) : Leads (o.IsReadIn signal) (o.survey url signal) := by
  refine (leads_log _ _ _).bind fun _ => ?_
  refine (leads_of_unread (leads_asPhase (o.repository.unread_fetch signal url))).bind fun fetched => ?_
  cases fetched with
  | error e => exact leads_throw _
  | ok tree =>
      exact leads_ite ((leads_log _ _ _).bind fun _ => leads_throw _)
        ((leads_log _ _ _).bind fun _ => leads_pure _)

theorem leads_readReadme (run : Run) : Leads (o.IsReadIn signal) (o.readReadme signal run) := by
  unfold readReadme
  cases run.legacyTree.readme? with
  | none => exact leads_pure none
  | some path =>
      refine (leads_readSource run.repoUrl path).bind fun content? => ?_
      cases content? with
      | ok content => exact leads_pure _
      | error e => exact (leads_log _ _ _).bind fun _ => leads_pure none

theorem leads_askAnalysis (run : Run) : Leads (o.IsReadIn signal) (o.askAnalysis signal run) :=
  (leads_call _).bind fun _ => (leads_log _ _ _).bind fun _ => leads_pure _

theorem leads_askDiagram (a : Analysis) : Leads (o.IsReadIn signal) (o.askDiagram signal a) := by
  refine Work.leads_get.bind fun w => leads_ite ((leads_log _ _ _).bind fun _ => leads_pure none) ?_
  refine (leads_attempt (leads_call _)).bind fun answer => ?_
  cases answer with
  | ok response =>
      simp only []
      cases response.firstImage? with
      | some image => exact (leads_log _ _ _).bind fun _ => leads_pure _
      | none => exact (leads_log _ _ _).bind fun _ => leads_pure _
  | error e => exact leads_ite (leads_throw _) ((leads_log _ _ _).bind fun _ => leads_pure none)

theorem leads_now : Leads (o.IsReadIn signal) (Work.now : Work σ ε Nat) :=
  Work.leads_get.bind fun w => leads_pure w.now

theorem leads_introduced (run : Run) (started : Nat) :
    Leads (o.IsReadIn signal) (o.introduced signal run started) := by
  refine leads_check.bind fun _ => (leads_askAnalysis run).bind fun analysis => leads_ite ?_ ?_
  · refine (leads_askDiagram _).bind fun diagram => (leads_pure _).bind fun _ => ?_
    exact leads_now.bind fun _ => leads_pure _
  · exact (leads_pure _).bind fun _ => leads_now.bind fun _ => leads_pure _

/-- An analysis reads the introduction to the project, if it comes to that. -/
theorem leads_analyze (url : String) : Leads (o.IsReadIn signal) (o.analyze url signal) := by
  refine leads_now.bind fun started => (leads_survey url).bind fun run => ?_
  exact (leads_readReadme run).bind fun readme => leads_introduced _ started

theorem leads_readSources (url : String) (paths : List String) (sources : SourceFiles) :
    Leads (o.IsReadIn signal) (o.readSources url signal paths sources) := by
  induction paths generalizing sources with
  | nil => exact leads_pure sources
  | cons path paths ih =>
      refine leads_check.bind fun _ => (leads_readSource url path).bind fun content? => ?_
      cases content? with
      | ok content => exact ih _
      | error e =>
          exact leads_ite ((leads_log _ _ _).bind fun _ => leads_throw _)
            ((leads_log _ _ _).bind fun _ => ih sources)

/-- The run in the hands makes no difference to what is read. -/
theorem leads_onRun {task : Work σ ε α} (h : Leads (o.IsReadIn signal) task) :
    Leads (o.IsReadOn signal) (WorkOn.ofWork task : WorkOn Run σ ε α) := by
  rintro ⟨w, run⟩
  rw [WorkOn.ends_ofWork]
  exact h w

theorem leads_runLog (phase : Phase) (severity : Severity) (message : String) :
    Leads (o.IsReadOn signal) (WorkOn.log phase severity message : WorkOn Run σ ε Unit) :=
  leads_onRun (leads_log phase severity message)

theorem leads_runChange (f : Run → Run) :
    Leads (o.IsReadOn signal) (WorkOn.change f : WorkOn Run σ ε Unit) :=
  WorkOn.leads_change fun w _ => Composes.refl (R := o.IsReadIn signal) w

theorem leads_adopt (sources : SourceFiles) (request : Request) (started : Nat) :
    Leads (o.IsReadOn signal) (o.adopt sources request signal started) := by
  refine (leads_runChange _).bind fun _ => (leads_onRun (leads_call request)).bind fun response => ?_
  generalize Answer.plan response.textOrEmpty = planned
  refine leads_ite ((leads_runLog _ _ _).bind fun _ => WorkOn.leads_fail _) ?_
  refine (leads_runChange _).bind fun _ => WorkOn.leads_held.bind fun _ => ?_
  refine (leads_runLog _ _ _).bind fun _ => (leads_onRun leads_now).bind fun _ => ?_
  exact leads_runChange _

/-- The planning of a scaffold reads legacy files until one cannot be read. -/
theorem leads_scaffold : Leads (o.IsReadOn signal) (o.scaffold signal) := by
  refine (leads_onRun leads_now).bind fun _ => WorkOn.leads_held.bind fun run => ?_
  refine (leads_runLog _ _ _).bind fun _ => (leads_onRun (leads_readSources _ _ _)).bind fun sources => ?_
  refine (leads_runChange _).bind fun _ => (leads_runLog _ _ _).bind fun _ => ?_
  exact (leads_runLog _ _ _).ite_bind fun _ => leads_adopt sources _ _

end Orchestrator

/-- A call of a phase that reads legacy files. -/
inductive SharingCall (σ : Type) where
  | analyze (o : Orchestrator σ) (url : String) (signal : SignalId)
  | scaffold (o : Orchestrator σ) (run : Run) (signal : SignalId)

namespace SharingCall

/-- Who is called. -/
def reader : SharingCall σ → Orchestrator σ
  | analyze o _ _ | scaffold o _ _ => o

/-- The signal of the call. -/
def signal : SharingCall σ → SignalId
  | analyze _ _ signal | scaffold _ _ signal => signal

/-- The world that a call leaves, in whatever way it ends. -/
def left : SharingCall σ → World σ → World σ
  | analyze o url signal, w => leaves (o.analyze url signal) w
  | scaffold o run signal, w => (leaves (o.scaffold signal) (w, run)).1

/-- A call is made of readings. -/
theorem isReadIn (call : SharingCall σ) (w : World σ) :
    call.reader.IsReadIn call.signal w (call.left w) := by
  cases call with
  | analyze o url signal =>
      exact ends_iff_leaves.mp (LeadsIf.ends (Orchestrator.leads_analyze url) w)
  | scaffold o run signal =>
      have hends : Ends (o.scaffold signal) (w, run) (fun _ s => o.IsReadIn signal w s.1)
          (fun _ s => o.IsReadIn signal w s.1) := LeadsIf.ends Orchestrator.leads_scaffold (w, run)
      exact ends_iff_leaves.mp hends

end SharingCall

namespace Cache

/-- The readings of calls that are made one after another with one cache, each in a world that is
    otherwise its own. -/
inductive History : Cache → List (SharingCall σ × World σ) → List (Reading σ) → Prop
  | nil (c : Cache) : History c [] []
  | cons {c : Cache} {call : SharingCall σ} {w : World σ} {calls : List (SharingCall σ × World σ)}
    {readings later : List (Reading σ)}
    (h : call.reader.Reads call.signal { w with cache := c } readings (call.left { w with cache := c }))
    (hlater : History (call.left { w with cache := c }).cache calls later) :
    History c ((call, w) :: calls) (readings ++ later)

theorem History.serves {c : Cache} {calls : List (SharingCall σ × World σ)}
    {history : List (Reading σ)} (h : c.History calls history) : ∃ c', c.Serves history c' := by
  induction h with
  | nil c => exact ⟨c, .nil c⟩
  | cons h _ ih =>
      rcases ih with ⟨c', hserves⟩
      exact ⟨c', h.serves.append hserves⟩

theorem exists_history (c : Cache) (calls : List (SharingCall σ × World σ)) :
    ∃ history, c.History calls history := by
  induction calls generalizing c with
  | nil => exact ⟨[], .nil c⟩
  | cons entry calls ih =>
      rcases entry with ⟨call, w⟩
      rcases call.isReadIn { w with cache := c } with ⟨readings, h⟩
      rcases ih (call.left { w with cache := c }).cache with ⟨later, hlater⟩
      exact ⟨readings ++ later, .cons h hlater⟩

/-- Calls that share a cache are made of readings, and these fetch every file once. -/
theorem history_fetchesOnce (c : Cache) (hkeeps : c.keeps = true)
    (calls : List (SharingCall σ × World σ)) :
    (∃ history, c.History calls history) ∧ ∀ history, c.History calls history → c.FetchesOnce history := by
  refine ⟨c.exists_history calls, fun history h => ?_⟩
  rcases h.serves with ⟨c', hserves⟩
  exact hserves.fetchesOnce hkeeps

/-- A scaffold is planned three times for a file. It cannot be read at first, and has changed in the
    end. -/
@[irreducible] def planThrice :
    List (SharingCall (List (Reply ServiceError Response)) × World (List (Reply ServiceError Response))) :=
  [.error (.other ""), .ok "1", .ok "2"].map fun content =>
    (.scaffold (Orchestrator.reads content) Orchestrator.unread 0, Orchestrator.planless)

theorem planThrice_fetchesOnce :
    ({} : Cache).keeps = true ∧ (∃ history, History {} planThrice history) ∧
      ∀ history, History {} planThrice history → FetchesOnce {} history :=
  ⟨rfl, history_fetchesOnce {} rfl planThrice⟩

end Cache

end Replatform
