import Replatform.Proofs.Table
import Replatform.Service.RateLimit

/-!
# Windows of Single Clients

All clients share one table of windows, counts stop at a largest one, and every so many requests
the windows that have ended are swept out. None of this can be seen in the decisions. A client is
treated as if it had a counter of its own, which knows of no other client, counts as far as it has
to and never forgets anything.

What makes sweeping harmless is that time does not run backwards. A window that has ended by the
time of a sweep has ended by the time of every later request, and would be replaced by a new one in
any case. `Tracks` says what the table may have instead of the window of the counter, and holds
across the requests of all clients.

What the limit promises to a client is then a matter of the counter alone.

## Main definitions

* `Arrival`, `timesOf`: Requests that are counted, and when those of a client were made.
* `RateLimit.decisionsFor`: The decisions on the requests of a client among all others.
* `RateLimit.step`, `verdicts`: The counter of one client.
* `RateLimit.KeepsWindows`: What a limit promises to a client.

## Theorems

* `WindowTable.get?_prune`, `WindowTable.get?_hit`: What sweeping and counting leave in the table.
* `Tracks.hit_self`, `Tracks.hit_other`: What the table has of a client, across any request.
* `RateLimit.decisionsFor_eq`: The decisions are those of the counter.
* `RateLimit.countP_verdicts_of_opens`: No more requests are allowed in a window than the limit says.
* `RateLimit.keepsWindows_of_arrivals`: A limit keeps its promises to every client.
-/

namespace Replatform

/-- A request that is counted: whose it is, and when it is made. -/
structure Arrival where
  client : String
  now : Instant
deriving DecidableEq

/-- When the requests of a client are made. -/
def timesOf (client : String) (arrivals : List Arrival) : List Instant :=
  (arrivals.filter (·.client = client)).map Arrival.now

theorem timesOf_cons_self (a : Arrival) (arrivals : List Arrival) :
    timesOf a.client (a :: arrivals) = a.now :: timesOf a.client arrivals := by
  simp only [timesOf, List.filter_cons, decide_true, if_true, List.map_cons]

theorem timesOf_cons_of_ne {client : String} {a : Arrival} (h : a.client ≠ client)
    (arrivals : List Arrival) : timesOf client (a :: arrivals) = timesOf client arrivals := by
  rw [timesOf, List.filter_cons_of_neg (by simpa only [decide_eq_true_eq] using h), timesOf]

/-- The request may proceed. -/
def RateDecision.isAllowed : RateDecision → Bool
  | .allowed _ => true
  | .limited _ => false

namespace WindowTable

theorem get?_keep (keepIt : Window → Bool) (t : Table Window) (k : String) :
    (keep keepIt t).get? k = (t.get? k).filter keepIt := by
  refine Option.ext fun w => ?_
  rw [Table.get?_eq_some_iff, Option.filter_eq_some_iff, Table.get?_eq_some_iff]
  exact List.mem_filter

/-- Exactly the windows that have not ended outlast a sweep. -/
theorem get?_prune (t : WindowTable) (now : Instant) (client : String) :
    (t.prune now).windows.get? client =
      (t.windows.get? client).filter fun w => decide (now < w.resetAt) :=
  get?_keep _ _ _

/-- The table that a request is counted in. -/
def swept (t : WindowTable) (now : Instant) : WindowTable :=
  if t.isSweeping then t.prune now else t

/-- To count a request leaves the windows of all other clients as the sweep has left them. -/
theorem get?_hit (t : WindowTable) (client : String) (now : Instant) (span : Int) (other : String) :
    (t.hit client now span).2.windows.get? other =
      if other = client then some (t.hit client now span).1
      else (t.swept now).windows.get? other :=
  Table.get?_insert _ _ _ _

end WindowTable

namespace RateLimit

variable (l : RateLimit)

/-- The decisions on the requests of a client, when all requests are counted in one table. -/
def decisionsFor (client : String) :
    WindowTable → List Arrival → List (Except String RateDecision)
  | _, [] => []
  | t, a :: arrivals =>
    let (decision, t) := l.check WindowTable.store a.client a.now t
    if a.client = client then decision :: decisionsFor client t arrivals
    else decisionsFor client t arrivals

/-- The window that a counter is in with a request, when it was in the window `old` before. It has no
    largest count. -/
def step (old : Option Window) (now : Instant) : Window :=
  match old with
  | some w => if now < w.resetAt then { w with count := w.count + 1 } else ⟨1, now.after l.span⟩
  | none => ⟨1, now.after l.span⟩

/-- What a counter says to a request. -/
def verdict (w : Window) : RateDecision :=
  if w.count ≤ l.maxRequests then .allowed (l.maxRequests - w.count) else .limited w.resetAt

/-- What a counter says to requests, one after another. -/
def verdicts : Option Window → List Instant → List RateDecision
  | _, [] => []
  | old, now :: times => l.verdict (l.step old now) :: verdicts (some (l.step old now)) times

/-- The window that a counter is in after some requests. -/
def windowAfter : Option Window → List Instant → Option Window :=
  List.foldl fun old now => some (l.step old now)

/-- The first request in a window is one that finds none, or one that has ended. -/
def Opens (old : Option Window) (now : Instant) : Prop :=
  ∀ w, old = some w → w.resetAt ≤ now

end RateLimit

/-- A window as the table has it, whose count does not go beyond the largest one. -/
def Window.capped (w : Window) : Window :=
  { w with count := min w.count WindowTable.largestCount }

/-- At some time the table has, instead of the window of a counter, the same with a capped count, or
    nothing if it has ended by then. -/
def Tracks (now : Instant) (kept counted : Option Window) : Prop :=
  kept = counted.map Window.capped ∨ kept = none ∧ ∀ w, counted = some w → w.resetAt ≤ now

namespace Tracks

variable {l : RateLimit} {now later : Instant} {kept counted : Option Window}

theorem mono (h : Tracks now kept counted) (hle : now ≤ later) : Tracks later kept counted :=
  h.imp id fun h => ⟨h.1, fun w hw => Int.le_trans (h.2 w hw) hle⟩

/-- What a sweep takes away has ended. -/
theorem filter (h : Tracks now kept counted) :
    Tracks now (kept.filter fun w => decide (now < w.resetAt)) counted := by
  rcases h with rfl | ⟨rfl, h⟩
  · cases counted with
    | none => exact Or.inl rfl
    | some w =>
        by_cases hw : now < w.resetAt
        · refine Or.inl ?_
          exact Option.filter_some_pos (decide_eq_true hw)
        · refine Or.inr ⟨Option.filter_some_neg (decide_eq_false hw), ?_⟩
          rintro _ ⟨⟩
          exact Int.not_lt.mp hw
  · exact Or.inr ⟨rfl, h⟩

/-- A request is counted in the table as the counter counts it. -/
theorem count_current (h : Tracks now kept counted) :
    WindowTable.count (WindowTable.current kept now l.span) = (l.step counted now).capped := by
  have hfresh : WindowTable.count ⟨0, now.after l.span⟩ = Window.capped ⟨1, now.after l.span⟩ :=
    rfl
  rcases h with rfl | ⟨rfl, h⟩
  · cases counted with
    | none => exact hfresh
    | some w =>
        change WindowTable.count (if w.resetAt ≤ now then _ else _) =
          Window.capped (if now < w.resetAt then _ else _)
        by_cases hw : now < w.resetAt
        · rw [if_neg (Int.not_le.mpr hw), if_pos hw, WindowTable.count, Window.capped, Window.capped]
          have hmin : min (min w.count WindowTable.largestCount + 1) WindowTable.largestCount =
              min (w.count + 1) WindowTable.largestCount := by omega
          exact congrArg (Window.mk · w.resetAt) hmin
        · rw [if_pos (Int.not_lt.mp hw), if_neg hw]
          exact hfresh
  · cases counted with
    | none => exact hfresh
    | some w =>
        -- The counter still has the window that is gone from the table, and it has ended.
        have hw : ¬ now < w.resetAt := Int.not_lt.mpr (h w rfl)
        change _ = Window.capped (if now < w.resetAt then _ else _)
        rw [if_neg hw]
        exact hfresh

variable {t : WindowTable} {client : String}

theorem swept (h : Tracks now (t.windows.get? client) counted) :
    Tracks now ((t.swept now).windows.get? client) counted := by
  rw [WindowTable.swept]
  by_cases hsweeping : t.isSweeping = true
  · rw [if_pos hsweeping, WindowTable.get?_prune]
    exact h.filter
  · rw [if_neg hsweeping]
    exact h

/-- A request of the client is counted on both sides. -/
theorem hit_self (h : Tracks now (t.windows.get? client) counted) :
    (t.hit client now l.span).1 = (l.step counted now).capped ∧
      Tracks now ((t.hit client now l.span).2.windows.get? client) (some (l.step counted now)) := by
  have hfst : (t.hit client now l.span).1 = (l.step counted now).capped := h.swept.count_current
  refine ⟨hfst, Or.inl ?_⟩
  rw [WindowTable.get?_hit, if_pos rfl, hfst]
  rfl

/-- A request of another client is counted only in the table, where it may sweep. -/
theorem hit_other (h : Tracks now (t.windows.get? client) counted) {other : String}
    (hne : client ≠ other) :
    Tracks now ((t.hit other now l.span).2.windows.get? client) counted := by
  rw [WindowTable.get?_hit, if_neg hne]
  exact h.swept

end Tracks

namespace RateLimit

variable {l : RateLimit}

/-- Below the largest count, capping does not change a decision. -/
theorem decide_capped (hmax : l.maxRequests < WindowTable.largestCount) (w : Window) :
    l.decide w.capped = l.verdict w := by
  rw [RateLimit.decide, verdict, Window.capped]
  by_cases hw : w.count ≤ l.maxRequests
  · have hcount : min w.count WindowTable.largestCount = w.count := by omega
    rw [hcount, if_neg (Nat.not_lt.mpr hw), if_pos hw]
  · have hcount : l.maxRequests < min w.count WindowTable.largestCount := by omega
    rw [if_pos hcount, if_neg hw]

/-- The decisions on the requests of a client are those of a counter of its own, from any moment on. -/
theorem decisionsFor_of_tracks (hmax : l.maxRequests < WindowTable.largestCount) (client : String)
    {arrivals : List Arrival} (harrivals : arrivals.Pairwise (·.now ≤ ·.now)) {t : WindowTable}
    {counted : Option Window}
    (htracks : ∀ a ∈ arrivals, Tracks a.now (t.windows.get? client) counted) :
    l.decisionsFor client t arrivals = (l.verdicts counted (timesOf client arrivals)).map .ok := by
  induction arrivals generalizing t counted with
  | nil => rfl
  | cons a arrivals ih =>
      rcases List.pairwise_cons.mp harrivals with ⟨hlater, harrivals⟩
      have hnow := htracks a List.mem_cons_self
      by_cases hclient : a.client = client
      · subst hclient
        rcases hnow.hit_self (l := l) with ⟨hwindow, hnext⟩
        have hdecision : (l.check WindowTable.store a.client a.now t).1 =
            .ok (l.verdict (l.step counted a.now)) := by
          change Except.ok (l.decide (t.hit a.client a.now l.span).1) = _
          rw [hwindow, decide_capped hmax]
        rw [timesOf_cons_self, verdicts, List.map_cons, decisionsFor]
        simp only [if_true]
        rw [hdecision]
        exact congrArg _ (ih harrivals fun b hb => hnext.mono (hlater b hb))
      · rw [timesOf_cons_of_ne hclient, decisionsFor]
        simp only [if_neg hclient]
        refine ih harrivals fun b hb => ?_
        exact (hnow.hit_other fun h => hclient h.symm).mono (hlater b hb)

/-- In a table that has no windows yet, however many requests were counted, the decisions on the requests
    of a client are those of a counter of its own. -/
theorem decisionsFor_eq (hmax : l.maxRequests < WindowTable.largestCount) (client : String)
    (hits : Nat) {arrivals : List Arrival} (harrivals : arrivals.Pairwise (·.now ≤ ·.now)) :
    l.decisionsFor client { hits } arrivals =
      (l.verdicts none (timesOf client arrivals)).map .ok :=
  decisionsFor_of_tracks hmax client harrivals fun _ _ => Or.inl rfl

theorem verdicts_append (old : Option Window) (earlier later : List Instant) :
    l.verdicts old (earlier ++ later) =
      l.verdicts old earlier ++ l.verdicts (l.windowAfter old earlier) later := by
  induction earlier generalizing old with
  | nil => rfl
  | cons now earlier ih => exact congrArg _ (ih _)

theorem length_verdicts (old : Option Window) (times : List Instant) :
    (l.verdicts old times).length = times.length := by
  induction times generalizing old with
  | nil => rfl
  | cons now times ih => exact congrArg (· + 1) (ih _)

/-- What a counter says to one of several requests depends on those before it. -/
theorem getElem?_verdicts (old : Option Window) (earlier : List Instant) (now : Instant)
    (later : List Instant) :
    (l.verdicts old (earlier ++ now :: later))[earlier.length]? =
      some (l.verdict (l.step (l.windowAfter old earlier) now)) := by
  rw [verdicts_append, List.getElem?_append_right (Nat.le_of_eq (length_verdicts _ _)),
    length_verdicts, Nat.sub_self]
  rfl

/-- A client is told to try again when its window ends. -/
theorem resetAt_of_limited {w : Window} {retryAt : Instant} (h : l.verdict w = .limited retryAt) :
    w.resetAt = retryAt := by
  rw [verdict] at h
  by_cases hcount : w.count ≤ l.maxRequests
  · rw [if_pos hcount] at h
    exact RateDecision.noConfusion h
  · rw [if_neg hcount, RateDecision.limited.injEq] at h
    exact h

theorem step_of_opens {old : Option Window} {now : Instant} (h : Opens old now) :
    l.step old now = ⟨1, now.after l.span⟩ := by
  cases old with
  | none => rfl
  | some w => exact if_neg (Int.not_lt.mpr (h w rfl))

/-- While a window lasts, as many more requests are allowed as it has left. -/
theorem countP_verdicts_le (w : Window) {times : List Instant}
    (htimes : ∀ now ∈ times, now < w.resetAt) :
    (l.verdicts (some w) times).countP RateDecision.isAllowed ≤ l.maxRequests - w.count := by
  induction times generalizing w with
  | nil => exact Nat.zero_le _
  | cons now times ih =>
      rcases List.forall_mem_cons.mp htimes with ⟨hnow, htimes⟩
      have hstep : l.step (some w) now = { w with count := w.count + 1 } := if_pos hnow
      have hrest : (l.verdicts (some { w with count := w.count + 1 }) times).countP
          RateDecision.isAllowed ≤ l.maxRequests - (w.count + 1) :=
        ih { w with count := w.count + 1 } htimes
      rw [verdicts, hstep, verdict]
      by_cases hcount : w.count + 1 ≤ l.maxRequests
      · rw [if_pos hcount, List.countP_cons_of_pos rfl]
        omega
      · rw [if_neg hcount, List.countP_cons_of_neg Bool.false_ne_true]
        omega

/-- A request that opens a window and those that follow while it lasts are allowed as often as the limit
    says. -/
theorem countP_verdicts_of_opens {old : Option Window} {first : Instant} (h : Opens old first)
    {times : List Instant} (htimes : ∀ now ∈ times, now < first.after l.span) :
    (l.verdicts old (first :: times)).countP RateDecision.isAllowed ≤ l.maxRequests := by
  have hrest := countP_verdicts_le (l := l) ⟨1, first.after l.span⟩ htimes
  rw [verdicts, step_of_opens h, verdict]
  by_cases hmax : 1 ≤ l.maxRequests
  · rw [if_pos hmax, List.countP_cons_of_pos rfl]
    exact Nat.le_sub_one_iff_lt hmax |>.mp hrest
  · rw [if_neg hmax, List.countP_cons_of_neg Bool.false_ne_true]
    exact Nat.le_trans hrest (Nat.sub_le _ _)

/-- Requests that open no window leave the end of the present one where it is. -/
theorem resetAt_windowAfter {w : Window} {times : List Instant}
    (h : ∀ earlier now later, times = earlier ++ now :: later →
      ¬ Opens (l.windowAfter (some w) earlier) now) :
    ∃ w', l.windowAfter (some w) times = some w' ∧ w'.resetAt = w.resetAt := by
  induction times generalizing w with
  | nil => exact ⟨w, rfl, rfl⟩
  | cons now times ih =>
      have hnow : now < w.resetAt := Int.not_le.mp fun hended =>
        h [] now times rfl fun _ hw => Option.some.inj hw ▸ hended
      have hstep : l.step (some w) now = { w with count := w.count + 1 } := if_pos hnow
      have hrest := ih (w := { w with count := w.count + 1 }) fun earlier now' later htimes => by
        have hnot := h (now :: earlier) now' later (congrArg _ htimes)
        rwa [windowAfter, List.foldl_cons, hstep] at hnot
      rwa [windowAfter, List.foldl_cons, hstep]

/-- What a limit promises to a client whose requests are made at some times and decided in some way. -/
structure KeepsWindows (l : RateLimit) (times : List Instant)
    (decisions : List (Except String RateDecision)) : Prop where
  /-- The decisions are those of a counter that counts these requests only. -/
  counted : decisions = (l.verdicts none times).map .ok
  /-- From the first request of a window up to its end, no more are allowed than the limit says. -/
  bounded : ∀ earlier first during later, times = earlier ++ first :: during ++ later →
    Opens (l.windowAfter none earlier) first → (∀ now ∈ during, now < first.after l.span) →
    ((decisions.drop earlier.length).take (during.length + 1)).countP
      (fun d => d.toOption.any RateDecision.isAllowed) ≤ l.maxRequests
  /-- A request that is made when the client was told to try again is allowed, unless another has opened
      a window in between. -/
  reopens : 1 ≤ l.maxRequests → ∀ earlier refused between retryAt later,
    times = earlier ++ refused :: between ++ retryAt :: later →
    decisions[earlier.length]? = some (.ok (.limited retryAt)) →
    (∀ before now after, between = before ++ now :: after →
      ¬ Opens (l.windowAfter none (earlier ++ refused :: before)) now) →
    decisions[earlier.length + 1 + between.length]? = some (.ok (.allowed (l.maxRequests - 1)))

theorem keepsWindows_verdicts (l : RateLimit) (times : List Instant) :
    KeepsWindows l times ((l.verdicts none times).map .ok) where
  counted := rfl
  bounded := by
    rintro earlier first during later rfl hopens hduring
    -- What is cut out of the decisions are those on the requests in the window.
    have hcut : ((l.verdicts none (earlier ++ first :: during ++ later)).drop earlier.length).take
        (during.length + 1) = l.verdicts (l.windowAfter none earlier) (first :: during) := by
      have hlength : (l.verdicts (l.windowAfter none earlier) (first :: during)).length =
          during.length + 1 := length_verdicts _ _
      rw [List.append_assoc, verdicts_append, List.drop_left' (length_verdicts _ _), verdicts_append,
        List.take_left' hlength]
    rw [← List.map_drop, ← List.map_take, hcut, List.countP_map]
    exact countP_verdicts_of_opens hopens hduring
  reopens := by
    rintro hmax earlier refused between retryAt later rfl hrefused hbetween
    have hreset : (l.step (l.windowAfter none earlier) refused).resetAt = retryAt := by
      rw [List.append_assoc, List.cons_append, List.getElem?_map, getElem?_verdicts, Option.map_some,
        Option.some.injEq, Except.ok.injEq] at hrefused
      exact resetAt_of_limited hrefused
    have hwindow : ∀ before, l.windowAfter none (earlier ++ refused :: before) =
        l.windowAfter (some (l.step (l.windowAfter none earlier) refused)) before := by
      intro before
      rw [windowAfter, List.foldl_append]
      rfl
    -- The window ends at the very moment at which the request is made.
    have hopens : Opens (l.windowAfter none (earlier ++ refused :: between)) retryAt := by
      rw [hwindow]
      rcases resetAt_windowAfter fun before now after hsplit hopens =>
        hbetween before now after hsplit (hwindow before ▸ hopens) with ⟨w', hw', hreset'⟩
      rw [hw']
      rintro _ ⟨⟩
      exact Int.le_of_eq (hreset'.trans hreset)
    have hlength : earlier.length + 1 + between.length = (earlier ++ refused :: between).length := by
      rw [List.length_append, List.length_cons]
      omega
    rw [hlength, List.getElem?_map, getElem?_verdicts, step_of_opens hopens, verdict, if_pos hmax]
    rfl

/-- The requests of a client are decided as by a counter of its own, however the requests of other
    clients come in between and whenever a sweep is due. -/
theorem keepsWindows_of_arrivals {l : RateLimit} (hmax : l.maxRequests < WindowTable.largestCount)
    {arrivals : List Arrival} (harrivals : arrivals.Pairwise (·.now ≤ ·.now)) (hits : Nat)
    (client : String) :
    KeepsWindows l (timesOf client arrivals) (l.decisionsFor client { hits } arrivals) ∧
      ∀ (arrivals' : List Arrival) (hits' : Nat), arrivals'.Pairwise (·.now ≤ ·.now) →
        timesOf client arrivals' = timesOf client arrivals →
        l.decisionsFor client { hits := hits' } arrivals' =
          l.decisionsFor client { hits } arrivals := by
  rw [decisionsFor_eq hmax client hits harrivals]
  refine ⟨keepsWindows_verdicts l _, fun arrivals' hits' harrivals' htimes => ?_⟩
  rw [decisionsFor_eq hmax client hits' harrivals', htimes]

/-- The window of a client ends at the moment of a sweep, and another client comes at the same moment. -/
theorem keepsWindows_across_sweep :
    KeepsWindows ⟨1, 10⟩ [0, 5, 10, 10] [.ok (.allowed 0), .ok (.limited 10), .ok (.allowed 0),
      .ok (.limited 20)] :=
  (@keepsWindows_of_arrivals ⟨1, 10⟩ (by decide)
    [⟨"a", 0⟩, ⟨"b", 0⟩, ⟨"a", 5⟩, ⟨"b", 10⟩, ⟨"a", 10⟩, ⟨"a", 10⟩] (by decide) 60 "a").1

end RateLimit

end Replatform
