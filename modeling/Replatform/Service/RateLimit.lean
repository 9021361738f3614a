import Replatform.Service.Basic
import Replatform.Table
import Replatform.Time.Timestamp

/-!
# Rate Limits

Every client may make so many requests in a window of time. The window begins with the
first request and ends at a fixed moment, after which the next request begins a new one.
The windows are kept in a store that anybody may provide; the one provided here keeps
them in a table, and every so many requests sweeps out the windows that have ended, so
that clients who left are forgotten.

Moments are nanoseconds since the beginning of 1970, and there is a last one: a window
that would end outside of the calendar ends then.

## Main definitions

* `Window`, `WindowTable`: A window, and the windows of all clients.
* `WindowTable.hit`, `prune`: Counting a request, and sweeping.
* `LimitStore`, `RateLimit.check`: Any store, and the decision on a request.
* `RateLimit.guard`: A service under a limit.
-/

namespace Replatform

/-- A moment in nanoseconds since the beginning of 1970. -/
abbrev Instant := Int

namespace Instant

/-- A moment given in milliseconds. -/
def ofMillis (ms : Int) : Instant :=
  ms * 1000000

/-- The milliseconds up to a moment, parts of one left out. -/
def millis (t : Instant) : Int :=
  t / 1000000

/-- The first moment of the calendar. -/
def first : Instant := -8334601228800 * 1000000000

/-- The last moment of the calendar. -/
def last : Instant := 8210266876800 * 1000000000 - 1

/-- The longest span that can be added to a moment: as many milliseconds as a signed integer
    of 64 bits can hold. -/
def longestSpan : Int :=
  ofMillis (UInt64.size / 2 - 1)

/-- The moment a span after another one, the last one if that is outside of the calendar. -/
def after (t : Instant) (span : Int) : Instant :=
  if first ≤ t + span ∧ t + span ≤ last then t + span else last

end Instant

/-- The window of a client. -/
structure Window where
  /-- How many requests were made in it. -/
  count : Nat
  resetAt : Instant
deriving DecidableEq, Repr

/-- The windows of all clients. -/
structure WindowTable where
  windows : Table Window := ∅
  /-- How many requests were counted so far, as an unsigned integer of 64 bits. -/
  hits : Nat := 0
deriving DecidableEq, Repr

namespace WindowTable

/-- How many requests there are from one sweep to the next. -/
def sweepInterval : Nat := 64

/-- The largest count, at which counting stops. -/
def largestCount : Nat := UInt32.size - 1

/-- The entries that satisfy a condition. -/
def keep (keepIt : Window → Bool) (t : Table Window) : Table Window :=
  ⟨t.entries.filter fun e => keepIt e.2,
    t.ascending.sublist (List.filter_sublist.map Prod.fst)⟩

/-- Sweep out the windows that have ended. -/
def prune (t : WindowTable) (now : Instant) : WindowTable :=
  { t with windows := keep (now < ·.resetAt) t.windows }

/-- The request being counted is one that sweeps. -/
def isSweeping (t : WindowTable) : Bool :=
  t.hits % sweepInterval == sweepInterval - 1

/-- The window that a request falls into, when the client had the window `old`. -/
def current (old : Option Window) (now : Instant) (span : Int) : Window :=
  let fresh : Window := { count := 0, resetAt := now.after span }
  match old with
  | none => fresh
  | some w => if w.resetAt ≤ now then fresh else w

/-- Count a request in a window. -/
def count (w : Window) : Window :=
  { w with count := min (w.count + 1) largestCount }

/-- Count a request of a client. -/
def hit (t : WindowTable) (client : String) (now : Instant) (span : Int) : Window × WindowTable :=
  let swept := if t.isSweeping then t.prune now else t
  let w := count (current (swept.windows.get? client) now span)
  (w, { windows := swept.windows.insert client w, hits := (t.hits + 1) % UInt64.size })

/-- Forget a client. -/
def reset (t : WindowTable) (client : String) : WindowTable :=
  { t with
    windows := ⟨t.windows.entries.filter (·.1 ≠ client),
      t.windows.ascending.sublist (List.filter_sublist.map Prod.fst)⟩ }

end WindowTable

/-- A place to keep windows in, where `ρ` is what it remembers. It may fail. -/
structure LimitStore (ρ : Type) where
  hit : (client : String) → Instant → (span : Int) → ρ → Except String Window × ρ

/-- The store that keeps the windows in a table. -/
def WindowTable.store : LimitStore WindowTable where
  hit client now span t := (.ok (t.hit client now span).1, (t.hit client now span).2)

/-- The decision on a request. -/
inductive RateDecision where
  | allowed (remaining : Nat)
  | limited (retryAt : Instant)
deriving DecidableEq, Repr

/-- A limit on the requests of a client. -/
structure RateLimit where
  maxRequests : Nat
  /-- The length of a window in nanoseconds. -/
  span : Int
deriving DecidableEq, Repr

namespace RateLimit

/-- A limit with a window given in milliseconds. -/
def ofMillis (maxRequests window : Nat) : RateLimit :=
  { maxRequests, span := min (Instant.ofMillis window) Instant.longestSpan }

/-- The decision on a request that is the last one counted in a window. -/
def decide (l : RateLimit) (w : Window) : RateDecision :=
  if l.maxRequests < w.count then .limited w.resetAt else .allowed (l.maxRequests - w.count)

/-- Count a request of a client and decide on it. -/
def check {ρ : Type} (l : RateLimit) (store : LimitStore ρ) (client : String) (now : Instant) (r : ρ) :
    Except String RateDecision × ρ :=
  let (w, r) := store.hit client now l.span r
  (w.map l.decide, r)

/-- The failure of a request that is over the limit. -/
def refusal (retryAt : Instant) : ServiceError :=
  .status 429 ("rate limit exceeded, retry after " ++ (Timestamp.ofNanos retryAt).textWithOffset)

/-- Let a caller in, unless the caller has given up or the limit is exceeded. -/
def letIn {ρ : Type} (l : RateLimit) (store : LimitStore ρ) (client : String) (caller : Caller) (r : ρ) :
    Except ServiceError Unit × ρ :=
  if caller.aborted then (.error .aborted, r)
  else
    match l.check store client (Instant.ofMillis caller.now) r with
    | (.ok (.allowed _), r) => (.ok (), r)
    | (.ok (.limited retryAt), r) => (.error (refusal retryAt), r)
    | (.error text, r) => (.error (.other ("rate limit store error: " ++ text)), r)

/-- A service under a limit on the requests of one client. -/
def guard {σ ρ : Type} (l : RateLimit) (store : LimitStore ρ) (client : String) (inner : Service σ) :
    Service (σ × ρ) where
  request caller request := fun (s, r) =>
    match l.letIn store client caller r with
    | (.error e, r) => ({ result := .error e }, (s, r))
    | (.ok (), r) =>
      let (reply, s) := inner.request caller request s
      (reply, (s, r))
  stream caller request := fun (s, r) =>
    match l.letIn store client caller r with
    | (.error e, r) => ({ failure := some e }, (s, r))
    | (.ok (), r) =>
      let (reply, s) := inner.stream caller request s
      (reply, (s, r))
  hasKey := fun (s, _) => inner.hasKey s

end RateLimit

end Replatform
