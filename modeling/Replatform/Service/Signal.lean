import Replatform.Service.Error

/-!
# Abort Signals

A signal tells everybody who holds it to give up. A signal may be made as the child of
another: it is aborted with its parent, and can be aborted without it. Signals are
numbered in the order in which they were made, and nothing makes a signal live again.

## Main definitions

* `Signals`: The signals made so far.
* `Signals.fresh`, `Signals.child`: Making signals.
* `Signals.cancel`, `Signals.isAborted`: Aborting, and asking.
-/

namespace Replatform

/-- The number of a signal. -/
abbrev SignalId := Nat

/-- The signals made so far. -/
structure Signals where
  /-- For each signal the signals whose cancellation aborts it, itself among them. -/
  lineages : List (List SignalId) := []
  /-- The signals that were cancelled themselves. -/
  cancelled : List SignalId := []
deriving DecidableEq, Repr, Inhabited

namespace Signals

/-- The signals whose cancellation aborts a signal. -/
def lineage (s : Signals) (id : SignalId) : List SignalId :=
  s.lineages.getD id [id]

/-- The number that the next signal gets. -/
def next (s : Signals) : SignalId :=
  s.lineages.length

/-- A signal that depends on no other. -/
def fresh (s : Signals) : SignalId × Signals :=
  (s.next, { s with lineages := s.lineages ++ [[s.next]] })

/-- A signal that is aborted with another. -/
def child (s : Signals) (parent : SignalId) : SignalId × Signals :=
  (s.next, { s with lineages := s.lineages ++ [s.next :: s.lineage parent] })

/-- Abort a signal and the signals that depend on it. -/
def cancel (s : Signals) (id : SignalId) : Signals :=
  { s with cancelled := id :: s.cancelled }

/-- The signal is aborted. -/
def isAborted (s : Signals) (id : SignalId) : Bool :=
  (s.lineage id).any s.cancelled.contains

/-- Refuse to go on if the signal is aborted. -/
def check (s : Signals) (id : SignalId) : Except ServiceError Unit :=
  if s.isAborted id then .error .aborted else .ok ()

end Signals

end Replatform
