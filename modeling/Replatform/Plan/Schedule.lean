import Replatform.Graph
import Replatform.Plan.Mapper

/-!
# Schedules

The order in which target files are generated. A target depends on another if one
of its sources imports, directly or within a horizon, a source of the other. The
order is greedy: next comes the target with the highest priority among those whose
dependencies have all come. Targets for which there is never a turn lie on a cycle
or behind one; they are put at the end in the order of their priority.

## Main definitions

* `Schedule`: An order with the dependencies it is based on.
* `Schedule.providers`: The targets that a target depends on.
* `Schedule.order`: The greedy order for given dependencies.
* `Schedule.plan`: The schedule of some targets.
-/

namespace Replatform

/-- An order of targets. -/
structure Schedule where
  /-- Every target once, what it depends on before it where that is possible. -/
  order : List String := []
  /-- The targets at the end that lie on a cycle or behind one. -/
  cyclic : List String := []
  /-- What each target depends on, by priority. -/
  dependencies : Table (List String) := ∅
deriving DecidableEq, Repr

namespace Schedule

instance : Inhabited Schedule := ⟨⟨[], [], ∅⟩⟩

/-- What a target depends on. -/
def dependenciesOf (s : Schedule) (target : String) : List String :=
  (s.dependencies.get? target).getD []

/-- Nothing is scheduled. -/
def isEmpty (s : Schedule) : Bool :=
  s.order.isEmpty

/-- How many related files of a source count as its dependencies. -/
def defaultHorizon : Nat := 6

/-- The legacy files that a legacy file depends on. -/
def legacyDependencies (g : Graph) (horizon : Nat) (source : String) : List String :=
  g.resolvedImports source ++ g.related source horizon

/-- The sources of a target. -/
def sourcesOf (matched : MatchTable) (target : String) : List String :=
  match matched.get? target with
  | some m => m.sources.toList
  | none => []

/-- The legacy files that the sources of a target depend on. -/
def needs (matched : MatchTable) (g : Graph) (horizon : Nat) (target : String) : List String :=
  (sourcesOf matched target).flatMap (legacyDependencies g horizon)

/-- The targets that a target depends on, by priority: those with a source that it needs. -/
def providers (targets : Names) (matched : MatchTable) (g : Graph) (horizon : Nat)
    (target : String) : List String :=
  let needed := needs matched g horizon target
  (Priority.sort targets).filter fun p =>
    p != target && (sourcesOf matched p).any (needed.contains ·)

/-- Take the first of the targets `left` whose dependencies are all among `taken`, and go
    on until there is none. What is taken is listed latest first. Every step takes a target,
    so their number is fuel enough. -/
def emit (dependencies : String → List String) : Nat → List String → List String → List String
  | 0, taken, _ => taken
  | fuel + 1, taken, left =>
    match left.find? fun t => (dependencies t).all (taken.contains ·) with
    | none => taken
    | some t => emit dependencies fuel (t :: taken) (left.erase t)

/-- The targets that get their turn, given all targets by priority. -/
def acyclic (dependencies : String → List String) (targets : List String) : List String :=
  (emit dependencies targets.length [] targets).reverse

/-- The schedule of some targets. -/
def plan (targets : List String) (matched : MatchTable) (g : Graph)
    (horizon : Nat := defaultHorizon) : Schedule :=
  let set := Names.ofList targets
  let dependencies := Table.ofNames set (providers set matched g horizon)
  let sorted := Priority.sort set
  let placed := acyclic (fun t => (dependencies.get? t).getD []) sorted
  -- What never got its turn goes to the end.
  let cyclic := sorted.filter fun t => !placed.contains t
  { order := placed ++ cyclic, cyclic, dependencies }

end Schedule

end Replatform
