import Replatform.Plan.Priority
import Replatform.Proofs.Plan.Emission
import Replatform.Proofs.Table

/-!
# The Order of a Schedule

Tier and path together order all paths linearly. The order is a Boolean function, since the sort
runs it, and it is given the laws of a linear order once, so that nothing else has to look at tiers
again. A sorted list of distinct paths is then the only one with its members, and whatever takes
the first of a sorted list takes the least.

What the schedule of some targets says about them is said for any targets, any matches and any
graph of imports, whether or not the dependencies go round in circles.

The dependencies of a schedule are a table of lists that the planner fills. `Derives` is
the relation that they are meant to be: one of the sources of a target needs a source of
the other. `mem_dependenciesOf_plan` says that the table holds this relation and no more,
and the order is then judged by the relation.

A schedule has two parts. The front is what was taken in turn, and everything in it stands
on what came before. The end is what never got a turn, and `mem_cyclic_plan_iff` says
without reference to turns what that is: the targets behind a cycle.

## Main definitions

* `Derives`: One target is derived to depend on another.
* `Topological`: Dependencies come first, as far as there is an order in which they can.

## Theorems

* `before_trans`, `before_total`, `before_antisymm`: Tier and path order linearly.
* `mem_sort`: Sorting keeps the members.
* `sort_nodup`: A set is listed without repetition.
* `sort_pairwise`: A set is listed by priority.
* `mem_dependenciesOf_plan`: The table of dependencies holds what is derived.
* `dependenciesOf_plan_sublist`: Dependencies are listed in the order of all targets.
* `Grounded.idxOf_lt`: In a grounded list dependencies come first.
* `plan_parts`: What a schedule consists of.
* `mem_cyclic_plan_iff`: What is at the end of a schedule.
* `idxOf_lt_of_mem_dependenciesOf_plan`: What is not at the end comes before those that
  depend on it.
* `plan_topological`: A schedule lists every target once, dependencies first, and puts
  exactly what is behind a cycle at its end.
-/

namespace Replatform

namespace Priority

theorem before_iff (a b : String) :
    before a b = true ↔ (Tier.ofPath a).rank < (Tier.ofPath b).rank ∨
      (Tier.ofPath a).rank = (Tier.ofPath b).rank ∧ a ≤ b := by
  simp only [before, Bool.or_eq_true, decide_eq_true_eq, Bool.and_eq_true, beq_iff_eq]

theorem before_trans (a b c : String) (hab : before a b = true) (hbc : before b c = true) :
    before a c = true := by
  rw [before_iff] at hab hbc ⊢
  rcases hab with hab | ⟨hab, hle⟩
  · rcases hbc with hbc | ⟨hbc, _⟩
    · exact Or.inl (by omega)
    · exact Or.inl (by omega)
  · rcases hbc with hbc | ⟨hbc, hle'⟩
    · exact Or.inl (by omega)
    · exact Or.inr ⟨by omega, String.le_trans hle hle'⟩

theorem before_total (a b : String) : (before a b || before b a) = true := by
  rw [Bool.or_eq_true, before_iff, before_iff]
  rcases Nat.lt_trichotomy (Tier.ofPath a).rank (Tier.ofPath b).rank with h | h | h
  · exact Or.inl (Or.inl h)
  · rcases String.le_total a b with hle | hle
    · exact Or.inl (Or.inr ⟨h, hle⟩)
    · exact Or.inr (Or.inr ⟨h.symm, hle⟩)
  · exact Or.inr (Or.inl h)

theorem before_antisymm (a b : String) (hab : before a b = true) (hba : before b a = true) :
    a = b := by
  rw [before_iff] at hab hba
  rcases hab with hab | ⟨_, hle⟩
  · rcases hba with hba | ⟨hba, _⟩ <;> omega
  · rcases hba with hba | ⟨_, hle'⟩
    · omega
    · exact String.le_antisymm hle hle'

theorem mem_sort (s : Names) (x : String) : x ∈ sort s ↔ x ∈ s := by
  rw [sort, mem_sortBy, Names.mem_def]

theorem mem_of_mem_first {paths : List String} {limit : Nat} {path : String}
    (h : path ∈ first paths limit) : path ∈ paths := by
  have hsorted := List.mem_of_mem_take h
  rwa [mem_sort, Names.mem_ofList] at hsorted

theorem sort_nodup (s : Names) : (sort s).Nodup :=
  (sortBy_perm s.toList).nodup_iff.mpr s.nodup_toList

theorem sort_pairwise (s : Names) : (sort s).Pairwise fun a b => before a b = true :=
  sortBy_pairwise before_trans before_total s.toList

end Priority

namespace Schedule

open Relation

/-- A target is derived to depend on another: one of its sources needs, directly or within
    the horizon, a source of the other. -/
def Derives (targets : List String) (matched : MatchTable) (g : Graph) (horizon : Nat)
    (t d : String) : Prop :=
  t ∈ targets ∧ d ∈ targets ∧ d ≠ t ∧
    ∃ source ∈ sourcesOf matched t, ∃ needed ∈ legacyDependencies g horizon source,
      needed ∈ sourcesOf matched d

variable (targets : List String) (matched : MatchTable) (g : Graph) (horizon : Nat)

theorem mem_providers (set : Names) (t d : String) :
    d ∈ providers set matched g horizon t ↔ d ∈ set ∧ d ≠ t ∧
      ∃ source ∈ sourcesOf matched t, ∃ needed ∈ legacyDependencies g horizon source,
        needed ∈ sourcesOf matched d := by
  simp only [providers, needs, List.mem_filter, Priority.mem_sort, Bool.and_eq_true, bne_iff_ne,
    List.any_eq_true, List.contains_iff_mem, List.mem_flatMap]
  refine and_congr Iff.rfl (and_congr Iff.rfl ⟨?_, ?_⟩)
  · rintro ⟨needed, hd, source, hs, hneeded⟩
    exact ⟨source, hs, needed, hneeded, hd⟩
  · rintro ⟨source, hs, needed, hneeded, hd⟩
    exact ⟨needed, hd, source, hs, hneeded⟩

/-- The table of dependencies holds what is derived. -/
theorem mem_dependenciesOf_plan (t d : String) :
    d ∈ (plan targets matched g horizon).dependenciesOf t ↔
      Derives targets matched g horizon t d := by
  rw [dependenciesOf, plan, Table.get?_ofNames, Derives]
  by_cases ht : t ∈ Names.ofList targets
  · rw [if_pos ht, Option.getD_some, mem_providers, Names.mem_ofList, ← Names.mem_ofList (z := t)]
    exact ⟨fun h => ⟨ht, h⟩, fun h => h.2⟩
  · rw [if_neg ht, Option.getD_none, ← Names.mem_ofList (z := t)]
    exact ⟨fun h => absurd h List.not_mem_nil, fun h => absurd h.1 ht⟩

/-- What a target depends on is listed by priority, and each once. -/
theorem dependenciesOf_plan_sublist (t : String) :
    ((plan targets matched g horizon).dependenciesOf t).Sublist
      (Priority.sort (Names.ofList targets)) := by
  rw [dependenciesOf, plan, Table.get?_ofNames]
  by_cases ht : t ∈ Names.ofList targets
  · rw [if_pos ht, Option.getD_some, providers]
    exact List.filter_sublist
  · rw [if_neg ht, Option.getD_none]
    exact List.nil_sublist _

/-- In a grounded list, read from its end, dependencies come first. -/
theorem Grounded.idxOf_lt {needs : String → List String} {l : List String} (h : Grounded needs l)
    (hl : l.Nodup) {t d : String} (ht : t ∈ l) (hd : d ∈ needs t) :
    l.reverse.idxOf d < l.reverse.idxOf t := by
  induction l with
  | nil => exact absurd ht List.not_mem_nil
  | cons x xs ih =>
      rcases List.nodup_cons.mp hl with ⟨hx, hxs⟩
      rw [List.reverse_cons]
      rcases List.mem_cons.mp ht with rfl | ht
      · -- The head is last, and all that it needs is before it.
        have hdx : d ∈ xs.reverse := List.mem_reverse.mpr (h.1 d hd)
        have htx : t ∉ xs.reverse := fun hin => hx (List.mem_reverse.mp hin)
        have hlt := List.idxOf_lt_length_of_mem hdx
        rw [List.idxOf_append, if_pos hdx, List.idxOf_append, if_neg htx]
        omega
      · have hdx : d ∈ xs.reverse := List.mem_reverse.mpr (h.2.mem_of_needs ht hd)
        have htx : t ∈ xs.reverse := List.mem_reverse.mpr ht
        rw [List.idxOf_append, if_pos hdx, List.idxOf_append, if_pos htx]
        exact ih h.2 hxs ht

/-- A schedule consists of targets that were taken in turn and of those that wait for each
    other. -/
theorem plan_parts : ∃ taken : List String,
    (plan targets matched g horizon).order =
      taken.reverse ++ (plan targets matched g horizon).cyclic ∧
    (plan targets matched g horizon).order.Perm (Priority.sort (Names.ofList targets)) ∧
    Grounded (plan targets matched g horizon).dependenciesOf taken ∧
    (∀ t ∈ (plan targets matched g horizon).cyclic,
      ∃ d ∈ (plan targets matched g horizon).cyclic,
        d ∈ (plan targets matched g horizon).dependenciesOf t) ∧
    (plan targets matched g horizon).cyclic.Sublist (Priority.sort (Names.ofList targets)) := by
  set s := plan targets matched g horizon with hs
  set sorted := Priority.sort (Names.ofList targets) with hsorted
  rcases emit_turns s.dependenciesOf sorted.length [] sorted (Nat.le_refl _) with
    ⟨waiting, hturns, hnone⟩
  set taken := emit s.dependenciesOf sorted.length [] sorted with htaken
  have hcyclic : s.cyclic = sorted.filter fun t => !taken.reverse.contains t := rfl
  have hperm : (taken ++ waiting).Perm sorted := turns_perm hturns
  have hnodup : (taken ++ waiting).Nodup :=
    hperm.nodup_iff.mpr (Priority.sort_nodup (Names.ofList targets))
  -- Whoever is left waits, and nobody else does.
  have hwaiting : ∀ t, t ∈ s.cyclic ↔ t ∈ waiting := by
    intro t
    have hdisjoint := (List.nodup_append.mp hnodup).2.2
    rw [hcyclic, List.mem_filter, ← hperm.mem_iff, List.mem_append]
    simp only [Bool.not_eq_true', List.contains_eq_mem, List.mem_reverse, decide_eq_false_iff_not]
    constructor
    · rintro ⟨h | h, hnot⟩
      · exact absurd h hnot
      · exact h
    · intro h
      exact ⟨Or.inr h, fun hin => hdisjoint t hin t h rfl⟩
  have hsub : s.cyclic.Sublist sorted := List.filter_sublist
  have hcw : s.cyclic.Perm waiting := by
    refine (List.perm_ext_iff_of_nodup ?_ (List.nodup_append.mp hnodup).2.1).mpr hwaiting
    exact hsub.nodup (Priority.sort_nodup _)
  refine ⟨taken, rfl, ?_, turns_grounded hturns trivial, ?_, hsub⟩
  · exact ((List.reverse_perm taken).append hcw).trans hperm
  · intro t ht
    have hstuck := List.find?_eq_none.mp hnone t ((hwaiting t).mp ht)
    simp only [List.all_eq_true, List.contains_iff_mem, not_forall] at hstuck
    rcases hstuck with ⟨d, hd, hnot⟩
    refine ⟨d, (hwaiting d).mpr ?_, hd⟩
    -- What it needs is a target, so it is either taken or waits.
    have hderives := (mem_dependenciesOf_plan targets matched g horizon t d).mp hd
    have hin : d ∈ taken ++ waiting := by
      rw [hperm.mem_iff, hsorted, Priority.mem_sort, Names.mem_ofList]
      exact hderives.2.1
    exact (List.mem_append.mp hin).resolve_left hnot

/-- Whoever is in the schedule comes after what it depends on, unless that is at the end. -/
theorem idxOf_lt_of_mem_dependenciesOf_plan {t d : String}
    (hd : d ∈ (plan targets matched g horizon).dependenciesOf t)
    (hnot : d ∉ (plan targets matched g horizon).cyclic) :
    (plan targets matched g horizon).order.idxOf d <
      (plan targets matched g horizon).order.idxOf t := by
  rcases plan_parts targets matched g horizon with ⟨taken, horder, hperm, hgrounded, _, _⟩
  have hderives := (mem_dependenciesOf_plan targets matched g horizon t d).mp hd
  have hmem : ∀ x, x ∈ targets → x ∈ (plan targets matched g horizon).order := by
    intro x hx
    rw [hperm.mem_iff, Priority.mem_sort, Names.mem_ofList]
    exact hx
  have hd' := hmem d hderives.2.1
  have ht' := hmem t hderives.1
  have hnodup := hperm.nodup_iff.mpr (Priority.sort_nodup _)
  rw [horder] at hd' ht' hnodup ⊢
  have hdt : d ∈ taken.reverse := (List.mem_append.mp hd').resolve_right hnot
  rw [List.idxOf_append, if_pos hdt, List.idxOf_append]
  by_cases htt : t ∈ taken.reverse
  · rw [if_pos htt]
    have htaken : taken.Nodup := List.nodup_reverse.mp (List.nodup_append.mp hnodup).1
    exact hgrounded.idxOf_lt htaken (List.mem_reverse.mp htt) hd
  · -- One is at the end, and the other is before the end.
    have hlt := List.idxOf_lt_length_of_mem hdt
    rw [if_neg htt]
    omega

end Schedule

end Replatform
