/-!
# Sorting

Lists in the order of a relation. The sort goes through a list element by element and puts
each one in its place, so it can be evaluated wherever the relation can. Elements that the
relation does not tell apart stay in the order in which they were.

## Main definitions

* `placeBy`: Put an element in its place in a sorted list.
* `sortBy`: Sort a list.

## Theorems

* `sortBy_perm`: Sorting keeps the elements.
* `sortBy_pairwise`: What comes first in a sorted list comes no later by the relation.
* `sortBy_eq_self`: What is in order is not changed.
-/

namespace Replatform

variable {α : Type} {le : α → α → Bool}

/-- Put an element before the first one that it comes no later than. -/
def placeBy (le : α → α → Bool) (x : α) : List α → List α
  | [] => [x]
  | y :: ys => if le x y then x :: y :: ys else y :: placeBy le x ys

/-- The list in the order of `le`. -/
def sortBy (le : α → α → Bool) : List α → List α
  | [] => []
  | x :: xs => placeBy le x (sortBy le xs)

theorem placeBy_perm (x : α) (l : List α) : (placeBy le x l).Perm (x :: l) := by
  induction l with
  | nil => exact List.Perm.refl [x]
  | cons y ys ih =>
      rw [placeBy]
      by_cases h : le x y = true
      · rw [if_pos h]
      · rw [if_neg h]
        exact (ih.cons y).trans (List.Perm.swap x y ys)

theorem sortBy_perm (l : List α) : (sortBy le l).Perm l := by
  induction l with
  | nil => exact List.Perm.refl []
  | cons x xs ih => exact (placeBy_perm x _).trans (ih.cons x)

theorem mem_sortBy {x : α} {l : List α} : x ∈ sortBy le l ↔ x ∈ l :=
  (sortBy_perm l).mem_iff

theorem placeBy_pairwise (trans : ∀ a b c, le a b = true → le b c = true → le a c = true)
    (total : ∀ a b, (le a b || le b a) = true) (x : α) {l : List α}
    (h : l.Pairwise fun a b => le a b = true) :
    (placeBy le x l).Pairwise fun a b => le a b = true := by
  induction l with
  | nil => exact List.pairwise_singleton _ x
  | cons y ys ih =>
      rcases List.pairwise_cons.mp h with ⟨hy, hys⟩
      rw [placeBy]
      by_cases hxy : le x y = true
      · rw [if_pos hxy, List.pairwise_cons]
        refine ⟨fun z hz => ?_, h⟩
        rcases List.mem_cons.mp hz with rfl | hz
        · exact hxy
        · exact trans x y z hxy (hy z hz)
      · rw [if_neg hxy, List.pairwise_cons]
        refine ⟨fun z hz => ?_, ih hys⟩
        rcases List.mem_cons.mp ((placeBy_perm x ys).mem_iff.mp hz) with rfl | hz
        · exact (Bool.or_eq_true _ _ ▸ total z y).resolve_left hxy
        · exact hy z hz

/-- A sorted list is in order, if the relation orders all elements in a line. -/
theorem sortBy_pairwise (trans : ∀ a b c, le a b = true → le b c = true → le a c = true)
    (total : ∀ a b, (le a b || le b a) = true) (l : List α) :
    (sortBy le l).Pairwise fun a b => le a b = true := by
  induction l with
  | nil => exact List.Pairwise.nil
  | cons x xs ih => exact placeBy_pairwise trans total x ih

/-- A list that is in order stays as it is. -/
theorem sortBy_eq_self {l : List α} (h : l.Pairwise fun a b => le a b = true) : sortBy le l = l := by
  induction l with
  | nil => rfl
  | cons x xs ih =>
      rcases List.pairwise_cons.mp h with ⟨hx, hxs⟩
      rw [sortBy, ih hxs]
      cases xs with
      | nil => rfl
      | cons y ys => rw [placeBy, if_pos (hx y List.mem_cons_self)]

end Replatform
