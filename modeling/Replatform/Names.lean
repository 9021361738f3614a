/-!
# Ordered Sets of Names

A set of strings, kept as the ascending list of its members. Two sets with the
same members are equal, and to list a set is to list it in order, so nothing
that is computed from a set can depend on the order in which it was filled.

## Main definitions

* `Names`: A strictly ascending list of strings.
* `Names.insert`, `Names.erase`, `Names.ofList`: Building sets.
* `Names.contains`: Membership.

## Theorems

* `Names.mem_insert`, `Names.mem_ofList`: What is in a set.
* `Names.ext_mem`: Sets with the same members are equal.
-/

namespace Replatform

/-- A set of strings, listed in strictly ascending order. -/
structure Names where
  /-- The members in order. -/
  toList : List String
  ascending : toList.Pairwise (· < ·)
deriving DecidableEq, Repr

namespace Names

theorem lt_of_not_lt_of_ne {a b : String} (h : ¬ a < b) (hne : a ≠ b) : b < a := by
  apply Decidable.byContradiction
  intro hba
  exact hne (String.le_antisymm (String.not_lt.mp hba) (String.not_lt.mp h))

/-- Put `x` in its place in an ascending list. -/
def place (x : String) : List String → List String
  | [] => [x]
  | y :: ys => if x < y then x :: y :: ys else if x = y then y :: ys else y :: place x ys

theorem mem_place {x z : String} {l : List String} : z ∈ place x l ↔ z = x ∨ z ∈ l := by
  induction l with
  | nil => simp [place]
  | cons y ys ih =>
    simp only [place]
    split
    · simp
    · split
      · next h => subst h; simp
      · simp only [List.mem_cons, ih]
        constructor
        · rintro (h | h | h) <;> simp [h]
        · rintro (h | h | h) <;> simp [h]

theorem place_ascending (x : String) {l : List String} (h : l.Pairwise (· < ·)) :
    (place x l).Pairwise (· < ·) := by
  induction l with
  | nil => simp [place]
  | cons y ys ih =>
    obtain ⟨hy, hys⟩ := List.pairwise_cons.mp h
    simp only [place]
    split
    · next hxy =>
      refine List.pairwise_cons.mpr ⟨fun z hz => ?_, h⟩
      rcases List.mem_cons.mp hz with rfl | hz
      · exact hxy
      · exact String.lt_trans hxy (hy z hz)
    · split
      · exact h
      · next hxy hne =>
        refine List.pairwise_cons.mpr ⟨fun z hz => ?_, ih hys⟩
        rcases mem_place.mp hz with rfl | hz
        · exact lt_of_not_lt_of_ne hxy hne
        · exact hy z hz

theorem ascending_nil : ([] : List String).Pairwise (· < ·) :=
  List.Pairwise.nil

/-- The set with no member. -/
def empty : Names := ⟨[], ascending_nil⟩

instance : EmptyCollection Names := ⟨empty⟩
instance : Inhabited Names := ⟨empty⟩

/-- Add one member. -/
def insert (s : Names) (x : String) : Names :=
  ⟨place x s.toList, place_ascending x s.ascending⟩

/-- Remove one member. -/
def erase (s : Names) (x : String) : Names :=
  ⟨s.toList.filter (· ≠ x), s.ascending.filter _⟩

/-- The members of a list. -/
def ofList (l : List String) : Names :=
  l.foldl insert empty

/-- Add every member of a list. -/
def insertAll (s : Names) (l : List String) : Names :=
  l.foldl insert s

instance : Membership String Names := ⟨fun s x => x ∈ s.toList⟩

instance (x : String) (s : Names) : Decidable (x ∈ s) :=
  inferInstanceAs (Decidable (x ∈ s.toList))

/-- The string is a member. -/
def contains (s : Names) (x : String) : Bool :=
  decide (x ∈ s)

/-- The set has no member. -/
def isEmpty (s : Names) : Bool :=
  s.toList.isEmpty

/-- The number of members. -/
def size (s : Names) : Nat :=
  s.toList.length

/-- The members of `s` that are members of `t`. -/
def inter (s t : Names) : Names :=
  ⟨s.toList.filter t.contains, s.ascending.filter _⟩

/-- The members of `s` and those of `t`. -/
def union (s t : Names) : Names :=
  s.insertAll t.toList

theorem mem_def {x : String} {s : Names} : x ∈ s ↔ x ∈ s.toList := Iff.rfl

theorem not_mem_empty {x : String} : x ∉ empty := by
  simp [mem_def, empty]

theorem mem_insert {s : Names} {x z : String} : z ∈ s.insert x ↔ z = x ∨ z ∈ s :=
  mem_place

theorem mem_insertAll {s : Names} {l : List String} {z : String} :
    z ∈ s.insertAll l ↔ z ∈ s ∨ z ∈ l := by
  induction l generalizing s with
  | nil => simp [insertAll]
  | cons x xs ih =>
    have hstep : s.insertAll (x :: xs) = (s.insert x).insertAll xs := rfl
    rw [hstep, ih, mem_insert, List.mem_cons]
    constructor
    · rintro ((h | h) | h) <;> simp [h]
    · rintro (h | h | h) <;> simp [h]

theorem mem_ofList {l : List String} {z : String} : z ∈ ofList l ↔ z ∈ l := by
  have h := @mem_insertAll empty l z
  simpa [insertAll, ofList, not_mem_empty] using h

/-- Ascending lists with the same members are equal. -/
theorem eq_of_ascending {l m : List String} (hl : l.Pairwise (· < ·)) (hm : m.Pairwise (· < ·))
    (h : ∀ x, x ∈ l ↔ x ∈ m) : l = m := by
  induction l generalizing m with
  | nil =>
    cases m with
    | nil => rfl
    | cons y ys => exact absurd ((h y).mpr (by simp)) (by simp)
  | cons x xs ih =>
    cases m with
    | nil => exact absurd ((h x).mp (by simp)) (by simp)
    | cons y ys =>
      obtain ⟨hx, hxs⟩ := List.pairwise_cons.mp hl
      obtain ⟨hy, hys⟩ := List.pairwise_cons.mp hm
      -- Each head is in the other list, and neither can come after the other.
      have hxy : x = y := by
        rcases List.mem_cons.mp ((h x).mp (by simp)) with h1 | h1
        · exact h1
        · rcases List.mem_cons.mp ((h y).mpr (by simp)) with h2 | h2
          · exact h2.symm
          · exact absurd (hx y h2) (String.lt_asymm (hy x h1))
      subst hxy
      have hrest : ∀ z, z ∈ xs ↔ z ∈ ys := by
        intro z
        constructor
        · intro hz
          rcases List.mem_cons.mp ((h z).mp (by simp [hz])) with h1 | h1
          · exact absurd (h1 ▸ hx z hz) (String.lt_irrefl _)
          · exact h1
        · intro hz
          rcases List.mem_cons.mp ((h z).mpr (by simp [hz])) with h1 | h1
          · exact absurd (h1 ▸ hy z hz) (String.lt_irrefl _)
          · exact h1
      rw [ih hxs hys hrest]

/-- Sets with the same members are equal. -/
theorem ext_mem {s t : Names} (h : ∀ x, x ∈ s ↔ x ∈ t) : s = t := by
  cases s with
  | mk l hl =>
    cases t with
    | mk m hm =>
      have : l = m := eq_of_ascending hl hm h
      subst this
      rfl

end Names

end Replatform
