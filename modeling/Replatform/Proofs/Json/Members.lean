import Mathlib.Data.List.Forall2
import Mathlib.Tactic.SplitIfs
import Replatform.Proofs.Json.RoundTrip

/-!
# Objects from Members

An object is made of members in any order, and keeps them in the order of their keys, the last one
of each key. Whoever looks for a key need not know the order: `lookup_placeMember` and
`lookup_foldl_placeMember` say what is found. An object that is made in this way is one that a text
can mean, and a text in which the members stand in another order means it as well.

## Main definitions

* `Means`: What the text of a value means, whose members may be in any order.

## Theorems

* `lookup_placeMember`, `lookup_foldl_placeMember`: What is found in an object.
* `ascending_placeMember`: The members stay in order.
* `isValue_ofMembers`: A text can mean such an object.
* `Means.arr`, `Means.obj`: What the text of an array or an object means.
-/

namespace Replatform

namespace Json

section Place

variable {key : String} {value : Json} {members : List (String × Json)}

theorem lookup_cons {α : Type} (k : String) (m : String × α) (members : List (String × α)) :
    List.lookup k (m :: members) = if k = m.1 then some m.2 else List.lookup k members := by
  rcases m with ⟨key, value⟩
  by_cases hkey : k = key
  · rw [hkey, if_pos rfl, List.lookup_cons_self]
  · rw [if_neg hkey, List.lookup_cons, beq_eq_false_iff_ne.mpr hkey]

/-- What is found is there. -/
theorem mem_of_lookup (h : List.lookup key members = some value) : (key, value) ∈ members := by
  rcases List.lookup_eq_some_iff.mp h with ⟨before, after, rfl, -⟩
  exact List.mem_append_right before List.mem_cons_self

/-- A member that is put in its place is found, and so is every other one as before. -/
theorem lookup_placeMember (k key : String) (value : Json) (members : List (String × Json)) :
    List.lookup k (placeMember key value members) =
      if k = key then some value else List.lookup k members := by
  induction members with
  | nil => exact lookup_cons k (key, value) []
  | cons m members ih =>
      rw [placeMember]
      by_cases hlt : key < m.1
      · rw [if_pos hlt, lookup_cons]
      · rw [if_neg hlt]
        by_cases heq : key = m.1
        · rw [if_pos heq, lookup_cons, lookup_cons k m, heq]
          split_ifs <;> rfl
        · rw [if_neg heq, lookup_cons, lookup_cons k m, ih]
          by_cases hk : k = m.1
          · rw [if_pos hk, if_neg fun h => heq (h.symm.trans hk)]
            exact (if_pos hk).symm
          · rw [if_neg hk, if_neg hk]

theorem mem_placeMember {m : String × Json} (h : m ∈ placeMember key value members) :
    m = (key, value) ∨ m ∈ members := by
  induction members with
  | nil => exact Or.inl (List.mem_singleton.mp h)
  | cons first members ih =>
      rw [placeMember] at h
      split_ifs at h
      · exact List.mem_cons.mp h
      · exact (List.mem_cons.mp h).imp_right (List.mem_cons_of_mem first)
      · rcases List.mem_cons.mp h with rfl | h
        · exact Or.inr List.mem_cons_self
        · exact (ih h).imp_right (List.mem_cons_of_mem first)

/-- The members stay in order. -/
theorem ascending_placeMember (h : (members.map Prod.fst).Pairwise (· < ·)) :
    ((placeMember key value members).map Prod.fst).Pairwise (· < ·) := by
  induction members with
  | nil => exact List.pairwise_singleton _ _
  | cons m members ih =>
      rw [List.map_cons, List.pairwise_cons] at h
      rw [placeMember]
      split_ifs with hlt heq
      · rw [List.map_cons, List.map_cons, List.pairwise_cons, List.forall_mem_cons]
        exact ⟨⟨hlt, fun k hk => String.lt_trans hlt (h.1 k hk)⟩, List.pairwise_cons.mpr h⟩
      · rw [List.map_cons, List.pairwise_cons, heq]
        exact h
      · rw [List.map_cons, List.pairwise_cons]
        refine ⟨fun k hk => ?_, ih h.2⟩
        rcases List.mem_map.mp hk with ⟨m', hm', rfl⟩
        rcases mem_placeMember hm' with rfl | hmem
        · -- The new key comes behind the first, being neither smaller nor equal.
          refine Classical.byContradiction fun hnot => heq ?_
          exact String.le_antisymm (String.not_lt.mp hnot) (String.not_lt.mp hlt)
        · exact h.1 m'.1 (List.mem_map_of_mem hmem)

end Place

section Objects

variable {members : List (String × Json)}

/-- The last member of each key is found. -/
theorem lookup_foldl_placeMember (k : String) (acc : List (String × Json)) :
    List.lookup k (members.foldl (fun acc m => placeMember m.1 m.2 acc) acc) =
      (List.lookup k members.reverse).or (List.lookup k acc) := by
  induction members generalizing acc with
  | nil => rw [List.foldl_nil, List.reverse_nil, List.lookup_nil, Option.none_or]
  | cons m members ih =>
      rw [List.foldl_cons, ih, lookup_placeMember, List.reverse_cons, List.lookup_append,
        lookup_cons, List.lookup_nil, Option.or_assoc]
      split_ifs <;> rfl

theorem ascending_foldl_placeMember (acc : List (String × Json))
    (h : (acc.map Prod.fst).Pairwise (· < ·)) :
    ((members.foldl (fun acc m => placeMember m.1 m.2 acc) acc).map Prod.fst).Pairwise (· < ·) := by
  induction members generalizing acc with
  | nil => exact h
  | cons m members ih => exact ih _ (ascending_placeMember h)

theorem mem_foldl_placeMember {acc : List (String × Json)} {m : String × Json}
    (h : m ∈ members.foldl (fun acc m => placeMember m.1 m.2 acc) acc) :
    m ∈ acc ∨ m ∈ members := by
  induction members generalizing acc with
  | nil => exact Or.inl h
  | cons first members ih =>
      rcases ih h with h | h
      · rcases mem_placeMember h with rfl | h
        · exact Or.inr List.mem_cons_self
        · exact Or.inl h
      · exact Or.inr (List.mem_cons_of_mem first h)

/-- A text can mean an object with one member more. -/
theorem IsValue.placed {depth : ℕ} {key : String} {value : Json}
    (h : IsValue (depth + 1) (.obj members)) (hvalue : IsValue depth value) :
    IsValue (depth + 1) (.obj (placeMember key value members)) := by
  cases h with
  | obj hascending hmembers =>
      refine .obj (ascending_placeMember hascending) fun m hm => ?_
      rcases mem_placeMember hm with rfl | hm
      · exact hvalue
      · exact hmembers m hm

/-- A text can mean an object that is made of what it can mean. -/
theorem isValue_ofMembers {depth : ℕ} (h : ∀ m ∈ members, IsValue depth m.2) :
    IsValue (depth + 1) (ofMembers members) :=
  .obj (ascending_foldl_placeMember [] List.Pairwise.nil) fun m hm =>
    h m ((mem_foldl_placeMember hm).resolve_left List.not_mem_nil)

end Objects

/-- What the text of a value means: the value itself, but for the order of members. -/
def Means (depth : ℕ) (v w : Json) : Prop :=
  Source.value? depth (source v) = some w

section Means

variable {depth : ℕ} {v w : Json} {members values : List (String × Json)}

theorem Means.parse? (h : Means maxDepth v w) : parse? (render v) = some w := by
  rw [Json.parse?, read?_render, Option.bind_some, h]

theorem Means.str (depth : ℕ) (s : String) : Means depth (.str s) (.str s) :=
  value?_source (.str depth s)

theorem Means.arr {α : Type} {items : List α} {f g : α → Json}
    (h : ∀ item ∈ items, Means depth (f item) (g item)) :
    Means (depth + 1) (.arr (items.map f)) (.arr (items.map g)) := by
  have hvalues : Source.values? depth (sources (items.map f)) = some (items.map g) := by
    induction items with
    | nil => rfl
    | cons item items ih =>
        rw [List.forall_mem_cons] at h
        simp only [List.map_cons, sources, Source.values?, ih h.2, show _ = some _ from h.1]
  rw [Means, source, Source.value?, hvalues, Option.map_some]

/-- The text of an object means the object that is made of what its members mean. -/
theorem Means.obj (h : List.Forall₂ (fun m value => m.1 = value.1 ∧ Means depth m.2 value.2)
    members values) : Means (depth + 1) (.obj members) (ofMembers values) := by
  have hvalues : Source.memberValues? depth (memberSources members) = some values := by
    induction h with
    | nil => rfl
    | cons hm _ ih =>
        simp only [memberSources, Source.memberValues?, text?_escaped, ih,
          show _ = some _ from hm.2, hm.1]
  rw [Means, source, Source.value?, hvalues, Option.map_some]

end Means

end Json

end Replatform
