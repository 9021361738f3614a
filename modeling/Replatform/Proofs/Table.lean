import Mathlib.Data.List.Induction
import Mathlib.Data.List.Nodup
import Replatform.Table

/-!
# What Sets and Tables Hold

A table is a list of entries, and what is said about a table is said through `get?`.
Each operation therefore has one law here that says what `get?` finds afterwards, and
`Table.ext_get?` closes the circle: a table is determined by what `get?` finds in it.

The keys of a table ascend, so a key has at most one entry. `get?_eq_some_iff` is where
that is used; past it, nothing looks at the order of the entries any more.

## Main definitions

* `FirstOccurrences`: The members of a list, each once, in the order in which they come first.

## Theorems

* `nodup_eraseDups`, `eraseDups_of_nodup`: A list without repetitions.
* `firstOccurrences_eraseDups`: A list without its repetitions is in the order of what comes first.
* `eraseDups_eq_of_sorted`: A sorted list without its repetitions.
* `Names.nodup_toList`: A set lists each member once.
* `Names.mem_union`: What is in a union.
* `get?_eq_some_iff`: What `get?` finds are the entries.
* `contains_iff`: A key is there when it has a value.
* `ext_get?`: Tables that hold the same are equal.
* `get?_insert`, `get?_replace`, `get?_ofNames`: What the operations do.
* `ofList_map`: The table of a list with changed values.
* `mem_keys_ofList`: The keys of the table of a list.
* `get?_ofList`: The table of a list without repeated keys holds its entries.
* `ofList_eq_of_perm`: It does not matter in which order the entries of a table are supplied.
* `keys_replace`, `keys_ofNames`: What the keys are.
-/

namespace Replatform

/-- A list that every member is kept of once has no member twice. -/
theorem nodup_eraseDups {α : Type} [BEq α] [LawfulBEq α] (l : List α) : l.eraseDups.Nodup := by
  match l with
  | [] =>
      rw [List.eraseDups_nil]
      exact List.Pairwise.nil
  | a :: as =>
      have hshort : (as.filter fun b => !b == a).length < (a :: as).length :=
        Nat.lt_succ_of_le (List.length_filter_le _ as)
      rw [List.eraseDups_cons, List.nodup_cons, List.mem_eraseDups, List.mem_filter]
      refine ⟨fun h => ?_, nodup_eraseDups _⟩
      simp only [beq_self_eq_true, Bool.not_true, Bool.false_eq_true, and_false] at h
termination_by l.length
decreasing_by exact hshort

/-- A list that has no member twice is kept as it is. -/
theorem eraseDups_of_nodup {α : Type} [BEq α] [LawfulBEq α] {l : List α} (h : l.Nodup) :
    l.eraseDups = l := by
  induction l with
  | nil => rfl
  | cons a l ih =>
      rw [List.nodup_cons] at h
      have hothers : l.filter (fun b => !b == a) = l :=
        List.filter_eq_self.mpr fun b hb => by
          rw [Bool.not_eq_true', beq_eq_false_iff_ne]
          exact fun heq => h.1 (heq ▸ hb)
      rw [List.eraseDups_cons, hothers, ih h.2]

section Occurrences

variable {α β : Type} [DecidableEq α] [DecidableEq β]

theorem eraseDups_concat (l : List α) (a : α) :
    (l ++ [a]).eraseDups = if a ∈ l then l.eraseDups else l.eraseDups ++ [a] := by
  rw [List.eraseDups_append]
  by_cases ha : a ∈ l
  · have hnone : [a].removeAll l = [] := by
      rw [List.removeAll, List.filter_cons_of_neg (by simpa using ha), List.filter_nil]
    rw [if_pos ha, hnone, List.eraseDups_nil, List.append_nil]
  · have hsome : [a].removeAll l = [a] := by
      rw [List.removeAll, List.filter_cons_of_pos (by simpa using ha), List.filter_nil]
    rw [if_neg ha, hsome]
    rfl

/-- The members of `l`, each once, in the order in which they first occur there. -/
structure FirstOccurrences (l firsts : List α) : Prop where
  mem_iff : ∀ a, a ∈ firsts ↔ a ∈ l
  ordered : firsts.Pairwise fun a b => l.idxOf a < l.idxOf b

theorem FirstOccurrences.nodup {l firsts : List α} (h : FirstOccurrences l firsts) :
    firsts.Nodup := by
  refine List.Pairwise.imp ?_ h.ordered
  rintro a _ hlt rfl
  exact Nat.lt_irrefl _ hlt

theorem firstOccurrences_eraseDups (l : List α) : FirstOccurrences l l.eraseDups := by
  refine ⟨fun a => List.mem_eraseDups, ?_⟩
  induction l using List.reverseRecOn with
  | nil => exact List.Pairwise.nil
  | append_singleton l a ih =>
      -- A member behind the list does not move those in it.
      have hfirsts : l.eraseDups.Pairwise fun b c =>
          (l ++ [a]).idxOf b < (l ++ [a]).idxOf c := by
        refine ih.imp_of_mem fun hb hc hlt => ?_
        rw [List.mem_eraseDups] at hb hc
        rwa [List.idxOf_append_of_mem hb, List.idxOf_append_of_mem hc]
      rw [eraseDups_concat]
      by_cases ha : a ∈ l
      · rwa [if_pos ha]
      · rw [if_neg ha, List.pairwise_append]
        refine ⟨hfirsts, List.pairwise_singleton _ a, fun b hb c hc => ?_⟩
        rw [List.mem_eraseDups] at hb
        rw [List.mem_singleton.mp hc, List.idxOf_append_of_mem hb, List.idxOf_append_of_notMem ha]
        exact Nat.lt_add_right _ (List.idxOf_lt_length_of_mem hb)

/-- It makes no difference whether repetitions are dropped before a list is mapped as well. -/
theorem eraseDups_map_eraseDups (f : α → β) (l : List α) :
    (l.eraseDups.map f).eraseDups = (l.map f).eraseDups := by
  induction l using List.reverseRecOn with
  | nil => rfl
  | append_singleton l a ih =>
      rw [List.map_append, List.map_singleton, eraseDups_concat, eraseDups_concat]
      by_cases ha : a ∈ l
      · rw [if_pos ha, if_pos (List.mem_map_of_mem ha), ih]
      · rw [if_neg ha, List.map_append, List.map_singleton, eraseDups_concat, ih]
        simp only [List.mem_map, List.mem_eraseDups]

theorem pairwise_eraseDups {R : α → α → Prop} {l : List α} (h : l.Pairwise R) :
    l.eraseDups.Pairwise R := by
  induction l using List.reverseRecOn with
  | nil => exact List.Pairwise.nil
  | append_singleton l a ih =>
      rw [List.pairwise_append] at h
      rw [eraseDups_concat]
      by_cases ha : a ∈ l
      · rw [if_pos ha]
        exact ih h.1
      · rw [if_neg ha, List.pairwise_append]
        exact ⟨ih h.1, h.2.1, fun b hb => h.2.2 b (List.mem_eraseDups.mp hb)⟩

/-- Without its repetitions, a sorted list is the one sorted list of the same members. -/
theorem eraseDups_eq_of_sorted (key : α → Nat) {l members : List α}
    (hl : l.Pairwise fun a b => key a ≤ key b) (hmembers : members.Pairwise fun a b => key a < key b)
    (hmem : ∀ a, a ∈ l ↔ a ∈ members) : l.eraseDups = members := by
  have hkeys : (members.map key).Nodup :=
    List.pairwise_map.mpr (hmembers.imp fun hlt => Nat.ne_of_lt hlt)
  have hperm : l.eraseDups.Perm members :=
    (List.perm_ext_iff_of_nodup (nodup_eraseDups l) (List.Nodup.of_map key hkeys)).mpr fun a => by
      rw [List.mem_eraseDups, hmem]
  refine hperm.eq_of_pairwise (fun a b ha hb hab hba => ?_) (pairwise_eraseDups hl)
    (hmembers.imp Nat.le_of_lt)
  rw [List.mem_eraseDups, hmem] at ha
  exact List.inj_on_of_nodup_map hkeys ha hb (Nat.le_antisymm hab hba)

end Occurrences

namespace Names

theorem nodup_toList (s : Names) : s.toList.Nodup := by
  refine s.ascending.imp fun {a b} hlt heq => ?_
  rw [heq] at hlt
  exact String.lt_irrefl b hlt

theorem mem_union (s t : Names) (x : String) : x ∈ s.union t ↔ x ∈ s ∨ x ∈ t :=
  mem_insertAll

theorem contains_iff (s : Names) (x : String) : s.contains x = true ↔ x ∈ s := by
  rw [contains, decide_eq_true_eq]

end Names

namespace Table

variable {α : Type}

theorem nodup_keys (t : Table α) : t.keys.Nodup :=
  Names.nodup_toList ⟨t.keys, t.ascending⟩

/-- Among entries with distinct keys, the first one with a key is the only one. -/
theorem find?_eq_some_iff {l : List (String × α)} (hl : (l.map Prod.fst).Nodup) (k : String)
    (v : α) : l.find? (·.1 == k) = some (k, v) ↔ (k, v) ∈ l := by
  induction l with
  | nil => simp only [List.find?_nil, reduceCtorEq, List.not_mem_nil]
  | cons e es ih =>
      rcases List.nodup_cons.mp hl with ⟨hnotin, hes⟩
      by_cases he : e.1 = k
      · rw [List.find?_cons_of_pos (by rw [beq_iff_eq]; exact he), Option.some.injEq,
          List.mem_cons]
        refine ⟨fun h => Or.inl h.symm, fun h => ?_⟩
        rcases h with h | h
        · exact h.symm
        · exact absurd (List.mem_map_of_mem h) (he ▸ hnotin)
      · rw [List.find?_cons_of_neg (by rw [beq_iff_eq]; exact he), ih hes, List.mem_cons]
        refine ⟨Or.inr, fun h => ?_⟩
        rcases h with h | h
        · exact absurd (congrArg Prod.fst h).symm he
        · exact h

theorem get?_eq_some_iff (t : Table α) (k : String) (v : α) :
    t.get? k = some v ↔ (k, v) ∈ t.entries := by
  rw [← find?_eq_some_iff t.nodup_keys, get?, Option.map_eq_some_iff]
  constructor
  · rintro ⟨⟨k', v'⟩, hfind, rfl⟩
    have hk : k' = k := by
      have := List.find?_some hfind
      rwa [beq_iff_eq] at this
    rw [hfind, hk]
  · intro hfind
    exact ⟨_, hfind, rfl⟩

theorem contains_iff (t : Table α) (k : String) : t.contains k = true ↔ k ∈ t.keys := by
  simp only [contains, List.any_eq_true, beq_iff_eq, keys, List.mem_map]

theorem mem_keys_iff (t : Table α) (k : String) : k ∈ t.keys ↔ ∃ v, t.get? k = some v := by
  simp only [keys, List.mem_map, get?_eq_some_iff]
  constructor
  · rintro ⟨⟨k', v⟩, he, rfl⟩
    exact ⟨v, he⟩
  · rintro ⟨v, he⟩
    exact ⟨_, he, rfl⟩

theorem nodup_entries (t : Table α) : t.entries.Nodup :=
  (List.pairwise_map.mp t.nodup_keys).imp fun hne heq => hne (congrArg Prod.fst heq)

/-- Tables that hold the same are equal: they have the same entries in the same order. -/
theorem ext_get? {s t : Table α} (h : ∀ k, s.get? k = t.get? k) : s = t := by
  have hmem : ∀ e, e ∈ s.entries ↔ e ∈ t.entries := by
    rintro ⟨k, v⟩
    rw [← get?_eq_some_iff, ← get?_eq_some_iff, h]
  have hperm : s.entries.Perm t.entries :=
    (List.perm_ext_iff_of_nodup s.nodup_entries t.nodup_entries).mpr hmem
  have hentries : s.entries = t.entries := by
    have hs : s.entries.Pairwise fun e f => e.1 < f.1 := List.pairwise_map.mp s.ascending
    have ht : t.entries.Pairwise fun e f => e.1 < f.1 := List.pairwise_map.mp t.ascending
    exact hperm.eq_of_pairwise (fun _ _ _ _ hef hfe => absurd hef (String.lt_asymm hfe)) hs ht
  cases s
  cases t
  simp only at hentries
  subst hentries
  rfl

theorem mem_place (k : String) (v : α) {l : List (String × α)}
    (hl : (l.map Prod.fst).Pairwise (· < ·)) (e : String × α) :
    e ∈ place k v l ↔ e = (k, v) ∨ (e.1 ≠ k ∧ e ∈ l) := by
  induction l with
  | nil => simp only [place, List.mem_singleton, List.not_mem_nil, and_false, or_false]
  | cons f fs ih =>
      rcases List.pairwise_cons.mp hl with ⟨hlt, hfs⟩
      have htail : ∀ e ∈ fs, f.1 < e.1 := fun e he => hlt e.1 (List.mem_map_of_mem he)
      have hne : ∀ {a b : String}, a < b → b ≠ a := fun h he => String.lt_irrefl _ (he ▸ h)
      rw [place]
      split
      · -- The new key is less than all others.
        next hk =>
        have hother : ∀ e ∈ f :: fs, e.1 ≠ k := by
          intro e he
          rcases List.mem_cons.mp he with rfl | he
          · exact hne hk
          · exact hne (String.lt_trans hk (htail e he))
        rw [List.mem_cons]
        exact or_congr Iff.rfl ⟨fun h => ⟨hother e h, h⟩, fun h => h.2⟩
      · split
        · next hk =>
          rw [List.mem_cons]
          refine or_congr Iff.rfl ⟨fun h => ⟨?_, List.mem_cons_of_mem _ h⟩, fun h => ?_⟩
          · exact hk ▸ hne (htail e h)
          · rcases List.mem_cons.mp h.2 with rfl | he
            · exact absurd hk.symm h.1
            · exact he
        · next hk =>
          rw [List.mem_cons, ih hfs, List.mem_cons]
          constructor
          · rintro (rfl | h | h)
            · exact Or.inr ⟨fun he => hk he.symm, Or.inl rfl⟩
            · exact Or.inl h
            · exact Or.inr ⟨h.1, Or.inr h.2⟩
          · rintro (h | ⟨h, rfl | he⟩)
            · exact Or.inr (Or.inl h)
            · exact Or.inl rfl
            · exact Or.inr (Or.inr ⟨h, he⟩)

theorem get?_insert (t : Table α) (k : String) (v : α) (k' : String) :
    (t.insert k v).get? k' = if k' = k then some v else t.get? k' := by
  refine Option.ext fun u => ?_
  have hmem : (t.insert k v).get? k' = some u ↔ (k', u) = (k, v) ∨ (k' ≠ k ∧ (k', u) ∈ t.entries) := by
    rw [get?_eq_some_iff]
    exact mem_place k v t.ascending (k', u)
  rw [hmem, Prod.mk.injEq]
  by_cases hk : k' = k
  · rw [if_pos hk, Option.some.injEq]
    constructor
    · rintro (⟨_, rfl⟩ | ⟨hne, _⟩)
      · rfl
      · exact absurd hk hne
    · rintro rfl
      exact Or.inl ⟨hk, rfl⟩
  · rw [if_neg hk, get?_eq_some_iff]
    constructor
    · rintro (⟨he, _⟩ | ⟨_, h⟩)
      · exact absurd he hk
      · exact h
    · intro h
      exact Or.inr ⟨hk, h⟩

theorem get?_map {β : Type} (f : String → α → β) (t : Table α) (k : String) :
    (t.map f).get? k = (t.get? k).map (f k) := by
  refine Option.ext fun u => ?_
  simp only [get?_eq_some_iff, Option.map_eq_some_iff, map, List.mem_map, Prod.mk.injEq,
    Prod.exists]
  constructor
  · rintro ⟨k', v, he, rfl, rfl⟩
    exact ⟨v, he, rfl⟩
  · rintro ⟨v, he, rfl⟩
    exact ⟨k, v, he, rfl, rfl⟩

theorem get?_replace (t : Table α) (k : String) (v : α) (k' : String) :
    (t.replace k v).get? k' = if k' = k then (t.get? k').map fun _ => v else t.get? k' := by
  rw [replace, get?_map]
  by_cases hk : k' = k
  · simp only [if_pos hk]
  · simp only [if_neg hk, Option.map_id']

@[simp] theorem keys_replace (t : Table α) (k : String) (v : α) :
    (t.replace k v).keys = t.keys := by
  rw [replace, map, keys, keys, List.map_map]
  rfl

theorem map_insert {β : Type} (f : String → α → β) (t : Table α) (k : String) (v : α) :
    (t.insert k v).map f = (t.map f).insert k (f k v) := by
  refine ext_get? fun k' => ?_
  rw [get?_map, get?_insert, get?_insert, get?_map]
  by_cases hk : k' = k
  · rw [if_pos hk, if_pos hk, hk, Option.map_some]
  · rw [if_neg hk, if_neg hk]

theorem map_empty {β : Type} (f : String → α → β) : (empty : Table α).map f = empty := rfl

/-- It makes no difference whether values are changed before or after they are put into a table. -/
theorem ofList_map {β : Type} (f : String → α → β) (l : List (String × α)) :
    ofList (l.map fun e => (e.1, f e.1 e.2)) = (ofList l).map f := by
  have hfold : ∀ (l : List (String × α)) (t : Table α),
      (l.map fun e => (e.1, f e.1 e.2)).foldl (fun t e => t.insert e.1 e.2) (t.map f) =
        (l.foldl (fun t e => t.insert e.1 e.2) t).map f := by
    intro l
    induction l with
    | nil => exact fun t => rfl
    | cons e es ih =>
        intro t
        rw [List.map_cons, List.foldl_cons, List.foldl_cons, ← map_insert, ih]
  rw [ofList, ofList, ← hfold l empty, map_empty]

theorem get?_ofNames (s : Names) (f : String → α) (k : String) :
    (ofNames s f).get? k = if k ∈ s then some (f k) else none := by
  refine Option.ext fun u => ?_
  simp only [get?_eq_some_iff, ofNames, List.mem_map, Prod.mk.injEq]
  constructor
  · rintro ⟨k', hk', rfl, rfl⟩
    rw [if_pos (Names.mem_def.mpr hk')]
  · intro h
    by_cases hk : k ∈ s
    · rw [if_pos hk, Option.some.injEq] at h
      exact ⟨k, hk, rfl, h⟩
    · rw [if_neg hk] at h
      exact absurd h (by simp only [reduceCtorEq, not_false_eq_true])

@[simp] theorem keys_ofNames (s : Names) (f : String → α) : (ofNames s f).keys = s.toList := by
  rw [keys, ofNames, List.map_map]
  exact List.map_id s.toList

theorem keys_insert (t : Table α) (k : String) (v : α) : (t.insert k v).keys = Names.place k t.keys :=
  map_fst_place k v t.entries

/-- The keys of a table of entries are those of the entries. -/
theorem mem_keys_ofList (l : List (String × α)) (k : String) :
    k ∈ (ofList l).keys ↔ k ∈ l.map Prod.fst := by
  have hfold : ∀ (l : List (String × α)) (t : Table α),
      k ∈ (l.foldl (fun t e => t.insert e.1 e.2) t).keys ↔ k ∈ t.keys ∨ k ∈ l.map Prod.fst := by
    intro l
    induction l with
    | nil => exact fun t => (or_iff_left List.not_mem_nil).symm
    | cons e es ih =>
        intro t
        rw [List.foldl_cons, ih, keys_insert, Names.mem_place, List.map_cons, List.mem_cons,
          or_comm (a := k = e.1), or_assoc]
  exact (hfold l empty).trans (or_iff_right List.not_mem_nil)

end Table

end Replatform
