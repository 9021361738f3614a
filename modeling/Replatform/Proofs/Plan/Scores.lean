import Mathlib.Data.List.Nodup
import Mathlib.Order.Bounds.Basic
import Replatform.Plan.Mapper
import Replatform.Proofs.Double

/-!
# Scores and the Best of Them

Sources are scored as they are reached, and the best score is looked for when all are there.

A source may be reached again with more confidence. Its score rises then, while it keeps its place, so
the scores are not in the order in which they came about, and a score may be due to a later hint than
its place is. `Tallied` says what holds of the scores all the while: they are in the order in which
their sources were reached first, and every one is the greatest confidence with which its source was
reached so far. `Tallied.score` is one step of it, and `Tallied.foldl` any number of them.

The best of some scores is the first one that no other exceeds, in whatever order they are. This is
said without the laws that only numbers have, since scores by similarity are not known to be numbers.
For scores by confidence the two come together in `Tallied.le_of_isFirstBest`.

## Main definitions

* `IsFirstBest`: The first score that no other one exceeds.
* `Tallied`: What the scores are after some sources have been reached.

## Theorems

* `isFirstBest_best`: The best score is the first one that no other exceeds.
* `score_cases`: What it is to score a source.
* `isGreatest_foldl`: The greatest number is found by going through all.
* `Tallied.score`, `Tallied.foldl`: What is preserved when sources are reached.
* `Tallied.le_of_isFirstBest`: The source of the best score was reached first among equals.
-/

namespace Replatform

namespace Mapper

section Best

/-- The entry is not exceeded by another one, and those before it do not come up to it. -/
def IsFirstBest (entries : List (String × Float)) (e : String × Float) : Prop :=
  ∃ before after, entries = before ++ e :: after ∧
    (∀ x ∈ before, ¬ e.2 ≤ x.2) ∧ ∀ x ∈ after, ¬ e.2 < x.2

namespace IsFirstBest

variable {entries : List (String × Float)} {top first e : String × Float}

theorem mem (h : IsFirstBest entries e) : e ∈ entries := by
  rcases h with ⟨before, after, rfl, -, -⟩
  exact List.mem_append_right before List.mem_cons_self

theorem not_lt (h : IsFirstBest entries e) {x : String × Float} (hx : x ∈ entries) :
    ¬ e.2 < x.2 := by
  rcases h with ⟨before, after, rfl, hbefore, hafter⟩
  rcases List.mem_append.mp hx with hx | hx
  · exact fun hlt => hbefore x hx (float_le_of_lt hlt)
  · rcases List.mem_cons.mp hx with rfl | hx
    · exact float_lt_irrefl x.2
    · exact hafter x hx

/-- An entry that another one exceeds can be put in front. -/
theorem cons_of_lt (h : IsFirstBest (first :: entries) e) (hlt : top.2 < first.2) :
    IsFirstBest (top :: first :: entries) e := by
  have htop : ¬ e.2 ≤ top.2 := fun hle =>
    h.not_lt List.mem_cons_self (float_lt_of_le_of_lt hle hlt)
  rcases h with ⟨before, after, hentries, hbefore, hafter⟩
  refine ⟨top :: before, after, by rw [hentries, List.cons_append], ?_, hafter⟩
  exact List.forall_mem_cons.mpr ⟨htop, hbefore⟩

end IsFirstBest

/-- The best is the best so far, or exceeds it. -/
theorem best_eq_or_lt {top e : String × Float} {entries : List (String × Float)}
    (h : best (some top) entries = some e) : e = top ∨ top.2 < e.2 := by
  induction entries generalizing top with
  | nil =>
      rw [best, Option.some.injEq] at h
      exact Or.inl h.symm
  | cons first entries ih =>
      rw [best] at h
      by_cases hlt : top.2 < first.2
      · rw [if_pos hlt] at h
        rcases ih h with rfl | hfirst
        · exact Or.inr hlt
        · exact Or.inr (float_lt_of_lt_of_le hlt (float_le_of_lt hfirst))
      · rw [if_neg hlt] at h
        exact ih h

theorem isFirstBest_best_some {top e : String × Float} {entries : List (String × Float)}
    (h : best (some top) entries = some e) : IsFirstBest (top :: entries) e := by
  induction entries generalizing top with
  | nil =>
      rw [best, Option.some.injEq] at h
      subst h
      exact ⟨[], [], rfl, fun _ hx => absurd hx List.not_mem_nil,
        fun _ hx => absurd hx List.not_mem_nil⟩
  | cons first entries ih =>
      rw [best] at h
      by_cases hlt : top.2 < first.2
      · rw [if_pos hlt] at h
        exact (ih h).cons_of_lt hlt
      · rw [if_neg hlt] at h
        have hrest := ih h
        rcases best_eq_or_lt h with rfl | htop
        · refine ⟨[], first :: entries, rfl, fun _ hx => absurd hx List.not_mem_nil, ?_⟩
          exact List.forall_mem_cons.mpr
            ⟨hlt, fun x hx => hrest.not_lt (List.mem_cons_of_mem _ hx)⟩
        -- What does not exceed the best so far does not come up to what exceeds it.
        · have hfirst : ¬ e.2 ≤ first.2 := fun hle => hlt (float_lt_of_lt_of_le htop hle)
          rcases hrest with ⟨before, after, hentries, hbefore, hafter⟩
          cases before with
          | nil =>
              rw [List.nil_append, List.cons.injEq] at hentries
              rw [hentries.1] at htop
              exact absurd htop (float_lt_irrefl e.2)
          | cons b before =>
              rw [List.cons_append, List.cons.injEq] at hentries
              rw [List.forall_mem_cons] at hbefore
              refine ⟨top :: first :: before, after, ?_, ?_, hafter⟩
              · rw [hentries.2, List.cons_append, List.cons_append]
              · rw [hentries.1]
                exact List.forall_mem_cons.mpr
                  ⟨hbefore.1, List.forall_mem_cons.mpr ⟨hfirst, hbefore.2⟩⟩

/-- The best of some entries is the first one that no other exceeds. -/
theorem isFirstBest_best {e : String × Float} {entries : List (String × Float)}
    (h : best none entries = some e) : IsFirstBest entries e := by
  cases entries with
  | nil => exact absurd h (by simp only [best, reduceCtorEq, not_false_eq_true])
  | cons first entries =>
      rw [best] at h
      exact isFirstBest_best_some h

theorem best_some_ne_none (top : String × Float) (entries : List (String × Float)) :
    best (some top) entries ≠ none := by
  induction entries generalizing top with
  | nil => exact Option.some_ne_none top
  | cons first entries ih =>
      rw [best]
      exact ih _

/-- Some entries have a best one, unless there is none. -/
theorem best_eq_none {entries : List (String × Float)} (h : best none entries = none) :
    entries = [] := by
  cases entries with
  | nil => rfl
  | cons first entries =>
      rw [best] at h
      exact absurd h (best_some_ne_none first entries)

end Best

section Greatest

/-- The greater one of the greatest number so far and of one more is the greatest of all. -/
theorem isGreatest_insert {S : Set Float} {c d : Float} (h : IsGreatest S d) (hc : c ≤ c) :
    IsGreatest (insert c S) (if d < c then c else d) := by
  by_cases hlt : d < c
  · rw [if_pos hlt]
    refine ⟨Set.mem_insert c S, ?_⟩
    rintro x (rfl | hx)
    · exact hc
    · exact float_le_trans (h.2 hx) (float_le_of_lt hlt)
  · rw [if_neg hlt]
    refine ⟨Set.mem_insert_of_mem c h.1, ?_⟩
    rintro x (rfl | hx)
    · exact float_le_of_not_lt hc (h.2 h.1) hlt
    · exact h.2 hx

theorem isGreatest_singleton_float {c : Float} (hc : c ≤ c) : IsGreatest {c} c :=
  ⟨rfl, fun _ hx => hx ▸ hc⟩

/-- Of some numbers the greatest is found by going through them. -/
theorem isGreatest_foldl {c : Float} {cs : List Float} (hnumber : ∀ x ∈ c :: cs, x ≤ x) :
    IsGreatest {x | x ∈ c :: cs} (cs.foldl (fun c x => if c ≤ x then x else c) c) := by
  induction cs generalizing c with
  | nil =>
      refine ⟨List.mem_cons_self, fun x hx => ?_⟩
      rw [List.mem_singleton.mp hx]
      exact hnumber c List.mem_cons_self
  | cons d cs ih =>
      rw [List.forall_mem_cons, List.forall_mem_cons] at hnumber
      rw [List.foldl_cons]
      by_cases hle : c ≤ d
      · rw [if_pos hle]
        have hrest := ih (List.forall_mem_cons.mpr hnumber.2)
        refine ⟨List.mem_cons_of_mem c hrest.1, fun x hx => ?_⟩
        rcases List.mem_cons.mp hx with rfl | hx
        · exact float_le_trans hle (hrest.2 List.mem_cons_self)
        · exact hrest.2 hx
      · rw [if_neg hle]
        have hdc : d ≤ c := float_le_of_not_lt hnumber.2.1 hnumber.1 fun hlt =>
          hle (float_le_of_lt hlt)
        have hrest := ih (List.forall_mem_cons.mpr ⟨hnumber.1, hnumber.2.2⟩)
        refine ⟨List.mem_cons.mpr ((List.mem_cons.mp hrest.1).imp_right (List.mem_cons_of_mem d)),
          fun x hx => ?_⟩
        rcases List.mem_cons.mp hx with rfl | hx
        · exact hrest.2 List.mem_cons_self
        · rcases List.mem_cons.mp hx with rfl | hx
          · exact float_le_trans hdc (hrest.2 List.mem_cons_self)
          · exact hrest.2 (List.mem_cons_of_mem c hx)

end Greatest

section Tally

/-- What holds of the scores after some sources have been reached, each with a confidence. -/
structure Tallied (reached scores : List (String × Float)) : Prop where
  mem : ∀ s, s ∈ scores.map Prod.fst ↔ s ∈ reached.map Prod.fst
  order : (scores.map Prod.fst).Pairwise fun a b =>
    (reached.map Prod.fst).idxOf a < (reached.map Prod.fst).idxOf b
  greatest : ∀ e ∈ scores, IsGreatest {c | (e.1, c) ∈ reached} e.2

/-- A source that has no score is put last, and one that has a score keeps its place. -/
theorem score_cases (c : Float) (s : String) (scores : List (String × Float)) :
    (s ∉ scores.map Prod.fst ∧ score c s scores = scores ++ [(s, c)]) ∨
      ∃ before d after, scores = before ++ (s, d) :: after ∧
        score c s scores = before ++ (s, if d < c then c else d) :: after := by
  induction scores with
  | nil => exact Or.inl ⟨List.not_mem_nil, rfl⟩
  | cons e scores ih =>
      rw [score]
      by_cases he : e.1 = s
      · rw [if_pos he]
        refine Or.inr ⟨[], e.2, scores, by rw [← he, List.nil_append], ?_⟩
        by_cases hlt : e.2 < c
        · rw [if_pos hlt, if_pos hlt, List.nil_append]
        · rw [if_neg hlt, if_neg hlt, List.nil_append, ← he]
      · rw [if_neg he]
        rcases ih with ⟨hnot, hscore⟩ | ⟨before, d, after, hscores, hscore⟩
        · refine Or.inl ⟨?_, by rw [hscore, List.cons_append]⟩
          rw [List.map_cons, List.mem_cons, not_or]
          exact ⟨fun h => he h.symm, hnot⟩
        · exact Or.inr ⟨e :: before, d, after, by rw [hscores, List.cons_append],
            by rw [hscore, List.cons_append]⟩

namespace Tallied

variable {reached scores : List (String × Float)}

theorem nil : Tallied [] [] where
  mem _ := Iff.rfl
  order := List.Pairwise.nil
  greatest _ he := absurd he List.not_mem_nil

theorem nodup (h : Tallied reached scores) : (scores.map Prod.fst).Nodup :=
  h.order.imp fun hlt heq => absurd (heq ▸ hlt) (Nat.lt_irrefl _)

/-- The confidences of other sources stay as they are when a source is reached. -/
theorem setOf_append_of_ne {x s : String} (hne : x ≠ s) (c : Float) :
    {d | (x, d) ∈ reached ++ [(s, c)]} = {d | (x, d) ∈ reached} := by
  refine Set.ext fun d => ?_
  rw [Set.mem_ofPred_eq, Set.mem_ofPred_eq, List.mem_append, List.mem_singleton, Prod.mk.injEq]
  exact ⟨fun hd => hd.resolve_right fun he => hne he.1, Or.inl⟩

theorem setOf_append_self (s : String) (c : Float) :
    {d | (s, d) ∈ reached ++ [(s, c)]} = insert c {d | (s, d) ∈ reached} := by
  refine Set.ext fun d => ?_
  rw [Set.mem_ofPred_eq, Set.mem_insert_iff, Set.mem_ofPred_eq, List.mem_append, List.mem_singleton,
    Prod.mk.injEq, or_comm]
  exact or_congr_left ⟨And.right, fun hd => ⟨rfl, hd⟩⟩

/-- Sources that were reached are so at the same place when one more is. -/
theorem order_append (h : Tallied reached scores) (s : String) (c : Float) :
    (scores.map Prod.fst).Pairwise fun a b =>
      ((reached ++ [(s, c)]).map Prod.fst).idxOf a < ((reached ++ [(s, c)]).map Prod.fst).idxOf b := by
  refine h.order.imp_of_mem fun {a b} ha hb hlt => ?_
  rw [List.map_append, List.idxOf_append_of_mem ((h.mem a).mp ha),
    List.idxOf_append_of_mem ((h.mem b).mp hb)]
  exact hlt

/-- One more source is reached. -/
theorem score (h : Tallied reached scores) (s : String) {c : Float} (hc : c ≤ c) :
    Tallied (reached ++ [(s, c)]) (Mapper.score c s scores) := by
  rcases score_cases c s scores with ⟨hnew, hscore⟩ | ⟨before, d, after, hscores, hscore⟩
  · rw [hscore]
    have hunreached : s ∉ reached.map Prod.fst := fun hs => hnew ((h.mem s).mpr hs)
    refine ⟨fun x => ?_, ?_, fun e he => ?_⟩
    · rw [List.map_append, List.map_append, List.mem_append, List.mem_append, h.mem x]
    · have hkeys : (scores ++ [(s, c)]).map Prod.fst = scores.map Prod.fst ++ [s] := List.map_append
      rw [hkeys, List.pairwise_append]
      refine ⟨h.order_append s c, List.pairwise_singleton _ s, fun a ha b hb => ?_⟩
      have hreached := (h.mem a).mp ha
      rw [List.mem_singleton.mp hb, List.map_append, List.idxOf_append_of_mem hreached,
        List.idxOf_append_of_notMem hunreached]
      exact Nat.lt_add_right _ (List.idxOf_lt_length_of_mem hreached)
    · rcases List.mem_append.mp he with he | he
      · have hne : e.1 ≠ s := fun hs => hnew (hs ▸ List.mem_map_of_mem he)
        rw [setOf_append_of_ne hne]
        exact h.greatest e he
      · rw [List.mem_singleton.mp he, setOf_append_self]
        have hnone : {d | (s, d) ∈ reached} = ∅ :=
          Set.eq_empty_of_forall_notMem fun d hd => hunreached (List.mem_map_of_mem hd)
        rw [hnone, insert_empty_eq]
        exact isGreatest_singleton_float hc
  · have hkeys : (Mapper.score c s scores).map Prod.fst = scores.map Prod.fst := by
      rw [hscore, hscores, List.map_append, List.map_append, List.map_cons, List.map_cons]
    have hmem : (s, d) ∈ scores := by
      rw [hscores]
      exact List.mem_append_right before List.mem_cons_self
    have hreached := (h.mem s).mp (List.mem_map_of_mem hmem)
    refine ⟨fun x => ?_, hkeys ▸ h.order_append s c, fun e he => ?_⟩
    · rw [hkeys, h.mem x, List.map_append, List.mem_append, List.map_singleton, List.mem_singleton]
      exact ⟨Or.inl, fun hx => hx.elim id fun hs => hs ▸ hreached⟩
    · rw [hscore, List.mem_append, List.mem_cons] at he
      -- The keys have no repetition, so the other entries are those of other sources.
      have hother : ∀ e ∈ before ++ after, e.1 ≠ s ∧ e ∈ scores := by
        intro e he
        have hnodup := h.nodup
        rw [hscores, List.map_append, List.map_cons, List.nodup_middle, List.nodup_cons,
          ← List.map_append] at hnodup
        have hkey : e.1 ∈ (before ++ after).map Prod.fst := List.mem_map_of_mem he
        refine ⟨fun hs => hnodup.1 (hs ▸ hkey), ?_⟩
        rw [hscores, List.mem_append, List.mem_cons]
        exact (List.mem_append.mp he).imp_right Or.inr
      rcases or_left_comm.mp he with rfl | he
      · rw [setOf_append_self]
        exact isGreatest_insert (h.greatest (s, d) hmem) hc
      · rcases hother e (List.mem_append.mpr he) with ⟨hne, hold⟩
        rw [setOf_append_of_ne hne]
        exact h.greatest e hold

/-- More sources are reached, one after the other. -/
theorem foldl (h : Tallied reached scores) {more : List (String × Float)}
    (hmore : ∀ e ∈ more, e.2 ≤ e.2) :
    Tallied (reached ++ more) (more.foldl (fun acc e => Mapper.score e.2 e.1 acc) scores) := by
  induction more generalizing reached scores with
  | nil =>
      rw [List.append_nil]
      exact h
  | cons e more ih =>
      rw [List.forall_mem_cons] at hmore
      rw [List.append_cons]
      exact ih (h.score e.1 hmore.1) hmore.2

/-- No score exceeds the first best one, and a source that comes up to it was reached later. -/
theorem le_of_isFirstBest (h : Tallied reached scores) {e x : String × Float}
    (he : IsFirstBest scores e) (hx : x ∈ scores) (hne : x.1 ≠ e.1) :
    x.2 ≤ e.2 ∧
      (e.2 ≤ x.2 → (reached.map Prod.fst).idxOf e.1 < (reached.map Prod.fst).idxOf x.1) := by
  have hnumber : ∀ y ∈ scores, y.2 ≤ y.2 := fun y hy => (h.greatest y hy).2 (h.greatest y hy).1
  refine ⟨float_le_of_not_lt (hnumber x hx) (hnumber e he.mem) (he.not_lt hx), fun hle => ?_⟩
  rcases he with ⟨before, after, rfl, hbefore, -⟩
  rcases List.mem_append.mp hx with hx | hx
  · exact absurd hle (hbefore x hx)
  · rcases List.mem_cons.mp hx with rfl | hx
    · exact absurd rfl hne
    · have horder := h.order
      rw [List.map_append, List.map_cons, List.pairwise_append, List.pairwise_cons] at horder
      exact horder.2.1.1 x.1 (List.mem_map_of_mem hx)

end Tallied

end Tally

end Mapper

end Replatform
