import Mathlib.Algebra.GroupWithZero.Nat
import Replatform.Plan.Context

/-!
# Spending the Budget of a Context

Texts go into a context one after another, and share a budget of characters. Each of them is cut
at a ceiling of its own, or at what is left of the budget if that is less, and takes from the
budget what is kept of it.

The account is kept without subtraction. `Paid` says of texts with their ceilings that each was
taken while there was something left, and that what it takes and what is left after it make up
what was there before. Nothing can therefore be taken that is not there, and whatever is said
about the whole is an induction along the account.

`exists_spends` is the one place where the spending itself is looked at. It goes through the
texts from the front, and stops for one of three reasons: there are enough sections, nothing is
left of the budget, or there are no more texts.

## Main definitions

* `Context.Piece`: A text in a context, with the ceiling it is cut at.
* `Context.Paid`: Pieces are paid for out of a budget, one after another.
* `Context.Spends`: What is spent on the front of a list of texts.
* `Context.ComesIn`: A text comes before the budget is used up.

## Theorems

* `Piece.cut_toSection`: A section says that something was cut off if the text is too long.
* `Piece.body_toSection`: A text that is not too long is in its section as it is.
* `Paid.cap_le`, `Paid.total`: The ceilings, and the account as a whole.
* `Spends.exists_path_iff`: If nothing is cut, there is a piece for what comes in.
* `exists_spends`: What the sections for texts are made of.
-/

namespace Replatform

theorem truncate_of_le {text : String} {cap : Nat} (h : text.length ≤ cap) :
    truncate text cap = (text, false) :=
  if_pos h

theorem cut_truncate (text : String) (cap : Nat) :
    (truncate text cap).2 = true ↔ cap < text.length := by
  unfold truncate
  by_cases h : text.length ≤ cap
  · rw [if_pos h]
    exact iff_of_false Bool.false_ne_true (Nat.not_lt.mpr h)
  · rw [if_neg h]
    exact iff_of_true rfl (Nat.not_le.mp h)

namespace Context

/-- A text in a context, with the ceiling it is cut at. -/
structure Piece where
  path : String
  text : String
  cap : Nat
deriving DecidableEq, Repr

namespace Piece

/-- The text with its path. -/
def source (p : Piece) : String × String :=
  (p.path, p.text)

/-- How many characters are kept of the text. -/
def size (p : Piece) : Nat :=
  min p.text.length p.cap

/-- The text is longer than its ceiling. -/
def IsCut (p : Piece) : Prop :=
  p.cap < p.text.length

/-- The section for a piece. -/
def toSection (kind : SectionKind) (p : Piece) : Section :=
  { kind
    path := p.path
    body := (truncate p.text p.cap).1
    cut := (truncate p.text p.cap).2 }

/-- A section says that something was cut off if the text is longer than its ceiling. -/
theorem cut_toSection (kind : SectionKind) (p : Piece) :
    (p.toSection kind).cut = true ↔ p.IsCut :=
  cut_truncate p.text p.cap

/-- A text that is no longer than its ceiling is in its section as it is. -/
theorem body_toSection (kind : SectionKind) {p : Piece} (h : ¬ p.IsCut) :
    (p.toSection kind).body = p.text := by
  rw [toSection, truncate_of_le (Nat.not_lt.mp h)]

/-- All of a text that is not cut is kept. -/
theorem size_of_not_isCut {p : Piece} (h : ¬ p.IsCut) : p.size = p.text.length :=
  Nat.min_eq_left (Nat.not_lt.mp h)

end Piece

/-- Pieces are paid for out of a budget, of which `rest` is left. There is something left for
    each of them, its ceiling is that of all pieces or what is left, and what it takes is there. -/
inductive Paid (cap : Nat) : Nat → List Piece → Nat → Prop where
  | nil (budget : Nat) : Paid cap budget [] budget
  | cons {budget left rest : Nat} {piece : Piece} {pieces : List Piece} (remains : 0 < budget)
      (ceiling : piece.cap = min cap budget) (covered : piece.size + left = budget)
      (later : Paid cap left pieces rest) : Paid cap budget (piece :: pieces) rest

namespace Paid

variable {cap budget left rest : Nat} {pieces later : List Piece}

/-- No piece has a higher ceiling than all pieces have. -/
theorem cap_le (h : Paid cap budget pieces rest) : ∀ p ∈ pieces, p.cap ≤ cap := by
  induction h with
  | nil => exact fun _ hp => absurd hp List.not_mem_nil
  | cons remains ceiling covered later ih =>
      refine List.forall_mem_cons.mpr ⟨?_, ih⟩
      rw [ceiling]
      exact Nat.min_le_left _ _

/-- What the pieces take and what is left make up the budget. -/
theorem total (h : Paid cap budget pieces rest) : (pieces.map Piece.size).sum + rest = budget := by
  induction h with
  | nil => rw [List.map_nil, List.sum_nil, Nat.zero_add]
  | cons remains ceiling covered later ih =>
      rw [List.map_cons, List.sum_cons, Nat.add_assoc, ih, covered]

theorem append (h : Paid cap budget pieces left) (hlater : Paid cap left later rest) :
    Paid cap budget (pieces ++ later) rest := by
  induction h with
  | nil => exact hlater
  | cons remains ceiling covered _ ih => exact .cons remains ceiling covered (ih hlater)

/-- An account can be taken apart at every piece. -/
theorem exists_of_append (h : Paid cap budget (pieces ++ later) rest) :
    ∃ left, Paid cap budget pieces left ∧ Paid cap left later rest := by
  induction pieces generalizing budget with
  | nil => exact ⟨budget, .nil budget, h⟩
  | cons piece pieces ih =>
      cases h with
      | cons remains ceiling covered hlater =>
          rcases ih hlater with ⟨left, hfront, hback⟩
          exact ⟨left, .cons remains ceiling covered hfront, hback⟩

/-- The pieces in front of a piece do not take all of the budget. -/
theorem sum_lt {p : Piece} (h : Paid cap budget (pieces ++ p :: later) rest) :
    (pieces.map Piece.size).sum < budget := by
  rcases h.exists_of_append with ⟨left, hfront, hback⟩
  have htotal := hfront.total
  cases hback with
  | cons remains ceiling covered hlater => omega

end Paid

/-- What is spent of a budget on the front of a list of texts: the pieces that are paid for, at
    most `count` of them, and what is left. -/
structure Spends (cap count budget : Nat) (texts : List (String × String)) (pieces : List Piece)
    (rest : Nat) : Prop where
  paid : Paid cap budget pieces rest
  front : pieces.map Piece.source <+: texts
  length_le : pieces.length ≤ count
  /-- Nothing is left out but for a reason. -/
  stops : pieces.length = count ∨ rest = 0 ∨ pieces.map Piece.source = texts

/-- A text comes before the budget is used up: those in front of it are shorter together. -/
def ComesIn (budget : Nat) (texts : List (String × String)) (path : String) : Prop :=
  ∃ front text back, texts = front ++ (path, text) :: back ∧
    (front.map fun t => t.2.length).sum < budget

/-- If no piece is cut and there could be more pieces, they are the texts that come before the
    budget is used up. -/
theorem Spends.exists_path_iff {cap count budget rest : Nat} {texts : List (String × String)}
    {pieces : List Piece} (h : Spends cap count budget texts pieces rest)
    (hroom : pieces.length < count) (huncut : ∀ p ∈ pieces, ¬ p.IsCut) (path : String) :
    (∃ p ∈ pieces, p.path = path) ↔ ComesIn budget texts path := by
  -- What is not cut takes from the budget what it is long.
  have hlengths : ∀ ps ⊆ pieces,
      ((ps.map Piece.source).map fun t => t.2.length) = ps.map Piece.size := by
    intro ps hps
    rw [List.map_map]
    exact List.map_congr_left fun p hp => (Piece.size_of_not_isCut (huncut p (hps hp))).symm
  rcases h.front with ⟨tail, htail⟩
  constructor
  · rintro ⟨p, hp, rfl⟩
    rcases List.append_of_mem hp with ⟨front, back, hpieces⟩
    refine ⟨front.map Piece.source, p.text, back.map Piece.source ++ tail, ?_, ?_⟩
    · rw [← htail, hpieces, List.map_append, List.map_cons, List.append_assoc, List.cons_append]
      rfl
    · have hfront : front ⊆ pieces := hpieces ▸ List.subset_append_left front (p :: back)
      have hpaid := h.paid
      rw [hpieces] at hpaid
      rw [hlengths front hfront]
      exact hpaid.sum_lt
  · rintro ⟨front, text, back, htexts, hsum⟩
    have hfound : (path, text) ∈ pieces.map Piece.source → ∃ p ∈ pieces, p.path = path := by
      intro hin
      rcases List.mem_map.mp hin with ⟨p, hp, hsource⟩
      exact ⟨p, hp, congrArg Prod.fst hsource⟩
    rcases h.stops with hcount | hrest | hall
    · omega
    · -- The pieces use up the budget, so there are more of them than there are texts in front.
      have hlonger : front.length < pieces.length := by
        refine Nat.lt_of_not_le fun hshort => ?_
        have hinside : pieces.map Piece.source <+: front := by
          refine List.prefix_of_prefix_length_le h.front ⟨_, htexts.symm⟩ ?_
          rwa [List.length_map]
        rcases hinside with ⟨more, rfl⟩
        have htotal := h.paid.total
        rw [List.map_append, List.sum_append, hlengths pieces (List.Subset.refl _)] at hsum
        omega
      have hcovers : front ++ [(path, text)] <+: pieces.map Piece.source := by
        refine List.prefix_of_prefix_length_le ⟨back, ?_⟩ h.front ?_
        · rw [htexts, List.append_assoc, List.singleton_append]
        · rw [List.length_append, List.length_map, List.length_singleton]
          omega
      exact hfound (hcovers.subset (List.mem_append_right _ (List.mem_singleton_self _)))
    · refine hfound ?_
      rw [hall, htexts]
      exact List.mem_append_right _ List.mem_cons_self

theorem spends_nil (cap count budget : Nat) : Spends cap count budget [] [] budget :=
  ⟨.nil budget, List.nil_prefix, Nat.zero_le count, Or.inr (Or.inr rfl)⟩

/-- The sections for some texts are those for the pieces that are paid for. -/
theorem exists_spends (kind : SectionKind) (cap count budget : Nat)
    (texts : List (String × String)) :
    ∃ pieces rest, spend kind cap count budget texts = (pieces.map (Piece.toSection kind), rest) ∧
      Spends cap count budget texts pieces rest := by
  induction count generalizing budget texts with
  | zero =>
      refine ⟨[], budget, by rw [spend, List.map_nil], .nil budget, List.nil_prefix, ?_, ?_⟩
      · exact Nat.le_refl 0
      · exact Or.inl rfl
  | succ count ih =>
      cases texts with
      | nil =>
          exact ⟨[], budget, by rw [spend, List.map_nil], spends_nil cap (count + 1) budget⟩
      | cons first texts =>
          by_cases hbudget : budget = 0
          · refine ⟨[], 0, by rw [spend, if_pos hbudget, List.map_nil], ?_, List.nil_prefix, ?_, ?_⟩
            · rw [hbudget]
              exact .nil 0
            · exact Nat.zero_le _
            · exact Or.inr (Or.inl rfl)
          · -- The first text is a piece, and what it leaves goes to the others.
            rcases ih (budget - min first.2.length (min cap budget)) texts with
              ⟨pieces, rest, heq, hspends⟩
            refine ⟨⟨first.1, first.2, min cap budget⟩ :: pieces, rest, ?_, ?_⟩
            · rw [spend, if_neg hbudget]
              simp only [heq]
              rfl
            · have hcovered : min first.2.length (min cap budget) ≤ budget :=
                Nat.le_trans (Nat.min_le_right _ _) (Nat.min_le_right _ _)
              refine ⟨.cons (Nat.pos_of_ne_zero hbudget) rfl ?_ hspends.paid, ?_, ?_, ?_⟩
              · exact Nat.add_sub_of_le hcovered
              · rw [List.map_cons]
                exact List.prefix_cons_inj first |>.mpr hspends.front
              · exact Nat.succ_le_succ hspends.length_le
              · rcases hspends.stops with hcount | hrest | hall
                · exact Or.inl (congrArg Nat.succ hcount)
                · exact Or.inr (Or.inl hrest)
                · exact Or.inr (Or.inr (congrArg (first :: ·) hall))

end Context

end Replatform
