import Mathlib.Data.List.Forall2
import Mathlib.Data.List.Infix
import Replatform.Plan.Pattern
import Replatform.Proofs.Text

/-!
# What a Glob Matches

A glob is cut into pieces by its stars. It matches a text if the text is made of the pieces, in their
order, with something on one line in each of the places where a star was. It does not matter what else
is in the pieces, how often they occur in the text, or in which ways they overlap there: The text only
has to be made in this way somehow.

The matcher does not try the ways one by one. It goes through the pieces from the last to the first, and
for each of them marks the tails of the text that are made of a gap, the piece, and a tail that is marked
already. So what has to be shown of it is what its marks mean (`marks_afterGap`), piece by piece.

## Main definitions

* `Pattern.Marks`: Which of the tails of a text are marked.
* `Pattern.Behind`: A gap, a piece, and what is accepted.
* `Pattern.fillGaps`: The text that is made of pieces and gaps.

## Theorems

* `Pattern.marks_afterGap`: What the marks mean behind a gap.
* `Pattern.matchesGlob_iff`: What the pieces of a glob match.
* `Pattern.accepts_glob_iff`: What a glob matches.
-/

namespace Replatform

namespace Pattern

/-- The tails of a text are marked, from the longest on, if `P` holds of them. -/
def Marks (P : List Char → Prop) (marks : List Bool) (cs : List Char) : Prop :=
  List.Forall₂ (fun mark tail => mark = true ↔ P tail) marks cs.tails

/-- The text is made of something on one line, a piece, and a text of which `P` holds. -/
def Behind (piece : List Char) (P : List Char → Prop) (cs : List Char) : Prop :=
  ∃ gap rest, '\n' ∉ gap ∧ cs = gap ++ (piece ++ rest) ∧ P rest

/-- The text is made of the pieces in order, each behind something on one line. -/
def Follows : List (List Char) → List Char → Prop
  | [], cs => cs = []
  | piece :: pieces, cs => Behind piece (Follows pieces) cs

/-- The text that is made of a first piece and of further pieces, each behind a gap. -/
def fillGaps (first : List Char) (gaps pieces : List (List Char)) : List Char :=
  first ++ (List.zipWith (· ++ ·) gaps pieces).flatten

section Marks

variable {P : List Char → Prop} {marks : List Bool} {piece cs : List Char} {c : Char}

theorem marks_nil_iff : Marks P marks [] ↔ ∃ mark, marks = [mark] ∧ (mark = true ↔ P []) := by
  have htails : List.tails ([] : List Char) = [[]] := rfl
  rw [Marks, htails, List.forall₂_cons_right_iff]
  simp only [List.forall₂_nil_right_iff]
  constructor
  · rintro ⟨mark, _, hmark, rfl, rfl⟩
    exact ⟨mark, rfl, hmark⟩
  · rintro ⟨mark, rfl, hmark⟩
    exact ⟨mark, [], hmark, rfl, rfl⟩

theorem marks_cons_iff : Marks P marks (c :: cs) ↔
    ∃ mark later, marks = mark :: later ∧ (mark = true ↔ P (c :: cs)) ∧ Marks P later cs := by
  rw [Marks, List.tails_cons, List.forall₂_cons_right_iff]
  constructor
  · rintro ⟨mark, later, hmark, hlater, rfl⟩
    exact ⟨mark, later, rfl, hmark, hlater⟩
  · rintro ⟨mark, later, rfl, hmark, hlater⟩
    exact ⟨mark, later, hmark, hlater, rfl⟩

/-- The first mark is about the whole text. -/
theorem Marks.headD_iff (h : Marks P marks cs) : marks.headD false = true ↔ P cs := by
  cases cs with
  | nil =>
      rcases marks_nil_iff.mp h with ⟨mark, rfl, hmark⟩
      exact hmark
  | cons c cs =>
      rcases marks_cons_iff.mp h with ⟨mark, later, rfl, hmark, -⟩
      exact hmark

/-- Further marks are about what is left of the text when its front is taken off. -/
theorem Marks.drop_headD_iff (h : Marks P marks (piece ++ cs)) :
    (marks.drop piece.length).headD false = true ↔ P cs := by
  induction piece generalizing marks with
  | nil => exact h.headD_iff
  | cons d piece ih =>
      rcases marks_cons_iff.mp h with ⟨mark, later, rfl, -, hlater⟩
      exact ih hlater

/-- The piece may stand at the very front. -/
theorem isPrefixOf_and_iff (piece : List Char) (h : Marks P marks cs) :
    (piece.isPrefixOf cs && (marks.drop piece.length).headD false) = true ↔
      ∃ rest, cs = piece ++ rest ∧ P rest := by
  rw [Bool.and_eq_true, List.isPrefixOf_iff_prefix]
  constructor
  · rintro ⟨⟨rest, rfl⟩, hrest⟩
    exact ⟨rest, rfl, h.drop_headD_iff.mp hrest⟩
  · rintro ⟨rest, rfl, hrest⟩
    exact ⟨List.prefix_append piece rest, h.drop_headD_iff.mpr hrest⟩

theorem behind_nil_iff : Behind piece P [] ↔ piece = [] ∧ P [] := by
  constructor
  · rintro ⟨gap, rest, -, hcs, hrest⟩
    rcases List.append_eq_nil_iff.mp hcs.symm with ⟨-, hcs⟩
    rcases List.append_eq_nil_iff.mp hcs with ⟨hpiece, rfl⟩
    exact ⟨hpiece, hrest⟩
  · rintro ⟨rfl, h⟩
    exact ⟨[], [], List.not_mem_nil, rfl, h⟩

/-- Either the gap is empty, or it begins with the first character. -/
theorem behind_cons_iff : Behind piece P (c :: cs) ↔
    (∃ rest, c :: cs = piece ++ rest ∧ P rest) ∨ (c ≠ '\n' ∧ Behind piece P cs) := by
  constructor
  · rintro ⟨gap, rest, hgap, hcs, hrest⟩
    cases gap with
    | nil => exact Or.inl ⟨rest, hcs, hrest⟩
    | cons d gap =>
        rw [List.cons_append, List.cons.injEq] at hcs
        rw [List.mem_cons, not_or] at hgap
        rcases hcs with ⟨rfl, hcs⟩
        exact Or.inr ⟨fun h => hgap.1 h.symm, gap, rest, hgap.2, hcs, hrest⟩
  · rintro (⟨rest, hcs, hrest⟩ | ⟨hc, gap, rest, hgap, rfl, hrest⟩)
    · exact ⟨[], rest, List.not_mem_nil, hcs, hrest⟩
    · refine ⟨c :: gap, rest, ?_, rfl, hrest⟩
      rw [List.mem_cons, not_or]
      exact ⟨fun h => hc h.symm, hgap⟩

/-- What is marked behind a gap are the tails that are made of the gap, the piece, and a tail that
    was marked before. -/
theorem marks_afterGap (h : Marks P marks cs) :
    Marks (Behind piece P) (afterGap piece cs marks) cs := by
  induction cs generalizing marks with
  | nil =>
      refine marks_nil_iff.mpr ⟨_, rfl, ?_⟩
      rw [Bool.and_eq_true, List.isEmpty_iff, h.headD_iff, behind_nil_iff]
  | cons c cs ih =>
      have hfront := isPrefixOf_and_iff piece h
      rcases marks_cons_iff.mp h with ⟨mark, later, rfl, -, hlater⟩
      refine marks_cons_iff.mpr ⟨_, _, rfl, ?_, ih hlater⟩
      rw [Bool.or_eq_true, hfront, Bool.and_eq_true, bne_iff_ne, List.tail_cons,
        (ih hlater).headD_iff, behind_cons_iff]

/-- At first only the empty tail is marked. -/
theorem marks_last (cs : List Char) : Marks (· = []) (cs.map (fun _ => false) ++ [true]) cs := by
  induction cs with
  | nil => exact marks_nil_iff.mpr ⟨true, rfl, iff_of_true rfl rfl⟩
  | cons c cs ih =>
      exact marks_cons_iff.mpr ⟨false, _, rfl, iff_of_false Bool.false_ne_true (List.cons_ne_nil c cs), ih⟩

theorem marks_matchesPieces (pieces : List (List Char)) (cs : List Char) :
    Marks (Follows pieces) (matchesPieces pieces cs) cs := by
  induction pieces with
  | nil => exact marks_last cs
  | cons piece pieces ih => exact marks_afterGap ih

end Marks

section Globs

variable {pieces : List (List Char)} {first cs : List Char}

/-- The gaps behind which the pieces stand can be listed. -/
theorem follows_iff : Follows pieces cs ↔ ∃ gaps : List (List Char), gaps.length = pieces.length ∧
    (∀ gap ∈ gaps, '\n' ∉ gap) ∧ cs = (List.zipWith (· ++ ·) gaps pieces).flatten := by
  induction pieces generalizing cs with
  | nil =>
      constructor
      · rintro rfl
        exact ⟨[], rfl, List.forall_mem_nil _, rfl⟩
      · rintro ⟨gaps, -, -, rfl⟩
        rw [List.zipWith_nil_right, List.flatten_nil]
        rfl
  | cons piece pieces ih =>
      constructor
      · rintro ⟨gap, rest, hgap, rfl, hrest⟩
        rcases ih.mp hrest with ⟨gaps, hlength, hgaps, rfl⟩
        refine ⟨gap :: gaps, congrArg (· + 1) hlength, List.forall_mem_cons.mpr ⟨hgap, hgaps⟩, ?_⟩
        rw [List.zipWith_cons_cons, List.flatten_cons, List.append_assoc]
      · rintro ⟨_ | ⟨gap, gaps⟩, hlength, hgaps, rfl⟩
        · exact absurd hlength.symm (Nat.succ_ne_zero pieces.length)
        · rw [List.forall_mem_cons] at hgaps
          refine ⟨gap, _, hgaps.1, ?_, ih.mpr ⟨gaps, Nat.succ.inj hlength, hgaps.2, rfl⟩⟩
          rw [List.zipWith_cons_cons, List.flatten_cons, List.append_assoc]

/-- The pieces of a glob match what is made of them and of gaps on one line. -/
theorem matchesGlob_iff : matchesGlob (first :: pieces) cs = true ↔
    ∃ gaps : List (List Char), gaps.length = pieces.length ∧ (∀ gap ∈ gaps, '\n' ∉ gap) ∧
      cs = fillGaps first gaps pieces := by
  rw [matchesGlob, Bool.and_eq_true, List.isPrefixOf_iff_prefix,
    (marks_matchesPieces pieces _).headD_iff, follows_iff]
  constructor
  · rintro ⟨⟨rest, rfl⟩, gaps, hlength, hgaps, hrest⟩
    rw [List.drop_left] at hrest
    exact ⟨gaps, hlength, hgaps, congrArg (first ++ ·) hrest⟩
  · rintro ⟨gaps, hlength, hgaps, rfl⟩
    exact ⟨List.prefix_append first _, gaps, hlength, hgaps, List.drop_left⟩

end Globs

/-- A text with a star is a glob. It matches what is made of the pieces between its stars, each of
    them as it stands, with something on one line in place of each star. -/
theorem accepts_glob_iff {raw : String} (h : '*' ∈ raw.toList) (candidate : String) :
    (parse raw).accepts candidate = true ↔
      ∃ (first : List Char) (pieces gaps : List (List Char)),
        (Text.strip raw.toList).splitOn '*' = first :: pieces ∧ gaps.length = pieces.length ∧
        (∀ gap ∈ gaps, '\n' ∉ gap) ∧ candidate.toList = fillGaps first gaps pieces := by
  have hstar : '*' ∈ Text.strip raw.toList := (Text.mem_strip_iff (by decide) _).mpr h
  rw [parse, if_pos hstar, accepts]
  cases hsplit : (Text.strip raw.toList).splitOn '*' with
  | nil => exact absurd hsplit (List.splitOn_ne_nil '*' _)
  | cons first pieces =>
      rw [matchesGlob_iff]
      constructor
      · rintro ⟨gaps, hgaps⟩
        exact ⟨first, pieces, gaps, rfl, hgaps⟩
      · rintro ⟨_, _, gaps, hsame, hgaps⟩
        rcases List.cons.inj hsame with ⟨rfl, rfl⟩
        exact ⟨gaps, hgaps⟩

/-- The last star stands for nothing here, and the blank in front is not part of a piece. -/
theorem accepts_glob_iff_brackets : '*' ∈ " ab*(ba)+*".toList ∧
    (parse " ab*(ba)+*").accepts "ab.(ba)+" = true := by
  refine ⟨by decide, (accepts_glob_iff (by decide) _).mpr ?_⟩
  exact ⟨['a', 'b'], [['(', 'b', 'a', ')', '+'], []], [['.'], []], by decide, rfl, by decide, by decide⟩

/-- Pieces may overlap in the text, but not where they stand for its characters. -/
example : (parse "ab*ba").accepts "aba" = false ∧ (parse "ab*ba").accepts "abba" = true := by decide

end Pattern

end Replatform
