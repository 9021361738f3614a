import Mathlib.Data.List.DropRight
import Replatform.Text.Blank
import Replatform.Text.Search

/-!
# Texts

Texts that are trimmed, and texts inside of texts.

The two ends of a text do not get in each other's way, so it makes no difference which one is trimmed
first, and there is nothing left to trim afterwards.

`contains_iff` says what it means for the search to find something. It turns the search into the
relation that a list is a stretch of another, about which everything is known; the search itself is not
looked at any more after that. A text with a label in front contains what the label and the text
contain. The converse holds for what cannot lie across the colon and the blank between them, which is
what `contains_labelled_iff` says.

## Theorems

* `dropBlanksEnd_cons`: What trimming the end leaves, along the list.
* `strip_eq`: The ends can be trimmed in either order.
* `mem_strip_iff`: What trimming keeps.
* `strip_append_cons`: Texts that are trimmed, with something between them.
* `trim_trim`, `trim_append_newline`: What makes no difference to a trimmed text.
* `occurs_iff`, `contains_iff`: The search finds stretches.
* `infix_append_cons_iff`: What does not reach across a character is on one side of it.
* `contains_labelled_iff`: What a text with a label in front contains.
-/

namespace Replatform

namespace Text

section Blanks

/-- A character at the beginning is lost only with everything behind it. -/
theorem dropBlanksEnd_cons (c : Char) (cs : List Char) :
    dropBlanksEnd (c :: cs) =
      if dropBlanksEnd cs = [] ∧ isBlank c = true then [] else c :: dropBlanksEnd cs := by
  -- The end is trimmed as the beginning of the reversed list, in which `c` is the last.
  have hsplit : dropBlanks (cs.reverse ++ [c]) =
      if (dropBlanks cs.reverse).isEmpty = true then dropBlanks [c]
      else dropBlanks cs.reverse ++ [c] := List.dropWhile_append
  have hnone : dropBlanksEnd cs = [] ↔ (dropBlanks cs.reverse).isEmpty = true := by
    rw [dropBlanksEnd, List.reverse_eq_nil_iff, List.isEmpty_iff]
  have hcons : dropBlanksEnd (c :: cs) = (dropBlanks (cs.reverse ++ [c])).reverse := by
    rw [dropBlanksEnd, List.reverse_cons]
  rw [hcons, hsplit]
  by_cases hrest : dropBlanksEnd cs = []
  · rw [if_pos (hnone.mp hrest), hrest]
    by_cases hblank : isBlank c = true
    · rw [if_pos ⟨rfl, hblank⟩, dropBlanks, List.dropWhile_cons_of_pos hblank, List.dropWhile_nil,
        List.reverse_nil]
    · rw [if_neg fun h => hblank h.2, dropBlanks, List.dropWhile_cons_of_neg hblank,
        List.reverse_singleton]
  · rw [if_neg fun h => hrest (hnone.mpr h), if_neg fun h => hrest h.1, List.reverse_append]
    rfl

/-- The ends of a text can be trimmed in either order. -/
theorem strip_eq (cs : List Char) : strip cs = dropBlanks (dropBlanksEnd cs) := by
  unfold strip
  induction cs with
  | nil => rfl
  | cons c cs ih =>
      rw [dropBlanksEnd_cons]
      -- A blank here is lost in either order, and anything else is where the beginning stops.
      by_cases hblank : isBlank c = true
      · have hskip : ∀ ds, dropBlanks (c :: ds) = dropBlanks ds := fun ds =>
          List.dropWhile_cons_of_pos hblank
        rw [hskip, ih]
        by_cases hrest : dropBlanksEnd cs = []
        · rw [if_pos ⟨hrest, hblank⟩, hrest]
        · rw [if_neg fun h => hrest h.1, hskip]
      · have hstop : ∀ ds, dropBlanks (c :: ds) = c :: ds := fun ds =>
          List.dropWhile_cons_of_neg hblank
        have hkept : ¬ (dropBlanksEnd cs = [] ∧ isBlank c = true) := fun h => hblank h.2
        rw [if_neg hkept, hstop, hstop, dropBlanksEnd_cons, if_neg hkept]

/-- Blanks at the end are dropped, however many there are. -/
theorem dropBlanksEnd_append {blanks : List Char} (h : ∀ c ∈ blanks, isBlank c = true)
    (cs : List Char) : dropBlanksEnd (cs ++ blanks) = dropBlanksEnd cs := by
  have hreverse : ∀ c ∈ blanks.reverse, isBlank c = true := fun c hc =>
    h c (List.mem_reverse.mp hc)
  rw [dropBlanksEnd, List.reverse_append, dropBlanks, List.dropWhile_append_of_pos hreverse]
  rfl

/-- Nothing is dropped in front of a character that is not blank. -/
theorem dropBlanksEnd_append_cons {c : Char} (hc : isBlank c = false) (before after : List Char) :
    dropBlanksEnd (before ++ c :: after) = before ++ c :: dropBlanksEnd after := by
  induction before with
  | nil =>
      have hkept : ¬ (dropBlanksEnd after = [] ∧ isBlank c = true) := fun h =>
        Bool.false_ne_true (hc.symm.trans h.2)
      rw [List.nil_append, dropBlanksEnd_cons, if_neg hkept, List.nil_append]
  | cons d before ih =>
      have hkept : ¬ (dropBlanksEnd (before ++ c :: after) = [] ∧ isBlank d = true) := fun h =>
        List.append_ne_nil_of_right_ne_nil before (List.cons_ne_nil c _) (ih.symm.trans h.1)
      rw [List.cons_append, dropBlanksEnd_cons, if_neg hkept, ih, List.cons_append]

theorem dropBlanksEnd_eq_nil_iff (cs : List Char) :
    dropBlanksEnd cs = [] ↔ ∀ c ∈ cs, isBlank c = true :=
  List.rdropWhile_eq_nil_iff

theorem dropBlanksEnd_dropBlanksEnd (cs : List Char) :
    dropBlanksEnd (dropBlanksEnd cs) = dropBlanksEnd cs :=
  List.rdropWhile_idempotent isBlank cs

theorem mem_of_mem_dropBlanks {c : Char} {cs : List Char} (h : c ∈ dropBlanks cs) : c ∈ cs :=
  (List.dropWhile_sublist isBlank).subset h

/-- Trimming adds nothing. -/
theorem mem_of_mem_strip {c : Char} {cs : List Char} (h : c ∈ strip cs) : c ∈ cs := by
  rw [strip, dropBlanksEnd, List.mem_reverse] at h
  have hstart := mem_of_mem_dropBlanks h
  rw [List.mem_reverse] at hstart
  exact mem_of_mem_dropBlanks hstart

theorem mem_dropBlanks_iff {c : Char} (hc : isBlank c = false) (cs : List Char) :
    c ∈ dropBlanks cs ↔ c ∈ cs := by
  refine ⟨mem_of_mem_dropBlanks, fun h => ?_⟩
  rw [← List.takeWhile_append_dropWhile (p := isBlank) (l := cs), List.mem_append] at h
  refine h.resolve_left fun hmem => ?_
  exact Bool.false_ne_true (hc.symm.trans (List.mem_takeWhile_imp hmem))

/-- Trimming drops nothing but blanks. -/
theorem mem_strip_iff {c : Char} (hc : isBlank c = false) (cs : List Char) :
    c ∈ strip cs ↔ c ∈ cs := by
  rw [strip, dropBlanksEnd, List.mem_reverse, mem_dropBlanks_iff hc, List.mem_reverse,
    mem_dropBlanks_iff hc]

theorem strip_strip (cs : List Char) : strip (strip cs) = strip cs := by
  have hstart : dropBlanks (dropBlanks (dropBlanksEnd cs)) = dropBlanks (dropBlanksEnd cs) :=
    List.dropWhile_idempotent isBlank (dropBlanksEnd cs)
  calc strip (strip cs) = dropBlanksEnd (dropBlanks (dropBlanks (dropBlanksEnd cs))) := by
        rw [strip, strip_eq cs]
    _ = dropBlanksEnd (strip cs) := by rw [hstart, ← strip_eq]
    _ = strip cs := dropBlanksEnd_dropBlanksEnd (dropBlanks cs)

/-- There are no blanks at the beginning of a text that is trimmed. -/
theorem dropBlanks_eq_self {cs : List Char} (h : strip cs = cs) : dropBlanks cs = cs := by
  have hstart : dropBlanks (strip cs) = strip cs := by
    rw [strip_eq]
    exact List.dropWhile_idempotent isBlank (dropBlanksEnd cs)
  rwa [h] at hstart

/-- There are none at its end. -/
theorem dropBlanksEnd_eq_self {cs : List Char} (h : strip cs = cs) : dropBlanksEnd cs = cs := by
  have hend : dropBlanksEnd (strip cs) = strip cs := dropBlanksEnd_dropBlanksEnd (dropBlanks cs)
  rwa [h] at hend

/-- Two trimmed texts are trimmed when they stand on either side of something that is no blank. -/
theorem strip_append_cons {c : Char} {before after : List Char} (hc : isBlank c = false)
    (hbefore : strip before = before) (hafter : strip after = after) :
    strip (before ++ c :: after) = before ++ c :: after := by
  have hstart : dropBlanks (before ++ c :: after) = before ++ c :: after := by
    have hstop : dropBlanks (c :: after) = c :: after :=
      List.dropWhile_cons_of_neg (by rw [hc]; exact Bool.false_ne_true)
    have hsame := dropBlanks_eq_self hbefore
    rw [dropBlanks] at hstop hsame ⊢
    rw [List.dropWhile_append, hstop, hsame]
    cases before with
    | nil => rfl
    | cons d before => rfl
  rw [strip, hstart, dropBlanksEnd_append_cons hc, dropBlanksEnd_eq_self hafter]

theorem trim_trim (s : String) : trim (trim s) = trim s := by
  rw [trim, trim, String.toList_ofList, strip_strip]

theorem trim_trimEnd (s : String) : trim (trimEnd s) = trim s := by
  rw [trim, trim, trimEnd, String.toList_ofList, strip_eq, strip_eq, dropBlanksEnd_dropBlanksEnd]

/-- A line ending behind a text is trimmed with it. -/
theorem trim_append_newline (s : String) : trim (s ++ "\n") = trim s := by
  have hend : dropBlanksEnd (s.toList ++ ['\n']) = dropBlanksEnd s.toList :=
    List.rdropWhile_concat_pos isBlank s.toList '\n' (by decide)
  rw [trim, trim, String.toList_append, strip_eq, strip_eq]
  exact congrArg (fun cs => String.ofList (dropBlanks cs)) hend

end Blanks

section Search

theorem occurs_iff (part cs : List Char) : occurs part cs = true ↔ part <:+: cs := by
  induction cs with
  | nil => rw [occurs, List.isEmpty_iff, List.infix_nil]
  | cons c cs ih =>
      rw [occurs, Bool.or_eq_true, ih, List.isPrefixOf_iff_prefix, List.infix_cons_iff]

theorem contains_iff (s part : String) : contains s part = true ↔ part.toList <:+: s.toList :=
  occurs_iff _ _

/-- A text that is free of a character does not reach across it. -/
theorem prefix_of_prefix_append_cons {c : Char} {part l r : List Char} (hc : c ∉ part)
    (h : part <+: l ++ c :: r) : part <+: l := by
  induction l generalizing part with
  | nil =>
      cases part with
      | nil => exact List.nil_prefix
      | cons d part =>
          rw [List.nil_append, List.cons_prefix_cons] at h
          exact absurd (h.1 ▸ List.mem_cons_self) hc
  | cons x l ih =>
      cases part with
      | nil => exact List.nil_prefix
      | cons d part =>
          rw [List.cons_append, List.cons_prefix_cons] at h
          rw [List.cons_prefix_cons]
          exact ⟨h.1, ih (fun hmem => hc (List.mem_cons_of_mem d hmem)) h.2⟩

theorem infix_append_cons_iff {c : Char} {part l r : List Char} (hc : c ∉ part) :
    part <:+: l ++ c :: r ↔ part <:+: l ∨ part <:+: r := by
  constructor
  · intro h
    induction l with
    | nil =>
        rw [List.nil_append, List.infix_cons_iff] at h
        rcases h with h | h
        · exact Or.inl (prefix_of_prefix_append_cons (l := []) hc h).isInfix
        · exact Or.inr h
    | cons x l ih =>
        rw [List.cons_append, List.infix_cons_iff] at h
        rcases h with h | h
        · exact Or.inl (prefix_of_prefix_append_cons (l := x :: l) hc h).isInfix
        · exact (ih h).imp_left List.infix_cons
  · rintro (h | h)
    · exact h.trans (List.prefix_append l _).isInfix
    · exact h.trans ((List.suffix_cons c r).trans (List.suffix_append l _)).isInfix

theorem contains_labelled_iff {part : String} (hcolon : ':' ∉ part.toList)
    (hblank : part.toList.head? ≠ some ' ') (label text : String) :
    contains (label ++ ": " ++ text) part = true ↔
      contains label part = true ∨ contains text part = true := by
  have hskip : part.toList <:+: ' ' :: text.toList ↔ part.toList <:+: text.toList := by
    rw [List.infix_cons_iff, or_iff_right_iff_imp]
    intro h
    cases hpart : part.toList with
    | nil => exact List.nil_infix
    | cons c cs =>
        rw [hpart, List.cons_prefix_cons] at h
        rw [hpart, h.1] at hblank
        exact absurd rfl hblank
  rw [contains_iff, contains_iff, contains_iff, String.toList_append, String.toList_append,
    List.append_assoc, ← hskip]
  exact infix_append_cons_iff hcolon

end Search

end Text

end Replatform
