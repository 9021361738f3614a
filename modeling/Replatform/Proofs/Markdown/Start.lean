import Mathlib.Data.List.TakeWhile
import Mathlib.Tactic.SplitIfs
import Replatform.Proofs.Markdown.Suffix

/-!
# The Beginning of a Text

What the first line of a text begins depends on its first character more than on anything else.
Quotes, list items, rules, headings and HTML have signs of their own, and a blank may begin an
indented block. `BeginsPlainly` leaves all of them out, so that the line begins a fenced block, if
there are marks enough, or a paragraph.

## Main definitions

* `IsLine`: Characters that end no line.
* `BeginsPlainly`: A character that begins a fence or a paragraph.
* `IsWordChar`: A character of a word.

## Theorems

* `beginsPlainly_of_letter`: A letter begins neither of the others.
* `State.feed_of_beginsPlainly`: What such a line begins.
* `codeBlocks_of_line`: There is no code in a single line without a fence.
-/

namespace Replatform

namespace Markdown

section Lines

variable {line rest : List Char}

/-- Characters that end no line. -/
def IsLine (line : List Char) : Prop :=
  '\n' ∉ line ∧ '\r' ∉ line

theorem IsLine.append {before after : List Char} (hbefore : IsLine before) (hafter : IsLine after) :
    IsLine (before ++ after) :=
  ⟨List.not_mem_append hbefore.1 hafter.1, List.not_mem_append hbefore.2 hafter.2⟩

theorem IsLine.of_append_right {before after : List Char} (h : IsLine (before ++ after)) :
    IsLine after :=
  ⟨fun hmem => h.1 (List.mem_append_right before hmem),
    fun hmem => h.2 (List.mem_append_right before hmem)⟩

theorem isLine_replicate {c : Char} (hc : IsLine [c]) (n : ℕ) : IsLine (List.replicate n c) :=
  ⟨fun h => hc.1 (List.mem_singleton.mpr (List.eq_of_mem_replicate h)),
    fun h => hc.2 (List.mem_singleton.mpr (List.eq_of_mem_replicate h))⟩

theorem isLine_spaces (n : ℕ) : IsLine (List.replicate n ' ') :=
  isLine_replicate ⟨by decide, by decide⟩ n

theorem lineOf_append (hline : IsLine line) (hrest : isLineEnd rest = true) :
    lineOf (line ++ rest) = line := by
  have hall : ∀ c ∈ line, (c != '\n' && c != '\r') = true := fun c hc => by
    rw [Bool.and_eq_true, bne_iff_ne, bne_iff_ne]
    exact ⟨fun heq => hline.1 (heq ▸ hc), fun heq => hline.2 (heq ▸ hc)⟩
  rw [lineOf, List.takeWhile_append_of_pos hall]
  cases rest with
  | nil => rw [List.takeWhile_nil, List.append_nil]
  | cons c rest =>
      have hc : ¬ (c != '\n' && c != '\r') = true := by
        simpa [isLineEnd, ← imp_iff_or_not, or_iff_not_imp_left] using hrest
      rw [List.takeWhile_cons_of_neg (p := fun c => c != '\n' && c != '\r') hc, List.append_nil]

theorem splitCode_append (hline : '\n' ∉ line) (rest : List Char) :
    splitCode (line ++ '\n' :: rest) = (line ++ ['\n'], rest) := by
  have hall : ∀ c ∈ line, (c != '\n') = true := fun c hc =>
    bne_iff_ne.mpr fun heq => hline (heq ▸ hc)
  rw [splitCode, List.takeWhile_append_of_pos hall, List.dropWhile_append_of_pos hall,
    List.takeWhile_cons_of_neg (by decide), List.dropWhile_cons_of_neg (by decide),
    List.append_nil]

theorem splitCode_of_not_mem (hline : '\n' ∉ line) : splitCode line = (line, []) := by
  have hall : ∀ c ∈ line, (c != '\n') = true := fun c hc =>
    bne_iff_ne.mpr fun heq => hline (heq ▸ hc)
  rw [splitCode, List.takeWhile_eq_self_iff.mpr hall, List.dropWhile_eq_nil_iff.mpr hall]

theorem afterLine_of_isLine (hline : IsLine line) : afterLine line = [] := by
  fun_induction afterLine line with
  | case1 => rfl
  | case2 cs => exact absurd List.mem_cons_self hline.1
  | case3 cs | case4 cs => exact absurd List.mem_cons_self hline.2
  | case5 c cs _ _ _ ih =>
      exact ih ⟨fun h => hline.1 (List.mem_cons_of_mem c h),
        fun h => hline.2 (List.mem_cons_of_mem c h)⟩

end Lines

section Starts

/-- A character that begins a fence or a paragraph and nothing else. -/
def BeginsPlainly (c : Char) : Prop :=
  c.isDigit = false ∧ isBlank c = false ∧
    c ∉ ['-', '+', '*', '_', '#', '<', '>', '\n', '\r']

instance (c : Char) : Decidable (BeginsPlainly c) :=
  inferInstanceAs (Decidable (_ ∧ _ ∧ _))

variable {c : Char}

/-- A letter or a digit. Beyond ASCII anything but a blank may be one. -/
def IsWordChar (c : Char) : Prop :=
  c.isAlphanum = true ∨ 0x80 ≤ c.toNat ∧ Text.isBlank c = false

instance (c : Char) : Decidable (IsWordChar c) :=
  inferInstanceAs (Decidable (_ ∨ _))

theorem toNat_of_isAlphanum (hc : c.isAlphanum = true) : 0x30 ≤ c.toNat ∧ c.toNat ≤ 0x7A := by
  delta Char.isAlphanum Char.isAlpha Char.isUpper Char.isLower Char.isDigit at hc
  simp only [Bool.or_eq_true, Bool.and_eq_true, decide_eq_true_eq, ge_iff_le,
    UInt32.le_iff_toNat_le, Char.reduceVal, UInt32.reduceToNat] at hc
  have htoNat : c.val.toNat = c.toNat := rfl
  omega

/-- A letter or a digit is not a blank. -/
theorem IsWordChar.isBlank_eq_false (hc : IsWordChar c) : Text.isBlank c = false := by
  rcases hc with hc | hc
  · have hrange := toNat_of_isAlphanum hc
    rw [Bool.eq_false_iff, ne_eq]
    simp only [Text.isBlank, Bool.or_eq_true, Bool.and_eq_true, decide_eq_true_eq, beq_iff_eq]
    omega
  · exact hc.2

theorem BeginsPlainly.isGap (hc : BeginsPlainly c) : isGap c = false :=
  (Bool.or_eq_false_iff.mp (Bool.or_eq_false_iff.mp hc.2.1).1).1

theorem takeSpace_of_not_gap {c : Char} (hc : isGap c = false) (n column : ℕ) (cs : List Char) :
    Cursor.takeSpace n ⟨c :: cs, column, 0⟩ = (0, ⟨c :: cs, column, 0⟩) := by
  rw [isGap, Bool.or_eq_false_iff, beq_eq_false_iff_ne, beq_eq_false_iff_ne] at hc
  unfold Cursor.takeSpace
  split
  · rfl
  · next h => exact absurd (Cursor.mk.inj h).2.2 (Nat.succ_ne_zero _).symm
  · next h => exact absurd (List.cons.inj (Cursor.mk.inj h).1).1 hc.1
  · next h => exact absurd (List.cons.inj (Cursor.mk.inj h).1).1 hc.2
  · rfl

theorem listMarker?_of_beginsPlainly (hc : BeginsPlainly c) (cs : List Char) :
    listMarker? (c :: cs) = none := by
  have hbullet : ¬ (c == '-' || c == '+' || c == '*') = true := by
    simp only [Bool.or_eq_true, beq_iff_eq]
    rintro ((rfl | rfl) | rfl) <;> exact absurd hc (by decide)
  have hdigits : (c :: cs).takeWhile Char.isDigit = [] :=
    List.takeWhile_cons_of_neg (Bool.eq_false_iff.mp hc.1)
  rw [listMarker?]
  simp only [if_neg hbullet, hdigits, List.length_nil, List.drop_zero]
  rw [if_neg]
  simp

theorem isRule_of_beginsPlainly (hc : BeginsPlainly c) (cs : List Char) :
    isRule (c :: cs) = false := by
  have hmark : (c == '-' || c == '*' || c == '_') = false := by
    simp only [Bool.or_eq_false_iff, beq_eq_false_iff_ne]
    refine ⟨⟨?_, ?_⟩, ?_⟩ <;> rintro rfl <;> exact absurd hc (by decide)
  unfold isRule
  split
  · rfl
  · next d rest hline =>
    have hprefix : d :: rest <+: c :: cs := hline ▸ List.takeWhile_prefix _
    rw [(List.cons_prefix_cons.mp hprefix).1, hmark, Bool.false_and, Bool.false_and]

theorem isHeading_of_beginsPlainly (hc : BeginsPlainly c) (cs : List Char) :
    isHeading (c :: cs) = false := by
  have hsign : (c :: cs).takeWhile (· == '#') = [] := by
    refine List.takeWhile_cons_of_neg ?_
    rw [beq_iff_eq]
    rintro rfl
    exact absurd hc (by decide)
  rw [isHeading, hsign]
  rfl

theorem openContainers_of_beginsPlainly (hc : BeginsPlainly c) (fuel column : ℕ) (cs : List Char) :
    openContainers fuel ⟨c :: cs, column, 0⟩ = ([], ⟨c :: cs, column, 0⟩, false) := by
  cases fuel with
  | zero => rfl
  | succ fuel =>
      simp only [openContainers, takeSpace_of_not_gap hc.isGap, listMarker?_of_beginsPlainly hc]
      rw [if_neg (by decide)]
      split
      · next h => exact absurd ((List.cons.inj h).1 ▸ hc) (by decide)
      · rfl

/-- A fence begins with its mark. -/
theorem exists_of_openingFence? {cs info : List Char} {mark : Char} {length : ℕ}
    (h : openingFence? cs = some (mark, length, info)) :
    ∃ tail, cs = mark :: tail ∧ (mark = backtick ∨ mark = '~') := by
  unfold openingFence? at h
  split at h
  · exact absurd h nofun
  · next c tail =>
    simp only [] at h
    split_ifs at h with hmark hshort
    rw [Option.some.injEq, Prod.mk.injEq] at h
    rw [Bool.or_eq_true, beq_iff_eq, beq_iff_eq, h.1] at hmark
    exact ⟨tail, h.1 ▸ rfl, hmark⟩

end Starts

namespace State

/-- What one line does, if it is not the end of the text. -/
theorem feedAll_of_feed {s next : State} {cs rest : List Char} {fuel : ℕ}
    (hcs : cs ≠ []) (h : s.feed cs = (next, rest)) :
    s.feedAll (fuel + 1) cs = next.feedAll fuel rest := by
  rw [feedAll.eq_3 _ _ _ hcs, h]

theorem feedAll_nil (s : State) (fuel : ℕ) : s.feedAll fuel [] = s := by
  cases fuel <;> rfl

/-- A line that begins plainly begins a fenced block or a paragraph. -/
theorem feed_of_beginsPlainly {c : Char} (hc : BeginsPlainly c) (blocks : List CodeBlock)
    (cs : List Char) :
    ({ blocks } : State).feed (c :: cs) =
      match openingFence? (c :: cs) with
      | some (mark, length, info) =>
        ({ tip := .fenced ⟨mark, length, 0, language? info⟩ [], blocks }, (splitCode (c :: cs)).2)
      | none => ({ blocks } : State).beginParagraph ((c :: cs).length + 1) (c :: cs) := by
  have hcontainers : ∀ fuel, openContainers fuel ⟨c :: cs, 0, 0⟩ = ([], ⟨c :: cs, 0, 0⟩, false) :=
    fun fuel => openContainers_of_beginsPlainly hc fuel 0 cs
  have hblank : ¬ isBlankLine (c :: cs) = true := by
    rw [isBlankLine, skipBlanks, List.dropWhile_cons_of_neg (Bool.eq_false_iff.mp hc.2.1),
      isLineEnd, List.head?_cons, Option.all_some, Bool.or_eq_true, beq_iff_eq, beq_iff_eq]
    rintro (rfl | rfl) <;> exact absurd hc (by decide)
  have hhtml : ∀ tag, lineOf (c :: cs) ≠ '<' :: tag := by
    intro tag htag
    have hmem : '<' :: tag <+: c :: cs := htag ▸ List.takeWhile_prefix _
    rw [← (List.cons_prefix_cons.mp hmem).1] at hc
    exact absurd hc (by decide)
  have hrule : ¬ (isRule (c :: cs) || isHeading (c :: cs)) = true := by
    rw [isRule_of_beginsPlainly hc, isHeading_of_beginsPlainly hc]
    exact Bool.false_ne_true
  simp only [feed, matchContainers, openLine, Cursor.ofLine, hcontainers, close, begin,
    takeSpace_of_not_gap hc.isGap, if_neg hblank, if_neg hrule]
  rw [if_neg (by decide)]
  rfl

end State

end Markdown

end Replatform
