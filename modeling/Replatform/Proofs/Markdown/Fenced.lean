import Mathlib.Data.List.TakeWhile
import Replatform.Proofs.Markdown.Start

/-!
# Fenced Lines

A text between fences comes out as it went in. Outside of all containers a fenced block keeps its
lines unread until one of them closes it, so what they hold does not matter: other Markdown, fences
of another kind, blank lines, any indentation. `ClosesFence` is the one thing a line must not be.

The end of the text closes a block as well. The last line of a text that is cut off has no line
feed, and at most three spaces at the end of the text are lost with it, because they might have been
the indentation of the closing fence.

`Leaves` is what the rest of a text comes to, whatever was read before it. It is known for the end
of the text, and each line in front extends it.

## Main definitions

* `ClosesFence`: A line closes a fence.
* `State.inFence`: The state between two lines of a fenced block.
* `State.Leaves`: The code that the rest of a text leaves.

## Theorems

* `State.feed_openingFence`: The first line of a text opens the block.
* `State.feed_inFence`: A line that does not close it is kept.
* `State.Leaves.after_lines`: So are many.
* `State.leaves_closingFence`, `State.leaves_last`: The two ends of a text.
-/

namespace Replatform

namespace Markdown

/-- A line closes a fence of `length` marks: at most three spaces, no fewer marks, and nothing but
    spaces behind them. -/
def ClosesFence (mark : Char) (length : ℕ) (line : List Char) : Prop :=
  ∃ indent marks trail, indent ≤ 3 ∧ length ≤ marks ∧
    line = List.replicate indent ' ' ++ (List.replicate marks mark ++ List.replicate trail ' ')

/-- None of the three parts of a line is longer than the line. -/
instance (mark : Char) (length : ℕ) (line : List Char) :
    Decidable (ClosesFence mark length line) :=
  decidable_of_iff (∃ indent : Fin 4, ∃ marks trail : Fin (line.length + 1), length ≤ marks ∧
      line = List.replicate indent ' ' ++ (List.replicate marks mark ++ List.replicate trail ' '))
    ⟨fun ⟨indent, marks, trail, hlength, hline⟩ =>
      ⟨indent, marks, trail, Nat.le_of_lt_succ indent.2, hlength, hline⟩,
    fun ⟨indent, marks, trail, hindent, hlength, hline⟩ => by
      have hsum : line.length = indent + (marks + trail) := by
        rw [hline, List.length_append, List.length_append, List.length_replicate,
          List.length_replicate, List.length_replicate]
      exact ⟨⟨indent, by omega⟩, ⟨marks, by omega⟩, ⟨trail, by omega⟩, hlength, hline⟩⟩

section Columns

theorem takeSpace_spare (n column : ℕ) (cs : List Char) :
    Cursor.takeSpace n ⟨cs, column, n⟩ = (n, ⟨cs, column, 0⟩) := by
  induction n with
  | zero => rfl
  | succ n ih => rw [Cursor.takeSpace, ih]

/-- Fewer than four columns at the start of a line are so many spaces. A tab would fill up the
    four. -/
theorem eq_of_takeSpace_lt {n : ℕ} {c : Cursor} (hspare : c.spare = 0) (hcolumn : c.column + n = 4)
    (h : (c.takeSpace n).1 < n) :
    c.rest = List.replicate (c.takeSpace n).1 ' ' ++ (c.takeSpace n).2.rest := by
  fun_induction Cursor.takeSpace n c with
  | case1 c => rfl
  | case2 n rest column spare k c hrest ih => exact absurd hspare (Nat.succ_ne_zero spare)
  | case3 n rest column k c hrest ih =>
      rw [hrest] at ih
      have hnext : column + 1 + n = 4 := (Nat.add_right_comm column 1 n).trans hcolumn
      exact congrArg (List.cons ' ') (ih rfl hnext (Nat.lt_of_succ_lt_succ h))
  | case4 n rest column width k c hrest ih =>
      have hfour : column + (n + 1) = 4 := hcolumn
      have hwidth : width = 4 - column % 4 := rfl
      rw [show width - 1 = n by omega, takeSpace_spare] at hrest
      exact absurd h (Nat.not_lt.mpr (Nat.succ_le_succ (Prod.mk.inj hrest).1.le))
  | case5 n c => rfl

/-- Fewer than four columns at the start of a text are so many spaces. -/
theorem eq_of_takeSpace_ofLine_lt {cs : List Char} (h : ((Cursor.ofLine cs).takeSpace 4).1 < 4) :
    cs = List.replicate ((Cursor.ofLine cs).takeSpace 4).1 ' ' ++
      ((Cursor.ofLine cs).takeSpace 4).2.rest :=
  eq_of_takeSpace_lt rfl rfl h

end Columns

section Lines

variable {fence : Fence} {line rest : List Char}

theorem dropReturn_of_not_mem (hline : '\r' ∉ line) : dropReturn line = line := by
  unfold dropReturn
  split
  · next c before hreverse =>
    have hmem : '\r' ∈ line.reverse := hreverse ▸ List.mem_cons_of_mem _ List.mem_cons_self
    exact absurd (List.mem_reverse.mp hmem) hline
  · rfl

theorem replicate_append_dropWhile (c : Char) (cs : List Char) :
    List.replicate (cs.takeWhile (· == c)).length c ++ cs.dropWhile (· == c) = cs := by
  have hall : ∀ d ∈ cs.takeWhile (· == c), d = c := fun d hd =>
    beq_iff_eq.mp (List.all_eq_true.mp List.all_takeWhile d hd)
  rw [← List.eq_replicate_of_mem hall, List.takeWhile_append_dropWhile]

/-- What is taken for the closing fence, if there is anything. -/
theorem exists_of_isClosedBy {cs : List Char} (hne : cs ≠ []) (h : fence.isClosedBy cs = true) :
    ∃ marks trail after, fence.length ≤ marks ∧ isLineEnd after = true ∧
      cs = List.replicate marks fence.mark ++ (List.replicate trail ' ' ++ after) := by
  have hdrop : cs.drop (cs.takeWhile (· == fence.mark)).length =
      cs.dropWhile (· == fence.mark) := by
    have hsplit := List.takeWhile_append_dropWhile (p := (· == fence.mark)) (l := cs)
    calc cs.drop (cs.takeWhile (· == fence.mark)).length
        = (cs.takeWhile (· == fence.mark) ++ cs.dropWhile (· == fence.mark)).drop
            (cs.takeWhile (· == fence.mark)).length := by rw [hsplit]
      _ = cs.dropWhile (· == fence.mark) := List.drop_left
  rw [Fence.isClosedBy, Bool.or_eq_true, List.isEmpty_iff, or_iff_right hne, Bool.and_eq_true,
    decide_eq_true_eq, hdrop] at h
  refine ⟨_, ((cs.dropWhile (· == fence.mark)).takeWhile (· == ' ')).length, _, h.1, h.2, ?_⟩
  rw [replicate_append_dropWhile ' ', replicate_append_dropWhile]

/-- What is taken for the closing fence is a line that closes it, if there is anything. -/
theorem closesFence_of_isClosedBy {cs : List Char} {indent : ℕ} (hmark : IsLine [fence.mark])
    (hindent : indent ≤ 3) (hline : IsLine line) (hrest : isLineEnd rest = true) (hne : cs ≠ [])
    (hcs : line ++ rest = List.replicate indent ' ' ++ cs) (h : fence.isClosedBy cs = true) :
    ClosesFence fence.mark fence.length line := by
  rcases exists_of_isClosedBy hne h with ⟨marks, trail, after, hmarks, hafter, rfl⟩
  have hbefore : IsLine (List.replicate indent ' ' ++
      (List.replicate marks fence.mark ++ List.replicate trail ' ')) :=
    (isLine_spaces indent).append ((isLine_replicate hmark marks).append (isLine_spaces trail))
  refine ⟨indent, marks, trail, hindent, hmarks, ?_⟩
  -- The line is what stands in front of the first place where one can end.
  calc line = lineOf (line ++ rest) := (lineOf_append hline hrest).symm
    _ = lineOf ((List.replicate indent ' ' ++ (List.replicate marks fence.mark ++
          List.replicate trail ' ')) ++ after) := by rw [hcs, List.append_assoc, List.append_assoc]
    _ = _ := lineOf_append hbefore hafter

end Lines

section Opening

/-- The marks that open a fence are not counted past the info string. -/
theorem openingFence?_append {mark : Char} {length : ℕ} {info : List Char}
    (hmark : mark = backtick ∨ mark = '~') (hlength : 3 ≤ length) (hinfo : mark ∉ info)
    (hline : '\n' ∉ info) (cs : List Char) :
    openingFence? (List.replicate length mark ++ (info ++ '\n' :: cs)) =
      some (mark, length, info ++ ['\n']) := by
  have hfeed : mark ≠ '\n' := by
    rcases hmark with rfl | rfl <;> decide
  have hhead : (info ++ '\n' :: cs).takeWhile (· == mark) = [] := by
    cases info with
    | nil => exact List.takeWhile_cons_of_neg fun hc => hfeed (beq_iff_eq.mp hc).symm
    | cons c info =>
        exact List.takeWhile_cons_of_neg fun hc => hinfo (beq_iff_eq.mp hc ▸ List.mem_cons_self)
  have hmarks : (List.replicate length mark ++ (info ++ '\n' :: cs)).takeWhile (· == mark) =
      List.replicate length mark := by
    rw [List.takeWhile_append_of_pos, hhead, List.append_nil]
    exact fun c hc => beq_iff_eq.mpr (List.eq_of_mem_replicate hc)
  have hdrop : (List.replicate length mark ++ (info ++ '\n' :: cs)).drop length =
      info ++ '\n' :: cs := List.drop_left' List.length_replicate
  have hmark' : (mark == backtick || mark == '~') = true := by
    rwa [Bool.or_eq_true, beq_iff_eq, beq_iff_eq]
  have hopen : ¬ (decide (length < 3) || mark == backtick && (info ++ ['\n']).contains backtick) =
      true := by
    rw [Bool.or_eq_true, Bool.and_eq_true, decide_eq_true_eq, beq_iff_eq, List.contains_iff_mem]
    rintro (hshort | ⟨rfl, hmem⟩)
    · exact absurd hlength (Nat.not_le.mpr hshort)
    · exact List.not_mem_append hinfo (by decide) hmem
  cases length with
  | zero => exact absurd hlength (by decide)
  | succ n =>
      rw [List.replicate_succ, List.cons_append] at hmarks hdrop ⊢
      simp only [openingFence?, hmarks, List.length_cons, List.length_replicate, hdrop,
        splitCode_append hline, if_pos hmark', if_neg hopen]

/-- Nothing stands for something else in a text without backslashes and ampersands. -/
theorem unescape_eq_self {cs : List Char} (h : ∀ c ∈ cs, c ≠ '\\' ∧ c ≠ '&' ∧ c ≠ '\r') :
    unescape cs = cs := by
  unfold unescape
  induction cs with
  | nil => rfl
  | cons c cs ih =>
      rw [List.forall_mem_cons] at h
      rw [unescapeFrom.eq_6 c cs (fun _ _ hc _ => h.1.1 hc) h.1.2.1 h.1.2.2, ih h.2]

/-- A word names a language. -/
theorem language?_word {word : List Char} (hne : word ≠ []) (hword : ∀ c ∈ word, IsWordChar c) :
    language? (word ++ ['\n']) = some (String.ofList (word.map Char.toLower)) := by
  have hplain : ∀ c ∈ word ++ ['\n'], c ≠ '\\' ∧ c ≠ '&' ∧ c ≠ '\r' := by
    intro c hc
    rcases List.mem_append.mp hc with hc | hc
    · refine ⟨?_, ?_, ?_⟩ <;> rintro rfl <;> exact absurd (hword _ hc) (by decide)
    · rw [List.mem_singleton.mp hc]
      decide
  have hblank : ∀ c ∈ word, (!Text.isBlank c) = true := fun c hc => by
    rw [(hword c hc).isBlank_eq_false, Bool.not_false]
  have hstart : Text.dropBlanks (word ++ ['\n']) = word ++ ['\n'] := by
    cases word with
    | nil => exact absurd rfl hne
    | cons c word =>
        refine List.dropWhile_cons_of_neg ?_
        rw [(hword c List.mem_cons_self).isBlank_eq_false]
        exact Bool.false_ne_true
  have htake : (word ++ ['\n']).takeWhile (fun c => !Text.isBlank c) = word := by
    rw [List.takeWhile_append_of_pos hblank, List.takeWhile_cons_of_neg (by decide),
      List.append_nil]
  unfold language?
  rw [unescape_eq_self hplain, hstart, htake]
  cases word with
  | nil => exact absurd rfl hne
  | cons c word => rfl

end Opening

namespace State

section Reading

variable {fence : Fence} {line rest cs code : List Char} {blocks : List CodeBlock}
  {before : List (List Char)}

/-- The state between two lines of a fenced block outside of all containers. -/
def inFence (blocks : List CodeBlock) (fence : Fence) (code : List (List Char)) : State :=
  { tip := .fenced fence code, blocks }

/-- A fence that is not indented keeps the indentation of its lines. -/
theorem feed_inFence (hindent : fence.indent = 0) (blocks : List CodeBlock)
    (before : List (List Char)) (cs : List Char) :
    (inFence blocks fence before).feed cs =
      if ((Cursor.ofLine cs).takeSpace 4).1 < 4 ∧
          fence.isClosedBy ((Cursor.ofLine cs).takeSpace 4).2.rest = true then
        ((inFence blocks fence before).close, afterLine ((Cursor.ofLine cs).takeSpace 4).2.rest)
      else (inFence blocks fence (dropReturn (splitCode cs).1 :: before), (splitCode cs).2) := by
  simp only [inFence, feed, matchContainers, hindent]
  rw [if_pos (show (0 == [].length) = true from rfl)]
  simp only [Bool.and_eq_true, decide_eq_true_eq]
  rfl

/-- A line that does not close the block is kept with its line feed. -/
theorem feed_line (hindent : fence.indent = 0) (hmark : IsLine [fence.mark]) (hline : IsLine line)
    (hopen : ¬ ClosesFence fence.mark fence.length line) :
    (inFence blocks fence before).feed (line ++ '\n' :: rest) =
      (inFence blocks fence ((line ++ ['\n']) :: before), rest) := by
  have hreturn : '\r' ∉ line ++ ['\n'] := List.not_mem_append hline.2 (by decide)
  rw [feed_inFence hindent, if_neg, splitCode_append hline.1, dropReturn_of_not_mem hreturn]
  rintro ⟨hlt, hclosed⟩
  have hcs := eq_of_takeSpace_ofLine_lt hlt
  refine hopen (closesFence_of_isClosedBy hmark (Nat.le_of_lt_succ hlt) hline rfl ?_ hcs hclosed)
  intro hnil
  rw [hnil, List.append_nil] at hcs
  have hmem : '\n' ∈ line ++ '\n' :: rest := List.mem_append_right line List.mem_cons_self
  exact (isLine_spaces _).1 (hcs ▸ hmem)

/-- The rest of a text that stands between fences leaves `code` behind all that was read before it,
    and nothing else. -/
def Leaves (fence : Fence) (cs code : List Char) : Prop :=
  ∀ blocks before fuel, cs.length < fuel →
    ((inFence blocks fence before).feedAll fuel cs).close.blocks =
      blocks ++ [⟨fence.language, String.ofList (before.reverse.flatten ++ code)⟩]

theorem leaves_nil (fence : Fence) : Leaves fence [] [] := by
  rintro blocks before (_ | fuel) hfuel
  · exact absurd hfuel (Nat.not_lt_zero _)
  · rw [List.append_nil]
    rfl

theorem Leaves.after_line (h : Leaves fence cs code) (hindent : fence.indent = 0)
    (hmark : IsLine [fence.mark]) (hline : IsLine line)
    (hopen : ¬ ClosesFence fence.mark fence.length line) :
    Leaves fence (line ++ '\n' :: cs) (line ++ '\n' :: code) := by
  rintro blocks before (_ | fuel) hfuel
  · exact absurd hfuel (Nat.not_lt_zero _)
  · have hne : line ++ '\n' :: cs ≠ [] :=
      List.append_ne_nil_of_right_ne_nil _ (List.cons_ne_nil _ _)
    have hlength : cs.length < fuel := by
      rw [List.length_append, List.length_cons] at hfuel
      omega
    rw [feedAll_of_feed hne (feed_line hindent hmark hline hopen), h _ _ _ hlength,
      List.reverse_cons, List.flatten_append, List.flatten_singleton, List.append_assoc,
      List.append_assoc, List.singleton_append]

theorem Leaves.after_lines (h : Leaves fence cs code) (hindent : fence.indent = 0)
    (hmark : IsLine [fence.mark]) {lines : List (List Char)}
    (hlines : ∀ line ∈ lines, IsLine line ∧ ¬ ClosesFence fence.mark fence.length line) :
    Leaves fence (lines.flatMap (· ++ ['\n']) ++ cs) (lines.flatMap (· ++ ['\n']) ++ code) := by
  induction lines with
  | nil => exact h
  | cons line lines ih =>
      rw [List.forall_mem_cons] at hlines
      have hlonger := (ih hlines.2).after_line hindent hmark hlines.1.1 hlines.1.2
      simpa only [List.flatMap_cons, List.append_assoc, List.cons_append, List.nil_append] using
        hlonger

/-- A last line that is taken for the closing fence leaves nothing. -/
theorem leaves_of_closing (hindent : fence.indent = 0) (hline : IsLine line)
    (h : ((Cursor.ofLine line).takeSpace 4).1 < 4 ∧
      fence.isClosedBy ((Cursor.ofLine line).takeSpace 4).2.rest = true) :
    Leaves fence line [] := by
  by_cases hne : line = []
  · rw [hne]
    exact leaves_nil fence
  · rintro blocks before (_ | fuel) hfuel
    · exact absurd hfuel (Nat.not_lt_zero _)
    · have hfeed := feed_inFence hindent blocks before line
      have hcs := eq_of_takeSpace_ofLine_lt h.1
      rw [hcs] at hline
      rw [if_pos h, afterLine_of_isLine hline.of_append_right] at hfeed
      rw [feedAll_of_feed hne hfeed, feedAll_nil, List.append_nil]
      rfl

/-- A closing fence at the end of a text leaves nothing. -/
theorem leaves_closingFence (hindent : fence.indent = 0) (hmark : IsLine [fence.mark])
    (hgap : isGap fence.mark = false) :
    Leaves fence (List.replicate fence.length fence.mark) [] := by
  have hspace : (Cursor.ofLine (List.replicate fence.length fence.mark)).takeSpace 4 =
      (0, Cursor.ofLine (List.replicate fence.length fence.mark)) := by
    cases fence.length with
    | zero => rfl
    | succ n => exact takeSpace_of_not_gap hgap 4 0 _
  refine leaves_of_closing hindent (isLine_replicate hmark fence.length) ?_
  rw [hspace]
  refine ⟨Nat.zero_lt_succ 3, ?_⟩
  have hall : (List.replicate fence.length fence.mark).takeWhile (· == fence.mark) =
      List.replicate fence.length fence.mark :=
    List.takeWhile_eq_self_iff.mpr fun c hc => beq_iff_eq.mpr (List.eq_of_mem_replicate hc)
  simp [Fence.isClosedBy, Cursor.ofLine, hall, isLineEnd]

/-- The last line of a text is kept, unless it is lost as an indentation. -/
theorem leaves_last (hindent : fence.indent = 0) (hmark : IsLine [fence.mark]) (hline : IsLine line)
    (hopen : ¬ ClosesFence fence.mark fence.length line) :
    Leaves fence line line ∨ Leaves fence line [] ∧ ∀ c ∈ line, c = ' ' := by
  by_cases hclosed : ((Cursor.ofLine line).takeSpace 4).1 < 4 ∧
      fence.isClosedBy ((Cursor.ofLine line).takeSpace 4).2.rest = true
  · refine Or.inr ⟨leaves_of_closing hindent hline hclosed, ?_⟩
    have hcs := eq_of_takeSpace_ofLine_lt hclosed.1
    by_cases hrest : ((Cursor.ofLine line).takeSpace 4).2.rest = []
    · rw [hrest, List.append_nil] at hcs
      exact fun c hc => List.eq_of_mem_replicate (hcs ▸ hc)
    · exact absurd (closesFence_of_isClosedBy hmark (Nat.le_of_lt_succ hclosed.1) hline rfl hrest
        ((List.append_nil line).trans hcs) hclosed.2) hopen
  · left
    by_cases hne : line = []
    · rw [hne]
      exact leaves_nil fence
    · rintro blocks before (_ | fuel) hfuel
      · exact absurd hfuel (Nat.not_lt_zero _)
      · have hfeed := feed_inFence hindent blocks before line
        rw [if_neg hclosed, splitCode_of_not_mem hline.1, dropReturn_of_not_mem hline.2] at hfeed
        rw [feedAll_of_feed hne hfeed, feedAll_nil]
        simp [inFence, close]

/-- A line that begins with a fence opens a block. -/
theorem feed_openingFence {mark : Char} {length : ℕ} {info : List Char}
    (h : openingFence? cs = some (mark, length, info)) (blocks : List CodeBlock) :
    ({ blocks } : State).feed cs =
      (inFence blocks ⟨mark, length, 0, language? info⟩ [], (splitCode cs).2) := by
  rcases exists_of_openingFence? h with ⟨tail, rfl, hmark⟩
  have hplain : BeginsPlainly mark := by
    rcases hmark with rfl | rfl <;> decide
  rw [feed_of_beginsPlainly hplain, h]
  rfl

end Reading

end State

/-- A text that begins with a fence is one block, whose code is what is left of the lines behind the
    first. -/
theorem codeBlocks_of_leaves {text : String} {opening cs code info : List Char} {mark : Char}
    {length : ℕ} (htext : text.toList = opening ++ '\n' :: cs) (hopening : '\n' ∉ opening)
    (hfence : openingFence? text.toList = some (mark, length, info))
    (h : State.Leaves ⟨mark, length, 0, language? info⟩ cs code) :
    codeBlocks text = [⟨language? info, String.ofList code⟩] := by
  have hne : text.toList ≠ [] := by
    rw [htext]
    exact List.append_ne_nil_of_right_ne_nil _ (List.cons_ne_nil _ _)
  have hfuel : cs.length < text.toList.length := by
    rw [htext, List.length_append, List.length_cons]
    omega
  have hfeed := State.feed_openingFence hfence []
  rw [htext, splitCode_append hopening, ← htext] at hfeed
  rw [codeBlocks, State.feedAll_of_feed hne hfeed, h [] [] _ hfuel]
  rfl

end Markdown

end Replatform
