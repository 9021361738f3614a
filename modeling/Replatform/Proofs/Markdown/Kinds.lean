import Replatform.Proofs.Markdown.Suffix

/-!
# Fenced and Indented Code

The code blocks of a text come without a word on what set them off. `kindedBlocks` is the same
reading with that written down beside each block, and `map_kindedBlocks` says that nothing else is
different: Without the marks it gives the code blocks.

What is behind it is that a line completes at most the block that was at the tip when the line
began. `State.Proceeds` says what may happen without completing a block, and `State.proceeds_feed`
that a line does no more than that, either from the state as it is or from the one in which the
block at the tip is complete. A fenced block can only come to the tip by a line that opens it, and
such a line has the marks of a fence in it, so a text with a fenced block has them somewhere.

## Main definitions

* `Tip.isFenced`: The block at the tip is fenced code.
* `State.completed`, `State.kinds`: The blocks that a line and a text complete, with their kinds.
* `kindedBlocks`: The code blocks of a text, with their kinds.
* `HasMarks`: A text has the marks of a fence in it.
* `State.Proceeds`: What reading may lead to without completing a block.

## Theorems

* `State.proceeds_feed`: What one line does.
* `map_kindedBlocks`: The kinds are only written down.
* `hasMarks_of_mem_kindedBlocks`: Where there is a fenced block there are the marks of a fence.
-/

namespace Replatform

namespace Markdown

/-- The block at the tip is fenced code. -/
def Tip.isFenced : Tip → Bool
  | .fenced _ _ => true
  | _ => false

namespace State

/-- The code blocks that are complete in the next state and not yet in this one, each with whether
    it is fenced. Only the block at the tip can be among them. -/
def completed (s next : State) : List (Bool × CodeBlock) :=
  (next.blocks.drop s.blocks.length).map fun block => (s.tip.isFenced, block)

/-- Read a text to its end and complete the block at the tip: the code blocks that this completes,
    each with whether it is fenced. -/
def kinds (s : State) : Nat → List Char → List (Bool × CodeBlock)
  | 0, _ => s.completed s.close
  | _ + 1, [] => s.completed s.close
  | fuel + 1, cs =>
    let (next, rest) := s.feed cs
    s.completed next ++ next.kinds fuel rest

end State

/-- The code blocks of a text, in the order in which they begin, each with whether it is fenced. -/
def kindedBlocks (text : String) : List (Bool × CodeBlock) :=
  State.kinds {} (text.toList.length + 1) text.toList

/-- Three marks of a fence stand next to each other somewhere in a text. -/
def HasMarks (cs : List Char) : Prop :=
  ∃ mark, (mark = backtick ∨ mark = '~') ∧ List.replicate 3 mark <:+: cs

theorem HasMarks.of_suffix {rest cs : List Char} (h : HasMarks rest) (hrest : rest <:+ cs) :
    HasMarks cs := by
  rcases h with ⟨mark, hmark, hinfix⟩
  exact ⟨mark, hmark, hinfix.trans hrest.isInfix⟩

/-- A fence begins with three of its marks. -/
theorem hasMarks_of_openingFence? {cs : List Char} {fence : Char × Nat × List Char}
    (h : openingFence? cs = some fence) : HasMarks cs := by
  unfold openingFence? at h
  split at h
  · exact absurd h nofun
  · next c cs =>
    simp only [] at h
    split_ifs at h with hmark hlength
    rw [Bool.or_eq_true, beq_iff_eq, beq_iff_eq] at hmark
    -- The marks at the start are all the same, so the first three are three times the first.
    have hmarks : ∀ d ∈ (c :: cs).takeWhile (· == c), d = c := fun d hd =>
      beq_iff_eq.mp (List.all_eq_true.mp List.all_takeWhile d hd)
    have hthree : 3 ≤ ((c :: cs).takeWhile (· == c)).length := Nat.not_lt.mp fun hshort =>
      hlength (Bool.or_eq_true_iff.mpr (Or.inl (decide_eq_true hshort)))
    have htake : ((c :: cs).takeWhile (· == c)).take 3 = List.replicate 3 c := by
      rw [List.eq_replicate_of_mem hmarks, List.take_replicate, Nat.min_eq_left hthree]
    have hprefix := (List.take_prefix 3 _).trans (List.takeWhile_prefix (l := c :: cs) (· == c))
    exact ⟨c, hmark, (htake ▸ hprefix).isInfix⟩

namespace State

/-- What reading may lead to from a state without completing a block. The text that is left is an
    end of the one that was there, and a fenced block is at the tip only if it was there before or
    the text has the marks of a fence. -/
structure Proceeds (s : State) (cs : List Char) (out : State × List Char) : Prop where
  rest : out.2 <:+ cs
  blocks : out.1.blocks = s.blocks
  fenced : out.1.tip.isFenced = true → s.tip.isFenced = true ∨ HasMarks cs

theorem Proceeds.of_suffix {s : State} {rest cs : List Char} {out : State × List Char}
    (h : s.Proceeds rest out) (hrest : rest <:+ cs) : s.Proceeds cs out :=
  ⟨h.rest.trans hrest, h.blocks, fun hfenced => (h.fenced hfenced).imp_right (·.of_suffix hrest)⟩

section Lines

variable (s : State)

theorem prefix_close : s.blocks <+: s.close.blocks := by
  unfold close
  split
  · exact List.prefix_append _ _
  · exact List.prefix_append _ _
  · exact List.prefix_refl _

theorem isFenced_close : s.close.tip.isFenced = false := by
  unfold close
  split <;> rfl

theorem proceeds_beginParagraph (fuel : Nat) (cs : List Char) :
    s.Proceeds cs (s.beginParagraph fuel cs) := by
  fun_induction beginParagraph s fuel cs with
  | case1 cs => exact ⟨suffix_afterLine cs, rfl, Or.inl⟩
  | case2 fuel cs after hafter next sequel hbreaks =>
      exact ⟨(suffix_afterLine after).trans (suffix_definition? hafter), rfl, Or.inl⟩
  | case3 fuel cs after hafter next sequel hbreaks ih =>
      exact ih.of_suffix <| (List.dropWhile_suffix isGap).trans <|
        (suffix_sequelIn s.containers next).trans <|
          (suffix_afterLine after).trans (suffix_definition? hafter)
  | case4 fuel cs hnone =>
      exact ⟨suffix_afterLine cs, rfl, fun h => absurd h Bool.false_ne_true⟩

theorem proceeds_begin (c : Cursor) : s.Proceeds c.rest (s.begin c) := by
  have hstart := suffix_takeSpace 4 c
  unfold State.begin
  generalize c.takeSpace 4 = spaced at hstart ⊢
  obtain ⟨indent, start⟩ := spaced
  refine Proceeds.of_suffix ?_ hstart
  have hsplit := suffix_splitCode start.rest
  have hhtml : ∀ (met : Bool) (ending : HtmlEnd),
      Tip.isFenced (if met then .none else .html ending) ≠ true := by
    intro met ending
    split_ifs <;> exact Bool.false_ne_true
  simp only []
  split_ifs
  · exact ⟨suffix_codeLine start, rfl, fun h => absurd h Bool.false_ne_true⟩
  · split
    · exact ⟨hsplit, rfl, fun h => absurd h (hhtml _ _)⟩
    · exact ⟨suffix_afterLine start.rest, rfl, Or.inl⟩
  · split
    · exact ⟨hsplit, rfl, fun h => absurd h (hhtml _ _)⟩
    · split
      · next hfence => exact ⟨hsplit, rfl, fun _ => Or.inr (hasMarks_of_openingFence? hfence)⟩
      · exact s.proceeds_beginParagraph _ start.rest

/-- What opens something completes the block at the tip first, and nothing else. -/
theorem proceeds_openLine (kept : Nat) (c : Cursor) :
    s.close.Proceeds c.rest (s.openLine kept c) := by
  have hopen := suffix_openContainers ((lineOf c.rest).length + 1) c
  unfold openLine
  generalize openContainers ((lineOf c.rest).length + 1) c = opened at hopen ⊢
  obtain ⟨fresh, inner, bare⟩ := opened
  refine Proceeds.of_suffix ?_ hopen
  simp only []
  split_ifs
  · exact ⟨suffix_afterLine inner.rest, rfl, Or.inl⟩
  · exact ⟨suffix_afterLine inner.rest, rfl, Or.inl⟩
  · -- The containers are others, but the blocks and the tip are those behind the old block.
    have hbegin := proceeds_begin
      { s.close with containers := s.containers.take kept ++ fresh, bare } inner
    exact ⟨hbegin.rest, hbegin.blocks, hbegin.fenced⟩

/-- A line goes on with the block at the tip, or goes on behind it when it is complete. -/
theorem proceeds_feed (cs : List Char) :
    s.Proceeds cs (s.feed cs) ∨ s.close.Proceeds cs (s.feed cs) := by
  have hline := suffix_matchContainers s.containers (Cursor.ofLine cs)
  unfold feed
  generalize matchContainers s.containers (Cursor.ofLine cs) = matched at hline ⊢
  obtain ⟨kept, c⟩ := matched
  have hcode : ∀ n, (codeLine (c.takeSpace n).2).2 <:+ cs := fun n =>
    (suffix_codeLine _).trans ((suffix_takeSpace n c).trans hline)
  have hafter : ∀ n, afterLine (c.takeSpace n).2.rest <:+ cs := fun n =>
    (suffix_afterLine _).trans ((suffix_takeSpace n c).trans hline)
  have hsplit : (splitCode c.rest).2 <:+ cs := (suffix_splitCode c.rest).trans hline
  have hopen : s.close.Proceeds cs (s.openLine kept c) :=
    (s.proceeds_openLine kept c).of_suffix hline
  simp only []
  split
  · exact Or.inr hopen
  · next fence code htip =>
    have hfenced : s.tip.isFenced = true := congrArg Tip.isFenced htip
    split_ifs
    · exact Or.inr ⟨hafter 4, rfl, Or.inl⟩
    · exact Or.inl ⟨hcode fence.indent, rfl, fun _ => Or.inl hfenced⟩
    · exact Or.inr hopen
  · split_ifs
    · exact Or.inl ⟨hcode 4, rfl, fun h => absurd h Bool.false_ne_true⟩
    · exact Or.inl ⟨hcode 4, rfl, fun h => absurd h Bool.false_ne_true⟩
    · exact Or.inr hopen
  · split_ifs
    · exact Or.inl ⟨hsplit, rfl, fun h => absurd h Bool.false_ne_true⟩
    · exact Or.inl ⟨hsplit, rfl, fun h => absurd h Bool.false_ne_true⟩
    · exact Or.inr hopen
  · have hsequel : afterLine (sequel (kept == s.containers.length) c).rest <:+ cs := hafter 4
    split_ifs
    · exact Or.inl ⟨hsequel, rfl, fun h => absurd h Bool.false_ne_true⟩
    · exact Or.inr hopen
    · exact Or.inl ⟨hsequel, rfl, Or.inl⟩

/-- What a line leaves is an end of the text. -/
theorem suffix_feed (cs : List Char) : (s.feed cs).2 <:+ cs :=
  (s.proceeds_feed cs).elim Proceeds.rest Proceeds.rest

/-- No line takes back a block that is complete. -/
theorem prefix_feed (cs : List Char) : s.blocks <+: (s.feed cs).1.blocks := by
  rcases s.proceeds_feed cs with h | h
  · exact h.blocks ▸ List.prefix_refl _
  · exact h.blocks ▸ s.prefix_close

/-- A fenced block is at the tip behind a line only if it was there before or the line has the marks
    of a fence. -/
theorem hasMarks_of_feed (cs : List Char) (h : (s.feed cs).1.tip.isFenced = true) :
    s.tip.isFenced = true ∨ HasMarks cs := by
  rcases s.proceeds_feed cs with hon | hbehind
  · exact hon.fenced h
  · refine Or.inr ((hbehind.fenced h).resolve_left fun hclosed => ?_)
    rw [isFenced_close] at hclosed
    exact Bool.false_ne_true hclosed

end Lines

theorem append_completed {s next : State} (h : s.blocks <+: next.blocks) :
    s.blocks ++ (s.completed next).map Prod.snd = next.blocks := by
  have hmap : (s.completed next).map Prod.snd = next.blocks.drop s.blocks.length := by
    rw [completed, List.map_map]
    exact List.map_id _
  rw [hmap, List.prefix_iff_eq_append.mp h]

/-- What was complete before a text and what the text completes is what is complete in the end. -/
theorem append_kinds (s : State) (fuel : Nat) (cs : List Char) :
    s.blocks ++ (s.kinds fuel cs).map Prod.snd = (s.feedAll fuel cs).close.blocks := by
  fun_induction kinds s fuel cs with
  | case1 s cs => exact append_completed s.prefix_close
  | case2 s fuel => exact append_completed s.prefix_close
  | case3 s fuel cs hne next rest hfeed ih =>
      -- The line adds to the blocks, so what it adds can be split off.
      have hprefix := s.prefix_feed cs
      rw [hfeed] at hprefix
      rw [List.map_append, ← List.append_assoc, append_completed hprefix, ih, feedAll, hfeed]
      exact hne

theorem isFenced_of_mem_completed {s next : State} {block : CodeBlock}
    (h : (true, block) ∈ s.completed next) : s.tip.isFenced = true := by
  rcases List.mem_map.mp h with ⟨_, -, hblock⟩
  exact (Prod.mk.inj hblock).1

theorem hasMarks_of_mem_kinds {s : State} {fuel : Nat} {cs : List Char} {block : CodeBlock}
    (h : (true, block) ∈ s.kinds fuel cs) : s.tip.isFenced = true ∨ HasMarks cs := by
  fun_induction kinds s fuel cs with
  | case1 s cs => exact Or.inl (isFenced_of_mem_completed h)
  | case2 s fuel => exact Or.inl (isFenced_of_mem_completed h)
  | case3 s fuel cs hne next rest hfeed ih =>
      have hline := s.hasMarks_of_feed cs
      have hrest := s.suffix_feed cs
      rw [hfeed] at hline hrest
      -- The block was at the tip before the line, or it is completed by what follows.
      rcases List.mem_append.mp h with hnow | hlater
      · exact Or.inl (isFenced_of_mem_completed hnow)
      · rcases ih hlater with htip | hmarks
        · exact hline htip
        · exact Or.inr (hmarks.of_suffix hrest)

end State

/-- The kinds are only written down. -/
theorem map_kindedBlocks (text : String) :
    (kindedBlocks text).map Prod.snd = codeBlocks text :=
  State.append_kinds {} (text.toList.length + 1) text.toList

theorem hasMarks_of_mem_kindedBlocks {text : String} {block : CodeBlock}
    (h : (true, block) ∈ kindedBlocks text) : HasMarks text.toList :=
  (State.hasMarks_of_mem_kinds h).resolve_left Bool.false_ne_true

end Markdown

end Replatform
