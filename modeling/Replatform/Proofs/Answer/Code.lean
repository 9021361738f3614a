import Mathlib.Data.Bool.AllAny
import Replatform.Answer.Code
import Replatform.Proofs.Markdown.Fenced
import Replatform.Proofs.Markdown.Kinds
import Replatform.Proofs.Path
import Replatform.Proofs.Text

/-!
# The Code That Is Found in an Answer

What is taken from an answer in which a file is wanted. An answer without the marks of a fence is
taken as it is, and one with the marks somewhere is searched for code.

The code is meant to be the first fenced block, and the search is for the first block of any kind. A
fenced block has the marks of a fence, so the search always takes place if there is one, and prose,
lists and quotes in front of it do no harm. An indented block in front of it is taken in its place.
`stripFences_firstFenced` says that nothing else can come between: The first fenced block is taken
if, and only if, no indented block with something in it stands before it, unless that block has the
same content.

A file is asked for between fences, with a language behind the first of them. While it is arriving the
last fence is missing. `stripFences_fenced` says that it makes no difference: What is shown of a file up
to some place is what would be taken if the file ended there. Only the blanks at the end of the file are
not kept as they are. This is as well, since the line feed in front of the last fence would belong to the
file, and some spaces at the end of a text that is cut off are lost.

## Main definitions

* `Answer.firstFenced?`: The fenced block that is wanted of an answer.
* `Answer.indentedBefore?`: The indented block that is taken in its place.
* `Answer.unfinished`, `Answer.finished`: A file between fences, without the last of them and with
  it.

## Theorems

* `Answer.stripFences_of_not_occurs`, `Answer.stripFences_of_occurs`: The two ways to take an
  answer.
* `Answer.find?_codeBlocks`: The block that is found.
* `Answer.stripFences_firstFenced`: When the first fenced block is taken.
* `Answer.stripFences_of_codeBlocks`: The code is taken if there is one block.
* `Answer.stripFences_fenced`: What is taken of a file between fences.
-/

namespace Replatform

namespace Answer

section Blocks

/-- The first fenced code block of an answer that is worth taking. -/
def firstFenced? (text : String) : Option Markdown.CodeBlock :=
  ((Markdown.kindedBlocks text).find? fun b => b.1 && isSubstantial b.2).map Prod.snd

/-- The first indented code block of an answer that is worth taking, among those that stand before
    every such fenced one. -/
def indentedBefore? (text : String) : Option Markdown.CodeBlock :=
  (((Markdown.kindedBlocks text).takeWhile fun b => !(b.1 && isSubstantial b.2)).find? fun b =>
    !b.1 && isSubstantial b.2).map Prod.snd

/-- Without the marks of a fence nothing is looked for in an answer. -/
theorem stripFences_of_not_occurs {text : String}
    (h : ∀ mark ∈ fenceMarks, Text.occurs mark text.toList = false) :
    stripFences text = Text.trim text := by
  have hmarks : ¬ (fenceMarks.any fun mark => Text.occurs mark text.toList) = true := by
    rw [Bool.not_eq_true, List.any_eq_false]
    exact fun mark hmem => Bool.eq_false_iff.mp (h mark hmem)
  rw [stripFences, if_neg hmarks]

/-- With the marks of a fence somewhere in an answer, the first code that is worth it is taken. -/
theorem stripFences_of_occurs {text : String}
    (h : ¬ ∀ mark ∈ fenceMarks, Text.occurs mark text.toList = false) :
    stripFences text =
      match (Markdown.codeBlocks text).find? isSubstantial with
      | some block => tidy block.code
      | none => Text.trim text := by
  have hmarks : (fenceMarks.any fun mark => Text.occurs mark text.toList) = true := by
    rw [List.any_eq_true]
    rcases Classical.not_forall.mp h with ⟨mark, hmark⟩
    rcases Classical.not_imp.mp hmark with ⟨hmem, hoccurs⟩
    rw [Bool.not_eq_false] at hoccurs
    exact ⟨mark, hmem, hoccurs⟩
  unfold stripFences
  exact if_pos hmarks

/-- An answer without code is taken as it is, whether it has the marks of a fence or not. -/
theorem stripFences_of_codeBlocks_eq_nil {text : String} (h : Markdown.codeBlocks text = []) :
    stripFences text = Text.trim text := by
  by_cases hmarks : ∀ mark ∈ fenceMarks, Text.occurs mark text.toList = false
  · exact stripFences_of_not_occurs hmarks
  · rw [stripFences_of_occurs hmarks, h]
    rfl

/-- A text with a fenced block has the marks that are looked for first. -/
theorem occurs_of_mem_kindedBlocks {text : String} {block : Markdown.CodeBlock}
    (h : (true, block) ∈ Markdown.kindedBlocks text) :
    ¬ ∀ mark ∈ fenceMarks, Text.occurs mark text.toList = false := by
  rcases Markdown.hasMarks_of_mem_kindedBlocks h with ⟨c, hc, hinfix⟩
  have hmem : List.replicate 3 c ∈ fenceMarks := by
    rcases hc with rfl | rfl
    · exact List.mem_cons_self
    · exact List.mem_cons_of_mem _ List.mem_cons_self
  intro hnone
  have hoccurs := (Text.occurs_iff _ _).mpr hinfix
  rw [hnone _ hmem] at hoccurs
  exact Bool.false_ne_true hoccurs

/-- What is first of two kinds is the first of one kind in front of the other, or else the first of
    the other. -/
theorem find?_or {α : Type} (p q : α → Bool) (l : List α) :
    l.find? (fun a => p a || q a) = ((l.takeWhile fun a => !p a).find? q).or (l.find? p) := by
  induction l with
  | nil => rfl
  | cons a l ih =>
      cases hp : p a with
      | true => simp [hp]
      | false =>
          cases hq : q a with
          | true => simp [hp, hq]
          | false => simp [hp, hq, ih]

/-- The first code that is worth taking is an indented block in front of the fenced ones, or else
    the first of these. -/
theorem find?_codeBlocks (text : String) :
    (Markdown.codeBlocks text).find? isSubstantial =
      (indentedBefore? text).or (firstFenced? text) := by
  have hkinds : isSubstantial ∘ Prod.snd =
      fun b : Bool × Markdown.CodeBlock =>
        b.1 && isSubstantial b.2 || !b.1 && isSubstantial b.2 := by
    funext b
    cases b.1 <;> simp
  rw [← Markdown.map_kindedBlocks, List.find?_map, hkinds, find?_or, Option.map_or]
  rfl

/-- The first fenced block of an answer that has a language or is not blank is taken, without the
    blanks at its end, if no indented block worth taking stands before it. If one does, the first of
    them is taken, so what is taken is right only if it has the same content. Nothing else in front
    of the block matters. An answer without any code is taken without the blanks around it. -/
theorem stripFences_firstFenced (text : String) :
    (∀ block, firstFenced? text = some block →
      stripFences text = tidy ((indentedBefore? text).getD block).code ∧
      (stripFences text = tidy block.code ↔
        ∀ indented, indentedBefore? text = some indented →
          tidy indented.code = tidy block.code)) ∧
      (Markdown.codeBlocks text = [] → stripFences text = Text.trim text) := by
  refine ⟨fun block hfirst => ?_, stripFences_of_codeBlocks_eq_nil⟩
  have hmem : (true, block) ∈ Markdown.kindedBlocks text := by
    rcases Option.map_eq_some_iff.mp hfirst with ⟨⟨kind, found⟩, hfind, rfl⟩
    have hkind := List.find?_some (p := fun b : Bool × _ => b.1 && isSubstantial b.2) hfind
    rw [← (Bool.and_eq_true_iff.mp hkind).1]
    exact List.mem_of_find?_eq_some hfind
  have htaken : stripFences text = tidy ((indentedBefore? text).getD block).code := by
    rw [stripFences_of_occurs (occurs_of_mem_kindedBlocks hmem), find?_codeBlocks, hfirst]
    cases indentedBefore? text <;> rfl
  refine ⟨htaken, ?_⟩
  rw [htaken]
  cases indentedBefore? text with
  | none => exact iff_of_true rfl fun _ h => absurd h nofun
  | some indented => simp only [Option.getD_some, Option.some.injEq, forall_eq']

/-- A fence in a list item behind some prose is found. -/
theorem stripFences_firstFenced_in_item :
    let text := "Here it is:\n\n1. The file\n\n   ```ts\n   real\n   ```\n"
    let block : Markdown.CodeBlock := ⟨some "ts", "real\n"⟩
    firstFenced? text = some block ∧ indentedBefore? text = none ∧
      stripFences text = tidy block.code := by
  intro text block
  have hfirst : firstFenced? text = some block := by decide +kernel
  have hbefore : indentedBefore? text = none := by decide +kernel
  refine ⟨hfirst, hbefore, ((stripFences_firstFenced text).1 block hfirst).2.mpr ?_⟩
  rw [hbefore]
  exact fun _ h => absurd h nofun

/-- An indented line in front of the fence is taken for the file. -/
theorem stripFences_indented_before_fenced :
    let text := "Here:\n\n    old\n\n```ts\nreal\n```\n"
    let block : Markdown.CodeBlock := ⟨some "ts", "real\n"⟩
    firstFenced? text = some block ∧ stripFences text = "old\n" ∧
      stripFences text ≠ tidy block.code := by
  decide +kernel

end Blocks

/-- Three backticks. -/
def ticks : String :=
  String.ofList (List.replicate 3 Markdown.backtick)

/-- A file behind a fence with a language. -/
def unfinished (word content : String) : String :=
  ticks ++ word ++ "\n" ++ content

/-- A file between fences. -/
def finished (word content : String) : String :=
  unfinished word content ++ "\n" ++ ticks

section Tidy

theorem tidy_eq (code : String) :
    tidy code = if Text.isBlankText code = true then "" else Text.trimEnd code ++ "\n" := by
  have hblank : Text.trimEnd code = "" ↔ Text.isBlankText code = true := by
    rw [Text.trimEnd, String.ofList_eq_empty_iff, Text.dropBlanksEnd_eq_nil_iff, Text.isBlankText,
      List.all_eq_true]
  simp only [tidy, hblank]

/-- Blanks at the end make no difference. -/
theorem tidy_append {blanks : List Char} (h : ∀ c ∈ blanks, Text.isBlank c = true)
    (code : List Char) : tidy (String.ofList (code ++ blanks)) = tidy (String.ofList code) := by
  simp only [tidy, Text.trimEnd, String.toList_ofList, Text.dropBlanksEnd_append h]

end Tidy

/-- Of a text that begins with backticks and is one block with a language, the code is taken. -/
theorem stripFences_of_codeBlocks {text language code : String}
    (hticks : ticks.toList <+: text.toList)
    (h : Markdown.codeBlocks text = [⟨some language, code⟩]) : stripFences text = tidy code := by
  have hmarks : ¬ ∀ mark ∈ fenceMarks, Text.occurs mark text.toList = false := by
    intro hnone
    have hmem : ticks.toList ∈ fenceMarks := by decide
    have hoccurs := (Text.occurs_iff _ _).mpr hticks.isInfix
    rw [hnone _ hmem] at hoccurs
    exact Bool.false_ne_true hoccurs
  rw [stripFences_of_occurs hmarks, h, List.find?_cons_of_pos (by rfl)]

section Lines

theorem flatMap_append_eq_intercalate {c : Char} (lines : List (List Char)) (last : List Char) :
    lines.flatMap (· ++ [c]) ++ last = [c].intercalate (lines ++ [last]) := by
  induction lines with
  | nil => simp
  | cons line lines ih =>
      rw [List.flatMap_cons, List.append_assoc, ih, List.cons_append]
      simp [List.intercalate_cons_of_ne_nil]

/-- A text is lines that end, and a last one that does not. -/
theorem exists_lines (cs : List Char) :
    ∃ lines last, cs.splitOn '\n' = lines ++ [last] ∧ cs = lines.flatMap (· ++ ['\n']) ++ last := by
  rcases List.eq_nil_or_concat (cs.splitOn '\n') with hnil | ⟨lines, last, hsplit⟩
  · exact absurd hnil (List.splitOn_ne_nil '\n' cs)
  · rw [List.concat_eq_append] at hsplit
    refine ⟨lines, last, hsplit, ?_⟩
    rw [flatMap_append_eq_intercalate, ← hsplit, List.intercalate_splitOn]

/-- The lines of a text without carriage returns end where lines end. -/
theorem isLine_of_mem_splitOn {cs line : List Char} (hreturn : '\r' ∉ cs)
    (hline : line ∈ cs.splitOn '\n') : Markdown.IsLine line := by
  refine ⟨Path.not_mem_of_mem_splitOn hline, fun hmem => hreturn ?_⟩
  rcases exists_lines cs with ⟨lines, last, hsplit, hcs⟩
  rw [hsplit, List.mem_append, List.mem_singleton] at hline
  rw [hcs, List.mem_append, List.mem_flatMap]
  rcases hline with hline | rfl
  · exact Or.inl ⟨line, hline, List.mem_append_left _ hmem⟩
  · exact Or.inr hmem

end Lines

section Files

variable {word content : String}

/-- The fence of a file with a language. -/
def fenceOf (word : String) : Markdown.Fence :=
  { mark := Markdown.backtick, length := 3, indent := 0,
    language := Markdown.language? (word.toList ++ ['\n']) }

/-- What the lines behind the first leave is what is taken. -/
theorem stripFences_of_leaves {text : String} {rest code : List Char} (hne : word ≠ "")
    (hword : ∀ c ∈ word.toList, Markdown.IsWordChar c)
    (htext : text.toList = ticks.toList ++ (word.toList ++ '\n' :: rest))
    (h : Markdown.State.Leaves (fenceOf word) rest code) :
    stripFences text = tidy (String.ofList code) := by
  have hticks : ticks.toList = List.replicate 3 Markdown.backtick := String.toList_ofList
  have htick : Markdown.backtick ∉ word.toList := fun hmem =>
    absurd (hword _ hmem) (by decide)
  have hfeed : '\n' ∉ word.toList := fun hmem => absurd (hword _ hmem) (by decide)
  have hfence : Markdown.openingFence? text.toList =
      some (Markdown.backtick, 3, word.toList ++ ['\n']) := by
    rw [htext, hticks, Markdown.openingFence?_append (Or.inl rfl) le_rfl htick hfeed]
  have hopening : '\n' ∉ ticks.toList ++ word.toList :=
    List.not_mem_append (by decide) hfeed
  have hblocks :=
    Markdown.codeBlocks_of_leaves (htext.trans (List.append_assoc _ _ _).symm) hopening
    hfence h
  have hword' : word.toList ≠ [] := String.toList_eq_nil_iff.not.mpr hne
  rw [Markdown.language?_word hword' hword] at hblocks
  exact stripFences_of_codeBlocks (htext ▸ List.prefix_append _ _) hblocks

/-- No line of the file is taken for its end. -/
def IsFenceable (content : String) : Prop :=
  '\r' ∉ content.toList ∧
    ∀ line ∈ content.toList.splitOn '\n', ¬ Markdown.ClosesFence Markdown.backtick 3 line

theorem IsFenceable.exists_lines (h : IsFenceable content) :
    ∃ lines last, content.toList = lines.flatMap (· ++ ['\n']) ++ last ∧
      ∀ line ∈ lines ++ [last],
        Markdown.IsLine line ∧ ¬ Markdown.ClosesFence Markdown.backtick 3 line := by
  rcases Answer.exists_lines content.toList with ⟨lines, last, hsplit, hcontent⟩
  refine ⟨lines, last, hcontent, fun line hline => ?_⟩
  rw [← hsplit] at hline
  exact ⟨isLine_of_mem_splitOn h.1 hline, h.2 line hline⟩

theorem isLine_backtick : Markdown.IsLine [Markdown.backtick] :=
  ⟨by decide, by decide⟩

theorem stripFences_unfinished (hne : word ≠ "")
    (hword : ∀ c ∈ word.toList, Markdown.IsWordChar c) (h : IsFenceable content) :
    stripFences (unfinished word content) = tidy content := by
  have htext : (unfinished word content).toList =
      ticks.toList ++ (word.toList ++ '\n' :: content.toList) := by
    simp [unfinished]
  rcases h.exists_lines with ⟨lines, last, hcontent, hlines⟩
  have hinit := fun line hline => hlines line (List.mem_append_left [last] hline)
  have hlast := hlines last (List.mem_append_right lines List.mem_cons_self)
  -- The spaces of the last line may be lost, which leaves the same without the blanks.
  have hends : Markdown.State.Leaves (fenceOf word) last last ∨
      Markdown.State.Leaves (fenceOf word) last [] ∧ ∀ c ∈ last, c = ' ' :=
    Markdown.State.leaves_last rfl isLine_backtick hlast.1 hlast.2
  rcases hends with hleaves | ⟨hleaves, hspaces⟩
  · have hall := hleaves.after_lines rfl isLine_backtick hinit
    rw [← hcontent] at hall
    rw [stripFences_of_leaves hne hword htext hall, String.ofList_toList]
  · have hall := hleaves.after_lines rfl isLine_backtick hinit
    rw [← hcontent, List.append_nil] at hall
    have hblank : ∀ c ∈ last, Text.isBlank c = true := fun c hc => by
      rw [hspaces c hc]
      rfl
    rw [stripFences_of_leaves hne hword htext hall, ← tidy_append hblank, ← hcontent,
      String.ofList_toList]

theorem stripFences_finished (hne : word ≠ "") (hword : ∀ c ∈ word.toList, Markdown.IsWordChar c)
    (h : IsFenceable content) : stripFences (finished word content) = tidy content := by
  have htext : (finished word content).toList =
      ticks.toList ++ (word.toList ++ '\n' :: (content.toList ++ '\n' :: ticks.toList)) := by
    simp [finished, unfinished]
  rcases h.exists_lines with ⟨lines, last, hcontent, hlines⟩
  have hfeed : (lines ++ [last]).flatMap (· ++ ['\n']) = content.toList ++ ['\n'] := by
    rw [List.flatMap_append, List.flatMap_singleton, ← List.append_assoc, ← hcontent]
  have hticks : Markdown.State.Leaves (fenceOf word) ticks.toList [] :=
    String.toList_ofList.symm ▸ Markdown.State.leaves_closingFence rfl isLine_backtick rfl
  have hall := hticks.after_lines rfl isLine_backtick hlines
  rw [hfeed, List.append_nil, List.append_assoc, List.singleton_append] at hall
  have hblank : ∀ c ∈ ['\n'], Text.isBlank c = true :=
    List.forall_mem_singleton.mpr (by decide)
  rw [stripFences_of_leaves hne hword htext hall, tidy_append hblank, String.ofList_toList]

/-- A file between fences is taken as it is, except for the blanks at its end, and so is the part of
    it that has arrived. -/
theorem stripFences_fenced (hne : word ≠ "") (hword : ∀ c ∈ word.toList, Markdown.IsWordChar c)
    (hreturn : '\r' ∉ content.toList)
    (hopen : ∀ line ∈ content.toList.splitOn '\n',
      ¬ Markdown.ClosesFence Markdown.backtick 3 line) :
    let shown := if Text.isBlankText content = true then "" else Text.trimEnd content ++ "\n"
    stripFences (finished word content) = shown ∧
      stripFences (unfinished word content) = shown := by
  intro shown
  have htidy : tidy content = shown := tidy_eq content
  rw [← htidy]
  exact ⟨stripFences_finished hne hword ⟨hreturn, hopen⟩,
    stripFences_unfinished hne hword ⟨hreturn, hopen⟩⟩

/-- Fences of another kind, an opening fence and blank lines stay in the file. -/
theorem stripFences_fenced_markdown :
    let content := "# Use\n\n    \ttab\n~~~\n" ++ ticks ++ "ts\nlet x;\n~~~\n  "
    stripFences (finished "md" content) = Text.trimEnd content ++ "\n" ∧
      stripFences (unfinished "md" content) = Text.trimEnd content ++ "\n" := by
  intro content
  have hblank : ¬ Text.isBlankText content = true := by decide +kernel
  have hword : ∀ c ∈ "md".toList, Markdown.IsWordChar c := List.all_iff_forall_prop.mp (by decide)
  have hshown := @stripFences_fenced "md" content (by decide) hword (by decide +kernel)
    (by decide +kernel)
  rwa [if_neg hblank] at hshown

end Files

end Answer

end Replatform
