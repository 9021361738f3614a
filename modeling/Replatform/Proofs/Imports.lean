import Mathlib.Data.Bool.AllAny
import Mathlib.Data.List.TakeWhile
import Replatform.Imports
import Replatform.Proofs.Text

/-!
# What the Forms Match

A form matches at a place if its keyword stands there, if what follows the keyword opens a specifier,
if there is one, and if what follows the specifier closes it. `match?_eq_some_iff` says this once, and
nothing else looks into the search at one place. The walk over the places of a text has a lemma for
each step: what a match took is passed over, and so is what none begins in.

Whatever the form and wherever it stands, a specifier that is found was read by `specifier?`, so it
holds no quote of either kind and can be put between quotes and be read off again.

A statement is a lead without quotes and semicolons, a specifier between two quotes of one kind, and a
closing behind it at the end of a line. A form that begins in the lead opens its specifier at the first
quote. No form begins with a quote or in the closing, and none begins inside of the specifier, because
what it would open there has no end on the line. So every form finds the specifier of the statement or
nothing, and goes on in the next line (`matchesFrom_statement`), however much of what it looks for is
spelled out in the lead and in the specifier.

## Main definitions

* `Imports.IsSpecifier`: What can be put between quotes and be found again.
* `Imports.closings`: What stands behind the closing quote of a statement.

## Theorems

* `match?_eq_some_iff`: What a form matches at a place.
* `isQuote_of_mem_scan`: The specifiers of a text hold no quote.
* `eq_of_body?`: A specifier is opened at the first quote.
* `match?_inside`: No form begins inside of a specifier.
* `matchesFrom_skip`, `matchesFrom_append`: What is passed over.
* `matchesFrom_statement`: What a form finds in a statement.
-/

namespace Replatform

namespace Imports

/-- A specifier is read up to the next quote. -/
theorem isQuote_of_mem_specifier? {cs specifier rest : List Char}
    (h : specifier? cs = some (specifier, rest)) {c : Char} (hc : c ∈ specifier) :
    isQuote c = false := by
  -- There is a specifier in one branch only, and it is everything in front of the quote.
  have hbody : specifier = cs.takeWhile fun c => !isQuote c && c != '\n' := by
    simp only [specifier?] at h
    split at h
    · split at h
      · rw [Option.some.injEq, Prod.mk.injEq] at h
        exact h.1.symm
      · exact absurd h (by simp only [reduceCtorEq, not_false_eq_true])
    · exact absurd h (by simp only [reduceCtorEq, not_false_eq_true])
  rw [hbody] at hc
  have htaken := List.mem_takeWhile_imp hc
  rw [Bool.and_eq_true, Bool.not_eq_true'] at htaken
  exact htaken.1

theorem match?_eq_some_iff {form : Form} {cs inside specifier rest : List Char} :
    form.match? cs = some (specifier, inside, rest) ↔
      ∃ after rest', cs = form.keyword.toList ++ after ∧ form.body? after = some inside ∧
        specifier? inside = some (specifier, rest') ∧ form.close? rest' = some rest := by
  unfold Form.match?
  by_cases hkeyword : form.keyword.toList.isPrefixOf cs = true
  · rw [if_pos hkeyword]
    rw [List.isPrefixOf_iff_prefix] at hkeyword
    rcases hkeyword with ⟨after, rfl⟩
    rw [← String.length_toList, List.drop_left]
    simp only [Option.bind_eq_bind, Option.bind_eq_some_iff, Option.pure_def, Option.some.injEq,
      Prod.mk.injEq, List.append_cancel_left_eq, Prod.exists]
    constructor
    · rintro ⟨_, hbody, _, rest', hspecifier, _, hclose, rfl, rfl, rfl⟩
      exact ⟨after, rest', rfl, hbody, hspecifier, hclose⟩
    · rintro ⟨_, rest', rfl, hbody, hspecifier, hclose⟩
      exact ⟨_, hbody, _, rest', hspecifier, _, hclose, rfl, rfl, rfl⟩
  · rw [if_neg hkeyword]
    refine iff_of_false nofun ?_
    rintro ⟨after, -, rfl, -⟩
    exact hkeyword (List.isPrefixOf_iff_prefix.mpr (List.prefix_append _ _))

/-- Whatever a form matches in a text was read as a specifier somewhere. -/
theorem of_mem_matchesFrom {form : Form} {cs : List Char} {position skip : Nat}
    {before : Option Char} {m : Nat × List Char}
    (h : m ∈ form.matchesFrom position skip before cs) :
    ∃ inside rest, specifier? inside = some (m.2, rest) := by
  -- A character belongs to a match that has been found, begins the next one, or is passed over.
  induction cs generalizing position skip before with
  | nil => exact absurd h List.not_mem_nil
  | cons c cs ih =>
      cases skip with
      | succ skip => exact ih h
      | zero =>
          rw [Form.matchesFrom] at h
          split at h
          · next specifier inside rest hmatch =>
              rcases List.mem_cons.mp h with rfl | h
              · split at hmatch
                · rcases match?_eq_some_iff.mp hmatch with ⟨_, rest', -, -, hspecifier, -⟩
                  exact ⟨inside, rest', hspecifier⟩
                · exact absurd hmatch (by simp only [reduceCtorEq, not_false_eq_true])
              · exact ih h
          · exact ih h

/-- The specifiers of a text hold no quote. -/
theorem isQuote_of_mem_scan {text specifier : String} (h : specifier ∈ scan text) {c : Char}
    (hc : c ∈ specifier.toList) : isQuote c = false := by
  rw [scan, List.mem_eraseDups, List.mem_map] at h
  rcases h with ⟨cs, hcs, rfl⟩
  rw [List.mem_filter, List.mem_map] at hcs
  rcases hcs.1 with ⟨m, hm, rfl⟩
  rw [mem_sortBy, found, List.mem_flatMap] at hm
  rcases hm with ⟨form, -, hm⟩
  rcases of_mem_matchesFrom hm with ⟨inside, rest, hread⟩
  rw [String.toList_ofList] at hc
  exact isQuote_of_mem_specifier? hread (Text.mem_of_mem_strip hc)

section Match

variable {form : Form} {cs inside specifier rest : List Char} {q c : Char}


/-- No keyword has any of these characters. -/
def isStop (c : Char) : Bool :=
  isQuote c || c == ')' || c == ';' || c == '\n'

theorem isStop_of_mem_keyword (hform : form ∈ forms) (hc : c ∈ form.keyword.toList) :
    isStop c = false := by
  have hall : forms.all fun form => form.keyword.toList.all fun c => !isStop c := by decide
  rw [List.all_eq_true] at hall
  exact Bool.not_eq_true' _ ▸ List.all_eq_true.mp (hall form hform) c hc

theorem keyword_ne_nil (hform : form ∈ forms) : form.keyword.toList ≠ [] := by
  have hall : forms.all fun form => !form.keyword.toList.isEmpty := by decide
  have hkeyword := List.all_eq_true.mp hall form hform
  rintro hnil
  rw [hnil] at hkeyword
  exact Bool.false_ne_true hkeyword

/-- No form begins with a character that no keyword has. -/
theorem match?_eq_none_of_isStop (hform : form ∈ forms) (hc : isStop c = true) (cs : List Char) :
    form.match? (c :: cs) = none := by
  refine Option.eq_none_iff_forall_ne_some.mpr ?_
  rintro ⟨specifier, inside, rest⟩ hmatch
  rcases match?_eq_some_iff.mp hmatch with ⟨after, -, hcs, -⟩
  cases hkeyword : form.keyword.toList with
  | nil => exact keyword_ne_nil hform hkeyword
  | cons k ks =>
      rw [hkeyword, List.cons_append, List.cons.injEq] at hcs
      have hk := isStop_of_mem_keyword hform (hkeyword ▸ List.mem_cons_self : k ∈ _)
      rw [← hcs.1, hc] at hk
      exact Bool.false_ne_true hk.symm

/-- What begins in front of a quote and has none ends in front of it. -/
theorem exists_of_append_eq (hq : isQuote q = true) {front back start after : List Char}
    (hstart : ∀ c ∈ start, isQuote c = false) (h : front ++ q :: back = start ++ after) :
    ∃ gap, front = start ++ gap ∧ after = gap ++ q :: back := by
  rcases List.append_eq_append_iff.mp h with ⟨cs, rfl, hafter⟩ | ⟨gap, hfront, hafter⟩
  · cases cs with
    | nil => exact ⟨[], by rw [List.append_nil, List.append_nil], hafter.symm⟩
    | cons c cs =>
        rw [List.cons_append, List.cons.injEq] at hafter
        have hc := hstart c (List.mem_append_right _ List.mem_cons_self)
        rw [← hafter.1, hq] at hc
        exact absurd hc.symm Bool.false_ne_true
  · exact ⟨gap, hfront, hafter⟩

theorem isQuote_of_mem_keyword (hform : form ∈ forms) : ∀ c ∈ form.keyword.toList, isQuote c = false := by
  intro c hc
  have hstop := isStop_of_mem_keyword hform hc
  simp only [isStop, Bool.or_eq_false_iff] at hstop
  exact hstop.1.1.1

/-- The characters between a keyword and a specifier. -/
def isOpen (c : Char) : Bool :=
  !isQuote c && c != ';'

theorem isBlank_of_isQuote (hq : isQuote q = true) : Text.isBlank q = false := by
  rw [isQuote, Bool.or_eq_true, beq_iff_eq, beq_iff_eq] at hq
  rcases hq with rfl | rfl
  · decide
  · decide

theorem dropBlanks_append_cons (hq : Text.isBlank q = false) (front back : List Char) :
    Text.dropBlanks (front ++ q :: back) = Text.dropBlanks front ++ q :: back := by
  have hstop : (q :: back).dropWhile Text.isBlank = q :: back :=
    List.dropWhile_cons_of_neg (hq ▸ Bool.false_ne_true)
  rw [Text.dropBlanks, Text.dropBlanks, List.dropWhile_append, hstop]
  cases front.dropWhile Text.isBlank with
  | nil => rfl
  | cons c cs => rfl

theorem dropBlanks_of_head {cs : List Char} (h : cs.head?.any Text.isBlank = false) :
    Text.dropBlanks cs = cs := by
  cases cs with
  | nil => rfl
  | cons c cs => exact List.dropWhile_cons_of_neg (Bool.eq_false_iff.mp h)

/-- What follows the first quote of a text is what is read after some blanks, if anything is. -/
theorem eq_of_afterQuote? {front back : List Char} (hq : isQuote q = true)
    (hfront : ∀ c ∈ front, isQuote c = false)
    (h : afterQuote? (Text.dropBlanks (front ++ q :: back)) = some inside) : inside = back := by
  rw [dropBlanks_append_cons (isBlank_of_isQuote hq)] at h
  cases hrest : Text.dropBlanks front with
  | nil =>
      rw [hrest, List.nil_append, afterQuote?, if_pos hq, Option.some.injEq] at h
      exact h.symm
  | cons c cs =>
      have hc := hfront c (Text.mem_of_mem_dropBlanks (hrest ▸ List.mem_cons_self))
      rw [hrest, List.cons_append, afterQuote?, if_neg (hc ▸ Bool.false_ne_true)] at h
      exact absurd h nofun

/-- What stands between a keyword and a quote is read up to the quote. -/
theorem takeWhile_gap {gap : List Char} (hq : isQuote q = true) (hgap : ∀ c ∈ gap, isOpen c = true)
    (back : List Char) : (gap ++ q :: back).takeWhile (fun c => !isQuote c && c != ';') = gap := by
  have hstop : ¬ isOpen q = true := by
    rw [isOpen, hq]
    exact Bool.false_ne_true
  calc (gap ++ q :: back).takeWhile isOpen = gap ++ (q :: back).takeWhile isOpen :=
        List.takeWhile_append_of_pos hgap
    _ = gap := by rw [List.takeWhile_cons_of_neg hstop, List.append_nil]

/-- A form opens a specifier at the first quote after its keyword, or not at all. -/
theorem eq_of_body? {gap back : List Char} (hq : isQuote q = true) (hgap : ∀ c ∈ gap, isOpen c = true)
    (h : form.body? (gap ++ q :: back) = some inside) : inside = back := by
  have hquotes : ∀ c ∈ gap, isQuote c = false := by
    intro c hc
    have hopen := hgap c hc
    rw [isOpen, Bool.and_eq_true, Bool.not_eq_true'] at hopen
    exact hopen.1
  -- What is read after blanks and a start without quotes is read in front of the same quote.
  have hstart : ∀ start after : List Char, (∀ c ∈ start, isQuote c = false) →
      Text.dropBlanks (gap ++ q :: back) = start ++ after →
      afterQuote? (Text.dropBlanks after) = some inside → inside = back := by
    intro start after hquotes' heq hread
    rw [dropBlanks_append_cons (isBlank_of_isQuote hq)] at heq
    rcases exists_of_append_eq hq hquotes' heq with ⟨gap', hgap', rfl⟩
    refine eq_of_afterQuote? hq (fun c hc => hquotes c ?_) hread
    exact Text.mem_of_mem_dropBlanks (hgap' ▸ List.mem_append_right start hc)
  cases form with
  | clause keyword bare =>
      simp only [Form.body?, takeWhile_gap hq hgap, List.drop_left] at h
      split at h
      · rw [afterQuote?, if_pos hq, Option.some.injEq] at h
        exact h.symm
      · exact absurd h nofun
  | call keyword =>
      simp only [Form.body?] at h
      split at h
      · next rest heq => exact hstart ['('] rest (List.all_iff_forall_prop.mp (by decide)) heq h
      · exact absurd h nofun
  | style =>
      simp only [Form.body?] at h
      split at h
      · split at h
        · next rest heq => exact hstart ['u', 'r', 'l', '('] rest (List.all_iff_forall_prop.mp (by decide)) heq h
        · exact eq_of_afterQuote? hq hquotes h
      · exact absurd h nofun

end Match

/-- A line ends here. -/
def EndsLine (cs : List Char) : Prop :=
  ∀ c ∈ cs.head?, c = '\n'

/-- What stands behind the closing quote of a statement. -/
def closings : List (List Char) :=
  [[';'], [')', ';']]

/-- What can be read back from between quotes and is kept when blanks are trimmed. -/
structure IsSpecifier (cs : List Char) : Prop where
  ne_nil : cs ≠ []
  plain : ∀ c ∈ cs, isQuote c = false ∧ Text.isBlank c = false

section Quoted

variable {form : Form} {specifier close rest inside rest' cs : List Char} {q c : Char}

/-- A specifier is read back up to its quote. -/
theorem specifier?_quoted (hspecifier : IsSpecifier specifier) (hq : isQuote q = true) :
    specifier? (specifier ++ q :: cs) = some (specifier, cs) := by
  have hbody : ∀ c ∈ specifier, (!isQuote c && c != '\n') = true := by
    intro c hc
    rw [Bool.and_eq_true, Bool.not_eq_true', bne_iff_ne]
    refine ⟨(hspecifier.plain c hc).1, ?_⟩
    rintro rfl
    exact absurd (hspecifier.plain _ hc).2 (by decide)
  have htaken : (specifier ++ q :: cs).takeWhile (fun c => !isQuote c && c != '\n') = specifier := by
    rw [List.takeWhile_append_of_pos hbody, List.takeWhile_cons_of_neg, List.append_nil]
    rw [hq]
    exact Bool.false_ne_true
  simp only [specifier?, htaken, List.drop_left]
  rw [if_pos (Bool.and_eq_true _ _ ▸ ⟨hq, decide_eq_true hspecifier.ne_nil⟩)]

/-- Behind a closing quote no specifier begins on the same line. -/
theorem specifier?_closing (hclose : close ∈ closings) (hrest : EndsLine rest) :
    specifier? (close ++ rest) = none := by
  have hbody : closings.all fun close => close.all fun c => !isQuote c && c != '\n' := by decide
  have htaken : (close ++ rest).takeWhile (fun c => !isQuote c && c != '\n') = close := by
    rw [List.takeWhile_append_of_pos (List.all_eq_true.mp (List.all_eq_true.mp hbody close hclose))]
    cases rest with
    | nil => exact List.append_nil close
    | cons c cs =>
        rw [hrest c rfl]
        exact List.append_nil close
  simp only [specifier?, htaken, List.drop_left]
  cases rest with
  | nil => rfl
  | cons c cs =>
      rw [hrest c rfl]
      rfl

/-- A form needs nothing behind the quote, or the parenthesis there. -/
theorem of_close? (hclose : close ∈ closings) (h : form.close? (close ++ rest) = some rest') :
    ∃ front back, close = front ++ back ∧ back ∈ closings ∧ rest' = back ++ rest := by
  cases form with
  | call keyword =>
      rcases List.mem_pair.mp hclose with rfl | rfl
      · exact absurd h nofun
      · refine ⟨[')'], [';'], rfl, by decide, ?_⟩
        exact (Option.some.inj h).symm
  | clause keyword bare => exact ⟨[], close, rfl, hclose, (Option.some.inj h).symm⟩
  | style => exact ⟨[], close, rfl, hclose, (Option.some.inj h).symm⟩

/-- What a form matches that begins in front of a specifier is that specifier. -/
theorem of_match?_before (hform : form ∈ forms) {front found : List Char}
    (hfront : ∀ c ∈ front, isOpen c = true) (hspecifier : IsSpecifier specifier) (hq : isQuote q = true)
    (h : form.match? (front ++ q :: (specifier ++ q :: cs)) = some (found, inside, rest')) :
    found = specifier ∧ inside = specifier ++ q :: cs ∧ form.close? cs = some rest' := by
  rcases match?_eq_some_iff.mp h with ⟨after, rest, hcs, hbody, hread, hclose⟩
  rcases exists_of_append_eq hq (isQuote_of_mem_keyword hform) hcs with ⟨gap, rfl, rfl⟩
  have hinside := eq_of_body? hq (fun c hc => hfront c (List.mem_append_right _ hc)) hbody
  rw [hinside, specifier?_quoted hspecifier hq, Option.some.injEq, Prod.mk.injEq] at hread
  rcases hread with ⟨rfl, rfl⟩
  exact ⟨rfl, hinside, hclose⟩

/-- No form begins inside of a specifier, of which some characters are left. -/
theorem match?_inside (hform : form ∈ forms) (hclose : close ∈ closings) (hrest : EndsLine rest)
    {left : List Char} (hleft : ∀ c ∈ left, isQuote c = false ∧ Text.isBlank c = false)
    (hq : isQuote q = true) : form.match? (left ++ q :: (close ++ rest)) = none := by
  refine Option.eq_none_iff_forall_ne_some.mpr ?_
  rintro ⟨specifier, inside, rest'⟩ hmatch
  rcases match?_eq_some_iff.mp hmatch with ⟨after, rest'', hcs, hbody, hread, -⟩
  rcases exists_of_append_eq hq (isQuote_of_mem_keyword hform) hcs with ⟨gap, rfl, rfl⟩
  have hgap : ∀ c ∈ gap, isQuote c = false ∧ Text.isBlank c = false := fun c hc =>
    hleft c (List.mem_append_right _ hc)
  -- There is no blank behind the keyword.
  have hhead : (gap ++ q :: (close ++ rest)).head?.any Text.isBlank = false := by
    cases gap with
    | nil => exact isBlank_of_isQuote hq
    | cons c gap => exact (hgap c List.mem_cons_self).2
  cases form with
  | clause keyword bare =>
      simp only [Form.body?] at hbody
      split at hbody
      · next hclause =>
          rw [isClause, Bool.and_eq_true, List.head?_takeWhile, Option.any_eq_true] at hclause
          rcases hclause.1 with ⟨c, hc, hblank⟩
          rw [Option.filter_eq_some_iff] at hc
          rw [hc.1, Option.any_some, hblank] at hhead
          exact absurd hhead.symm Bool.false_ne_true
      · exact absurd hbody nofun
  | style =>
      rw [Form.body?, hhead] at hbody
      exact absurd hbody nofun
  | call keyword =>
      simp only [Form.body?] at hbody
      split at hbody
      · next rest₀ heq =>
          rw [dropBlanks_of_head hhead] at heq
          cases gap with
          | nil =>
              rw [List.nil_append, List.cons.injEq] at heq
              rw [heq.1] at hq
              exact absurd hq (by decide)
          | cons c gap =>
              rw [List.cons_append, List.cons.injEq] at heq
              rw [List.forall_mem_cons] at hgap
              -- What is between these quotes is the rest of the line.
              rw [← heq.2] at hbody
              rw [eq_of_afterQuote? hq (fun c hc => (hgap.2 c hc).1) hbody,
                specifier?_closing hclose hrest] at hread
              exact absurd hread nofun
      · exact absurd hbody nofun

end Quoted

section Walk

variable {form : Form} {front rest : List Char} {position : Nat} {before : Option Char}

theorem getLast?_cons_or (c : Char) (cs : List Char) (before : Option Char) :
    (c :: cs).getLast?.or before = cs.getLast?.or (some c) := by
  rw [List.getLast?_cons]
  cases cs.getLast? with
  | none => rfl
  | some d => rfl

/-- What belongs to a match is passed over. -/
theorem matchesFrom_skip (form : Form) (position : Nat) (before : Option Char) (front rest : List Char) :
    form.matchesFrom position front.length before (front ++ rest) =
      form.matchesFrom (position + front.length) 0 (front.getLast?.or before) rest := by
  induction front generalizing position before with
  | nil => rfl
  | cons c cs ih =>
      rw [List.length_cons, List.cons_append, Form.matchesFrom, ih, getLast?_cons_or, Nat.add_assoc,
        Nat.add_comm 1]

/-- What no match begins in is passed over. -/
theorem matchesFrom_append (position : Nat) (before : Option Char)
    (hnone : ∀ a c b, front = a ++ c :: b → form.match? (c :: b ++ rest) = none) :
    form.matchesFrom position 0 before (front ++ rest) =
      form.matchesFrom (position + front.length) 0 (front.getLast?.or before) rest := by
  induction front generalizing position before with
  | nil => rfl
  | cons c cs ih =>
      have hfirst : form.match? (c :: (cs ++ rest)) = none := hnone [] c cs rfl
      rw [List.cons_append, Form.matchesFrom, hfirst, ite_self]
      simp only
      rw [ih _ _ fun a d b h => hnone (c :: a) d b (congrArg _ h), List.length_cons, getLast?_cons_or,
        Nat.add_assoc, Nat.add_comm 1]

theorem matchesFrom_of_none {c : Char} {cs : List Char} (position : Nat)
    (h : (!form.isWord || !before.any Text.isWord) = true → form.match? (c :: cs) = none) :
    form.matchesFrom position 0 before (c :: cs) = form.matchesFrom (position + 1) 0 (some c) cs := by
  rw [Form.matchesFrom]
  by_cases hfree : (!form.isWord || !before.any Text.isWord) = true
  · simp only [if_pos hfree, h hfree]
  · simp only [if_neg hfree]

theorem matchesFrom_of_some {c : Char} {cs specifier inside rest : List Char} (position : Nat)
    (hfree : (!form.isWord || !before.any Text.isWord) = true)
    (h : form.match? (c :: cs) = some (specifier, inside, rest)) :
    form.matchesFrom position 0 before (c :: cs) =
      (position + (cs.length + 1 - inside.length), specifier) ::
        form.matchesFrom (position + 1) (cs.length - rest.length) (some c) cs := by
  rw [Form.matchesFrom]
  simp only [if_pos hfree, h]

end Walk

section Statement

variable {form : Form} {specifier close rest : List Char} {q : Char}

theorem isStop_of_mem_closing (hclose : close ∈ closings) {c : Char} (hc : c ∈ close) :
    isStop c = true := by
  have hall : closings.all fun close => close.all isStop := by decide
  exact List.all_eq_true.mp (List.all_eq_true.mp hall close hclose) c hc

theorem isStop_of_isQuote (hq : isQuote q = true) : isStop q = true := by
  rw [isStop, hq]
  rfl

/-- No form begins behind the first quote of a statement. -/
theorem match?_from_quote (hform : form ∈ forms) (hspecifier : IsSpecifier specifier) (hq : isQuote q = true)
    (hclose : close ∈ closings) (hrest : EndsLine rest) (a : List Char) (c : Char) (b : List Char)
    (h : q :: (specifier ++ q :: close) = a ++ c :: b) : form.match? (c :: b ++ rest) = none := by
  -- A character is a quote, or in the specifier, or behind it.
  cases a with
  | nil =>
      rw [List.nil_append, List.cons.injEq] at h
      exact match?_eq_none_of_isStop hform (h.1 ▸ isStop_of_isQuote hq) _
  | cons d a =>
      rw [List.cons_append, List.cons.injEq] at h
      rcases List.append_eq_append_iff.mp h.2 with ⟨e, -, he⟩ | ⟨left, hleft, hcs⟩
      · have hc : c ∈ q :: close := he ▸ List.mem_append_right e List.mem_cons_self
        refine match?_eq_none_of_isStop hform ?_ _
        rcases List.mem_cons.mp hc with rfl | hc
        · exact isStop_of_isQuote hq
        · exact isStop_of_mem_closing hclose hc
      · rw [hcs, List.append_assoc, List.cons_append]
        refine match?_inside hform hclose hrest (fun e he => hspecifier.plain e ?_) hq
        exact hleft ▸ List.mem_append_right a he

theorem getLast?_append_closing (hclose : close ∈ closings) (front : List Char) (before : Option Char) :
    (front ++ close).getLast?.or before = some ';' := by
  rw [List.getLast?_append, Option.or_assoc]
  rcases List.mem_pair.mp hclose with rfl | rfl
  · rfl
  · rfl

theorem matchesFrom_closing (hform : form ∈ forms) (hclose : close ∈ closings) (position : Nat)
    (before : Option Char) : form.matchesFrom position 0 before (close ++ rest) =
      form.matchesFrom (position + close.length) 0 (some ';') rest := by
  have hlast : close.getLast?.or before = some ';' := getLast?_append_closing hclose [] before
  rw [matchesFrom_append, hlast]
  rintro a c b rfl
  exact match?_eq_none_of_isStop hform
    (isStop_of_mem_closing hclose (List.mem_append_right a List.mem_cons_self)) _

/-- A form finds the specifier of a statement or nothing, and goes on behind the statement. -/
theorem matchesFrom_statement (hform : form ∈ forms) (hspecifier : IsSpecifier specifier)
    (hq : isQuote q = true) (hclose : close ∈ closings) (hrest : EndsLine rest) {lead : List Char}
    (hlead : ∀ c ∈ lead, isOpen c = true) (position : Nat) (before : Option Char) :
    ∃ hits, form.matchesFrom position 0 before (lead ++ q :: (specifier ++ q :: (close ++ rest))) =
        hits ++ form.matchesFrom (position + (lead.length + specifier.length + close.length + 2)) 0
          (some ';') rest ∧
      (∀ m ∈ hits, m = (position + lead.length + 1, specifier)) ∧
      ∀ front keyword, lead = front ++ keyword → keyword ≠ [] →
        (form.match? (keyword ++ q :: (specifier ++ q :: (close ++ rest)))).isSome = true →
        (!form.isWord || !(front.getLast?.or before).any Text.isWord) = true → hits ≠ [] := by
  induction lead generalizing position before with
  | nil =>
      -- From the quote on there is nothing to be found.
      refine ⟨[], ?_, List.forall_mem_nil _, fun front keyword hsplit hne => ?_⟩
      · have hquoted : q :: (specifier ++ q :: (close ++ rest)) =
            q :: (specifier ++ q :: close) ++ rest := by
          simp only [List.cons_append, List.append_assoc]
        have hlast : (q :: (specifier ++ q :: close)).getLast?.or before = some ';' := by
          rw [← List.singleton_append, ← List.singleton_append (l := close), ← List.append_assoc,
            ← List.append_assoc]
          exact getLast?_append_closing hclose _ before
        rw [List.nil_append, List.nil_append, hquoted,
          matchesFrom_append _ _ (match?_from_quote hform hspecifier hq hclose hrest), hlast]
        congr 1
        simp only [List.length_cons, List.length_append, List.length_nil]
        omega
      · exact absurd (List.append_eq_nil_iff.mp hsplit.symm).2 hne
  | cons c lead ih =>
      -- The form matches here, and has then found the specifier, or it goes on behind this character.
      by_cases hmatch : (!form.isWord || !before.any Text.isWord) = true ∧
          (form.match? (c :: (lead ++ q :: (specifier ++ q :: (close ++ rest))))).isSome = true
      · rcases Option.isSome_iff_exists.mp hmatch.2 with ⟨⟨found, inside, rest'⟩, hsome⟩
        rcases of_match?_before hform hlead hspecifier hq hsome with ⟨rfl, rfl, hclosed⟩
        rcases of_close? hclose hclosed with ⟨front, back, rfl, hback, rfl⟩
        refine ⟨[(position + (c :: lead).length + 1, found)], ?_, List.forall_mem_singleton.mpr rfl, ?_⟩
        · -- The match ends in front of the last characters of the statement.
          have hpassed : lead ++ q :: (found ++ q :: (front ++ back ++ rest)) =
              (lead ++ q :: (found ++ q :: front)) ++ (back ++ rest) := by
            simp only [List.append_assoc, List.cons_append]
          have hskip : (lead ++ q :: (found ++ q :: (front ++ back ++ rest))).length -
              (back ++ rest).length = (lead ++ q :: (found ++ q :: front)).length := by
            rw [hpassed, List.length_append, Nat.add_sub_cancel]
          rw [List.cons_append, matchesFrom_of_some position hmatch.1 hsome, hskip, hpassed,
            matchesFrom_skip, matchesFrom_closing hform hback]
          simp only [List.length_append, List.length_cons, List.cons_append, List.nil_append]
          congr 2
          · omega
          · omega
        · exact fun _ _ _ _ _ _ => List.cons_ne_nil _ _
      · rcases ih (List.forall_mem_cons.mp hlead).2 (position + 1) (some c) with ⟨hits, heq, hhits, hown⟩
        refine ⟨hits, ?_, fun m hm => ?_, fun front keyword hsplit hne hsome hfree => ?_⟩
        · rw [List.cons_append, matchesFrom_of_none, heq]
          · congr 2
            rw [List.length_cons]
            omega
          · exact fun hfree => Option.not_isSome_iff_eq_none.mp fun hsome => hmatch ⟨hfree, hsome⟩
        · rw [hhits m hm, List.length_cons, Nat.add_assoc position, Nat.add_comm 1]
        · cases front with
          | nil =>
              rw [List.nil_append] at hsplit
              subst hsplit
              exact absurd ⟨hfree, hsome⟩ hmatch
          | cons d front =>
              rw [List.cons_append, List.cons.injEq] at hsplit
              rw [getLast?_cons_or, ← hsplit.1] at hfree
              exact hown front keyword hsplit.2 hne hsome hfree

end Statement

end Imports

end Replatform
