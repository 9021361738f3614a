import Replatform.Proofs.Imports
import Replatform.Proofs.Table

/-!
# What Is Found in a Source

A source is written here by a list of statements, one on each line. `source` writes it, and `scan_source`
reads it back: what is found is what the statements are about, each specifier once and in the order in
which it first occurs.

The forms look through the whole text one after another, and each goes its own way. What one of them does
in one line was said for a line of any shape, so it is left to see that a statement has that shape
(`toList_text`, `isOpen_lead`) and that it is matched by the form it is written in (`isSome_match?`). It
may be matched by other forms too. That only repeats a place where it has been found, and with the
places in order nothing of it is left.

The form of `const import = require("…")` is no exception. The words in front of the quote may be
keywords of other forms, because these open the specifier at the same quote.

## Main definitions

* `Imports.Statement`, `Imports.Statement.text`: An import statement, and how it is written.
* `Imports.source`: A text with one statement on each line.
* `Imports.places`: The specifiers of some statements and where they stand.

## Theorems

* `matchesFrom_source_cons`: What a form finds in the first line.
* `mem_matchesFrom_source`: What all forms find together.
* `scan_source`: A scan finds what the statements are about.
-/

namespace Replatform

namespace Imports

/-- The ways to write an import. -/
inductive Wording where
  /-- `import x from S` -/
  | named
  /-- `import S` -/
  | bare
  /-- `export { y } from S` -/
  | exported
  /-- `const c = require(S)` -/
  | required
  /-- `await import(S)` -/
  | awaited
  /-- `@import S` -/
  | styled
deriving DecidableEq

/-- The form that an import is written in. -/
def Wording.form : Wording → Form
  | .named | .bare => .clause "import" true
  | .exported => .clause "export" false
  | .required => .call "require"
  | .awaited => .call "import"
  | .styled => .style

/-- An import statement. -/
structure Statement where
  wording : Wording
  /-- What the statement gives a name to, if it does. -/
  name : String
  quote : Char
  specifier : String
  isOpen_name : ∀ c ∈ name.toList, isOpen c = true
  isQuote_quote : isQuote quote = true
  isSpecifier : IsSpecifier specifier.toList

namespace Statement

/-- The specifier between quotes. -/
def quoted (s : Statement) : String :=
  s.quote.toString ++ s.specifier ++ s.quote.toString

/-- The text of a statement. -/
def text (s : Statement) : String :=
  match s.wording with
  | .named => "import " ++ s.name ++ " from " ++ s.quoted ++ ";"
  | .bare => "import " ++ s.quoted ++ ";"
  | .exported => "export \x7b " ++ s.name ++ " \x7d from " ++ s.quoted ++ ";"
  | .required => "const " ++ s.name ++ " = require(" ++ s.quoted ++ ");"
  | .awaited => "await import(" ++ s.quoted ++ ");"
  | .styled => "@import " ++ s.quoted ++ ";"

/-- What stands in front of the keyword. -/
def opening (s : Statement) : List Char :=
  match s.wording with
  | .required => "const ".toList ++ s.name.toList ++ " = ".toList
  | .awaited => "await ".toList
  | _ => []

/-- What stands between the keyword and the quote. -/
def gap (s : Statement) : List Char :=
  match s.wording with
  | .named => ' ' :: (s.name.toList ++ " from ".toList)
  | .exported => ' ' :: ("\x7b ".toList ++ s.name.toList ++ " \x7d".toList ++ " from ".toList)
  | .required | .awaited => ['(']
  | .bare | .styled => [' ']

/-- What stands behind the closing quote. -/
def closing (s : Statement) : List Char :=
  match s.wording with
  | .required | .awaited => [')', ';']
  | _ => [';']

/-- What stands in front of the opening quote. -/
def lead (s : Statement) : List Char :=
  s.opening ++ (s.wording.form.keyword.toList ++ s.gap)

variable (s : Statement)

theorem toList_text : s.text.toList =
    s.lead ++ s.quote :: (s.specifier.toList ++ s.quote :: s.closing) := by
  have hquoted : s.quoted.toList = s.quote :: (s.specifier.toList ++ [s.quote]) := by
    rw [quoted, String.toList_append, String.toList_append, Char.toString_eq_singleton, String.toList_singleton]
    rfl
  unfold text lead opening gap closing
  cases s.wording <;> simp [hquoted, Wording.form, Form.keyword]

theorem closing_mem : s.closing ∈ closings := by
  unfold closing
  cases s.wording <;> decide

/-- There is no quote in front of the opening one, and no semicolon. -/
theorem isOpen_lead : ∀ c ∈ s.lead, isOpen c = true := by
  have hname : s.name.toList.all isOpen = true := List.all_eq_true.mpr s.isOpen_name
  rw [← List.all_eq_true]
  unfold lead opening gap
  cases s.wording with
  | named | exported =>
      simp only [List.all_append, List.all_cons, hname]
      decide
  | required =>
      simp only [List.all_append, hname]
      decide
  | bare => rfl
  | awaited => rfl
  | styled => rfl

/-- The keyword of a statement stands at the beginning of a word. -/
theorem any_isWord_opening {before : Option Char} (hbefore : before.any Text.isWord = false) :
    (s.opening.getLast?.or before).any Text.isWord = false := by
  have hblank : Text.isWord ' ' = false := by decide
  unfold opening
  cases s.wording with
  | named | bare | exported | styled => exact hbefore
  | required =>
      have hlast : " = ".toList.getLast? = some ' ' := by decide
      rw [List.getLast?_append, hlast]
      exact hblank
  | awaited =>
      have hlast : "await ".toList.getLast? = some ' ' := by decide
      rw [hlast]
      exact hblank

end Statement

/-- Whatever ends in `from` makes an import clause. -/
theorem isClause_from (bare : Bool) (words : List Char) :
    isClause bare (' ' :: (words ++ " from ".toList)) = true := by
  -- Only the last blank is trimmed, and `from` is the end of the rest with a blank before it.
  have hgap : ' ' :: (words ++ " from ".toList) = (' ' :: words ++ [' ', 'f', 'r', 'o']) ++ ['m', ' '] := by
    simp
  have hwords : Text.dropBlanksEnd (' ' :: (words ++ " from ".toList)) =
      ' ' :: words ++ [' '] ++ "from".toList := by
    rw [hgap, Text.dropBlanksEnd_append_cons (by decide)]
    have hnone : Text.dropBlanksEnd [' '] = [] := by decide
    rw [hnone]
    simp
  have hfrom : "from".toList.isSuffixOf (' ' :: words ++ [' '] ++ "from".toList) = true :=
    List.isSuffixOf_iff_suffix.mpr (List.suffix_append _ _)
  have hlength : 5 ≤ (' ' :: words ++ [' '] ++ "from".toList).length := by
    rw [List.length_append]
    simp
  simp only [isClause, hwords, hfrom, decide_eq_true hlength, Bool.and_true, Bool.or_true, List.head?_cons,
    Option.any_some]
  decide

theorem body?_clause {keyword : String} {bare : Bool} {gap : List Char} {q : Char} (hq : isQuote q = true)
    (hgap : ∀ c ∈ gap, isOpen c = true) (hclause : isClause bare gap = true) (back : List Char) :
    (Form.clause keyword bare).body? (gap ++ q :: back) = some back := by
  simp only [Form.body?, takeWhile_gap hq hgap, List.drop_left]
  rw [if_pos hclause, afterQuote?, if_pos hq]

namespace Statement

variable (s : Statement)

/-- The form of a statement opens the specifier at its quote. -/
theorem body?_gap (back : List Char) :
    s.wording.form.body? (s.gap ++ s.quote :: back) = some back := by
  have hq := s.isQuote_quote
  have hgap : ∀ c ∈ s.gap, isOpen c = true := fun c hc =>
    s.isOpen_lead c (List.mem_append_right _ (List.mem_append_right _ hc))
  have hquote : s.quote = '\'' ∨ s.quote = '"' := by
    rwa [isQuote, Bool.or_eq_true, beq_iff_eq, beq_iff_eq] at hq
  unfold gap at hgap ⊢
  cases hwording : s.wording with
  | named =>
      rw [hwording] at hgap
      exact body?_clause hq hgap (isClause_from true s.name.toList) back
  | bare =>
      rw [hwording] at hgap
      have hblank : isClause true [' '] = true := by decide
      exact body?_clause hq hgap hblank back
  | exported =>
      rw [hwording] at hgap
      exact body?_clause hq hgap (isClause_from false ("\x7b ".toList ++ s.name.toList ++ " \x7d".toList)) back
  | required | awaited | styled =>
      rcases hquote with hquote | hquote
      · rw [hquote]
        rfl
      · rw [hquote]
        rfl

/-- The form of a statement matches it from the keyword on. -/
theorem isSome_match? (rest : List Char) :
    (s.wording.form.match? (s.wording.form.keyword.toList ++ s.gap ++
      s.quote :: (s.specifier.toList ++ s.quote :: (s.closing ++ rest)))).isSome = true := by
  have hclose : (s.wording.form.close? (s.closing ++ rest)).isSome = true := by
    unfold closing
    cases s.wording <;> rfl
  rcases Option.isSome_iff_exists.mp hclose with ⟨rest', hclose⟩
  have hmatch := match?_eq_some_iff.mpr ⟨_, _, List.append_assoc s.wording.form.keyword.toList s.gap _,
    s.body?_gap _, specifier?_quoted s.isSpecifier s.isQuote_quote, hclose⟩
  rw [hmatch]
  rfl

end Statement

/-- A text with one statement on each line. -/
def source (statements : List Statement) : String :=
  "\n".intercalate (statements.map Statement.text)

/-- Where the specifiers of some statements stand, the first of which begins at some position. -/
def places : Nat → List Statement → List (Nat × List Char)
  | _, [] => []
  | position, s :: statements =>
    (position + s.lead.length + 1, s.specifier.toList) ::
      places (position + s.text.toList.length + 1) statements

section Source

variable {form : Form} {ending : List Char} {before : Option Char}

theorem toList_source_cons (s : Statement) (statements : List Statement) :
    (source (s :: statements)).toList = s.text.toList ++
      if statements = [] then [] else '\n' :: (source statements).toList := by
  rw [source, source, String.toList_intercalate, String.toList_intercalate]
  cases statements with
  | nil => simp
  | cons s' statements => simp

theorem matchesFrom_newline (hform : form ∈ forms) (position : Nat) (before : Option Char) (cs : List Char) :
    form.matchesFrom position 0 before ('\n' :: cs) = form.matchesFrom (position + 1) 0 (some '\n') cs :=
  matchesFrom_of_none position fun _ => match?_eq_none_of_isStop hform (by decide) cs

theorem matchesFrom_ending (hform : form ∈ forms) (hending : ending = [] ∨ ending = ['\n']) (position : Nat)
    (before : Option Char) : form.matchesFrom position 0 before ending = [] := by
  rcases hending with rfl | rfl
  · rfl
  · exact matchesFrom_newline hform position before []

/-- A form finds in a line what is said there or nothing, and goes on in the next line. -/
theorem matchesFrom_source_cons (hform : form ∈ forms) (hending : ending = [] ∨ ending = ['\n'])
    (hbefore : before.any Text.isWord = false) (position : Nat) (s : Statement)
    (statements : List Statement) :
    ∃ hits, form.matchesFrom position 0 before ((source (s :: statements)).toList ++ ending) =
        hits ++ form.matchesFrom (position + s.text.toList.length + 1) 0 (some '\n')
          ((source statements).toList ++ ending) ∧
      (∀ m ∈ hits, m = (position + s.lead.length + 1, s.specifier.toList)) ∧
      (s.wording.form = form → hits ≠ []) := by
  have htext := s.toList_text
  have hlength : s.text.toList.length =
      s.lead.length + s.specifier.toList.length + s.closing.length + 2 := by
    rw [htext]
    simp only [List.length_append, List.length_cons]
    omega
  have hfound : ∀ rest, EndsLine rest → ∃ hits,
      form.matchesFrom position 0 before (s.text.toList ++ rest) =
        hits ++ form.matchesFrom (position + s.text.toList.length) 0 (some ';') rest ∧
      (∀ m ∈ hits, m = (position + s.lead.length + 1, s.specifier.toList)) ∧
      (s.wording.form = form → hits ≠ []) := by
    intro rest hrest
    rcases matchesFrom_statement hform s.isSpecifier s.isQuote_quote s.closing_mem hrest s.isOpen_lead
      position before with ⟨hits, heq, hhits, hown⟩
    refine ⟨hits, ?_, hhits, ?_⟩
    · rw [hlength, ← heq, htext]
      simp only [List.append_assoc, List.cons_append]
    · rintro rfl
      refine hown s.opening _ rfl ?_ (s.isSome_match? rest) ?_
      · exact List.append_ne_nil_of_left_ne_nil (keyword_ne_nil hform) s.gap
      · rw [s.any_isWord_opening hbefore, Bool.not_false, Bool.or_true]
  rw [toList_source_cons]
  cases statements with
  | nil =>
      have hrest : EndsLine ending := by
        rcases hending with rfl | rfl
        · exact nofun
        · rintro _ ⟨⟩
          rfl
      rcases hfound ending hrest with ⟨hits, heq, hhits⟩
      refine ⟨hits, ?_, hhits⟩
      have hnone : (source []).toList ++ ending = ending := rfl
      rw [if_pos rfl, List.append_nil, heq, hnone, matchesFrom_ending hform hending,
        matchesFrom_ending hform hending]
  | cons s' statements =>
      rcases hfound ('\n' :: ((source (s' :: statements)).toList ++ ending)) (by rintro _ ⟨⟩; rfl) with
        ⟨hits, heq, hhits⟩
      refine ⟨hits, ?_, hhits⟩
      rw [if_neg (List.cons_ne_nil _ _), List.append_assoc, List.cons_append, heq,
        matchesFrom_newline hform]

theorem form_mem (w : Wording) : w.form ∈ forms := by
  cases w <;> decide

/-- What the forms find in some statements are their specifiers where they stand. -/
theorem mem_matchesFrom_source (hending : ending = [] ∨ ending = ['\n'])
    (hbefore : before.any Text.isWord = false) (position : Nat) (statements : List Statement)
    (m : Nat × List Char) :
    (∃ form ∈ forms, m ∈ form.matchesFrom position 0 before ((source statements).toList ++ ending)) ↔
      m ∈ places position statements := by
  induction statements generalizing position before with
  | nil =>
      have hnone : (source []).toList ++ ending = ending := rfl
      refine iff_of_false ?_ List.not_mem_nil
      rintro ⟨form, hform, hm⟩
      rw [hnone, matchesFrom_ending hform hending] at hm
      exact List.not_mem_nil hm
  | cons s statements ih =>
      have hnewline : (some '\n').any Text.isWord = false := by decide
      -- The next line begins behind a line end, whatever this one ends with.
      have hrest := ih hnewline (position + s.text.toList.length + 1)
      rw [places, List.mem_cons, ← hrest]
      constructor
      · rintro ⟨form, hform, hm⟩
        rcases matchesFrom_source_cons hform hending hbefore position s statements with ⟨hits, heq, hhits, -⟩
        rw [heq, List.mem_append] at hm
        exact hm.imp (hhits m) fun hm => ⟨form, hform, hm⟩
      · rintro (rfl | ⟨form, hform, hm⟩)
        · rcases matchesFrom_source_cons (form_mem s.wording) hending hbefore position s statements with
            ⟨hits, heq, hhits, hown⟩
          rcases List.exists_mem_of_ne_nil hits (hown rfl) with ⟨hit, hhit⟩
          refine ⟨s.wording.form, form_mem s.wording, ?_⟩
          rw [heq]
          exact List.mem_append_left _ (hhits hit hhit ▸ hhit)
        · rcases matchesFrom_source_cons hform hending hbefore position s statements with ⟨hits, heq, -⟩
          refine ⟨form, hform, ?_⟩
          rw [heq]
          exact List.mem_append_right hits hm

theorem lt_of_mem_places {position : Nat} {statements : List Statement} {m : Nat × List Char}
    (h : m ∈ places position statements) : position < m.1 := by
  induction statements generalizing position with
  | nil => exact absurd h List.not_mem_nil
  | cons s statements ih =>
      rcases List.mem_cons.mp h with rfl | h
      · exact Nat.lt_succ_of_le (Nat.le_add_right _ _)
      · have hlt := ih h
        omega

/-- The specifiers stand in the order of the statements. -/
theorem pairwise_places (position : Nat) (statements : List Statement) :
    (places position statements).Pairwise fun a b => a.1 < b.1 := by
  induction statements generalizing position with
  | nil => exact List.Pairwise.nil
  | cons s statements ih =>
      refine List.pairwise_cons.mpr ⟨fun m hm => ?_, ih _⟩
      have hlt := lt_of_mem_places hm
      have hlength : s.lead.length ≤ s.text.toList.length := by
        rw [s.toList_text, List.length_append]
        exact Nat.le_add_right _ _
      simp only
      omega

theorem map_places (position : Nat) (statements : List Statement) :
    (places position statements).map (fun m => String.ofList m.2) =
      statements.map Statement.specifier := by
  induction statements generalizing position with
  | nil => rfl
  | cons s statements ih => rw [places, List.map_cons, List.map_cons, ih, String.ofList_toList]

theorem isSpecifier_of_mem_places {position : Nat} {statements : List Statement} {m : Nat × List Char}
    (h : m ∈ places position statements) : IsSpecifier m.2 := by
  induction statements generalizing position with
  | nil => exact absurd h List.not_mem_nil
  | cons s statements ih =>
      rcases List.mem_cons.mp h with rfl | h
      · exact s.isSpecifier
      · exact ih h

/-- There is nothing to trim at the ends of a specifier. -/
theorem IsSpecifier.strip_eq {cs : List Char} (h : IsSpecifier cs) : Text.strip cs = cs := by
  have hnone : ∀ {ds : List Char}, (∀ c ∈ ds, c ∈ cs) → Text.dropBlanks ds = ds := by
    intro ds hds
    cases ds with
    | nil => rfl
    | cons c ds => exact dropBlanks_of_head (h.plain c (hds c List.mem_cons_self)).2
  rw [Text.strip, hnone fun _ hc => hc, Text.dropBlanksEnd, hnone fun _ hc => List.mem_reverse.mp hc,
    List.reverse_reverse]

/-- A scan of some statements finds their specifiers. -/
theorem scan_append (statements : List Statement) {text : String}
    (hending : ending = [] ∨ ending = ['\n']) (htext : text.toList = (source statements).toList ++ ending) :
    scan text = (statements.map Statement.specifier).eraseDups := by
  have hmem : ∀ m, m ∈ sortBy (fun a b => decide (a.1 ≤ b.1)) (found text.toList) ↔
      m ∈ places 0 statements := by
    intro m
    rw [mem_sortBy, found, List.mem_flatMap, htext]
    exact mem_matchesFrom_source hending rfl 0 statements m
  have hsorted : (sortBy (fun a b : Nat × List Char => decide (a.1 ≤ b.1)) (found text.toList)).Pairwise
      fun a b => a.1 ≤ b.1 := by
    refine (sortBy_pairwise (fun a b c hab hbc => ?_) (fun a b => ?_) _).imp of_decide_eq_true
    · exact decide_eq_true (Nat.le_trans (of_decide_eq_true hab) (of_decide_eq_true hbc))
    · rw [Bool.or_eq_true, decide_eq_true_eq, decide_eq_true_eq]
      exact Nat.le_total a.1 b.1
  -- A specifier is kept as it is when it is trimmed.
  have hplain : ∀ m ∈ sortBy (fun a b => decide (a.1 ≤ b.1)) (found text.toList),
      Text.strip m.2 = m.2 ∧ m.2 ≠ [] := by
    intro m hm
    have hspecifier := isSpecifier_of_mem_places ((hmem m).mp hm)
    exact ⟨hspecifier.strip_eq, hspecifier.ne_nil⟩
  rw [scan]
  generalize sortBy (fun a b => decide (a.1 ≤ b.1)) (found text.toList) = l at hmem hsorted hplain
  have hkept : (((l.map fun m => Text.strip m.2).filter (· ≠ [])).map String.ofList) =
      l.map fun m => String.ofList m.2 := by
    have hstrip : (l.map fun m => Text.strip m.2) = l.map Prod.snd :=
      List.map_congr_left fun m hm => (hplain m hm).1
    rw [hstrip, List.filter_eq_self.mpr, List.map_map]
    · rfl
    · rintro _ hcs
      rcases List.mem_map.mp hcs with ⟨m, hm, rfl⟩
      exact decide_eq_true (hplain m hm).2
  -- Several forms may have found the same place. With the places in order, each of them is left once.
  rw [hkept, ← eraseDups_map_eraseDups,
    eraseDups_eq_of_sorted Prod.fst hsorted (pairwise_places 0 statements) hmem, map_places]

end Source

/-- A scan of import statements, each on a line of its own, finds what they import, each once and in
    the order in which it first occurs. It does not matter whether the last line has an end. -/
theorem scan_source (statements : List Statement) :
    scan (source statements) = (statements.map Statement.specifier).eraseDups ∧
      scan (source statements ++ "\n") = (statements.map Statement.specifier).eraseDups :=
  ⟨scan_append statements (Or.inl rfl) (List.append_nil _).symm,
    scan_append statements (Or.inr rfl) String.toList_append⟩

/-- What would be the beginning of an import is none inside of a specifier. -/
example : scan "import x from 'require(';\nconst import = require(\"a;import\");\n@import 'require(';" =
    ["require(", "a;import"] := by decide +kernel


end Imports

end Replatform
