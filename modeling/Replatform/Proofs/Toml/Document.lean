import Replatform.Proofs.Toml.Numbers
import Replatform.Proofs.Toml.Strings
import Replatform.Toml.Document

/-!
# Documents That Are Written

A document is read back from what it is written as. There are three layers. A value is read back with
the end of its line behind it (`exists_write`). Each line is then a statement, and a document is made
from its end: `Reads` says of the rest of a document which statements are left in it, and a line in
front of it adds its own. In the end the statements are put together again. Since all keys are different,
no statement meets an entry that is there already, and the tables come out in the order in which they
were written.

Only keys that need no quotes are considered (`IsKey`), and there are no tables inside of tables.

## Main definitions

* `Plain.value`, `Plain.Fits`: The value that is written, and whether it can be.
* `IsKey`: A key that needs no quotes.
* `Reads`: The statements in the rest of a document.
* `Proper`: Entries that can be written and read back.

## Theorems

* `readValue?_array`: An array is read back, on one line or several.
* `exists_write`: A value is read back at the end of a line.
* `Reads.entry`, `Reads.header`: The lines of a document.
* `setAll?_append`, `openAll?_append`: Statements with new keys add entries and tables.
* `exists_document`: A document is read back.
-/

namespace Replatform

namespace Toml

open Json (AreDigits)

section Values

theorem quiet_cons {quote c : Char} (h : c ≠ quote) (rest : List Char) : Quiet quote (c :: rest) := by
  rintro _ ⟨⟩
  exact h

/-- Nothing but a string begins with a quote. -/
theorem readValue?_of_readString? {depth : ℕ} {cs rest : List Char} {text : String}
    (hquote : cs.head? = some '"' ∨ cs.head? = some '\'') (h : readString? cs = some (text, rest)) :
    readValue? depth cs = some (.string text, rest) := by
  rw [readValue?.eq_def]
  rcases hquote with hquote | hquote
  · rcases List.head?_eq_some_iff.mp hquote with ⟨tail, rfl⟩
    simp only [h, Option.map_some]
  · rcases List.head?_eq_some_iff.mp hquote with ⟨tail, rfl⟩
    simp only [h, Option.map_some]

theorem readValue?_true (depth : ℕ) (rest : List Char) :
    readValue? depth ('t' :: 'r' :: 'u' :: 'e' :: rest) = some (.bool true, rest) := by
  rw [readValue?]

theorem readValue?_false (depth : ℕ) (rest : List Char) :
    readValue? depth ('f' :: 'a' :: 'l' :: 's' :: 'e' :: rest) = some (.bool false, rest) := by
  rw [readValue?]

theorem readValue?_number {depth : ℕ} {c : Char} {cs : List Char} (hc : c.isDigit = true ∨ c = '-')
    (hmoment : readMoment? (c :: cs) = none) : readValue? depth (c :: cs) = readNumber? (c :: cs) := by
  have hne : ∀ {d : Char}, d.isDigit = false → d ≠ '-' → c ≠ d := by
    rintro d hdigit hsign rfl
    exact hc.elim (Bool.eq_false_iff.mp hdigit) hsign
  rw [readValue?]
  · rw [hmoment]
  all_goals
    intros
    rename_i heq
    exact hne (by decide) (by decide) (List.cons.inj heq).1

/-- A value that begins with digits is no date, unless there is a hyphen or a colon behind them. -/
theorem readValue?_digits {depth : ℕ} {ds rest : List Char} (h : AreDigits ds)
    (hrest : ∀ c ∈ rest.head?, c.isDigit = false ∧ c ≠ '-' ∧ c ≠ ':') :
    readValue? depth (ds ++ rest) = readNumber? (ds ++ rest) := by
  have hmoment := (noMoment_append h.2 hrest).readMoment?
  rcases h.exists_cons with ⟨d, ds, rfl, hd⟩
  exact readValue?_number (Or.inl hd) hmoment

/-- The value that is written. -/
def Plain.value : Plain → Value
  | .string text => .string text
  | .natural n => .integer n
  | .float x => .float x
  | .bool b => .bool b
  | .strings items => .array (items.map .string)

/-- The values that can be written and read back. -/
def Plain.Fits : Plain → Prop
  | .natural n => n < UInt64.size / 2
  | .float x => IsWritable x
  | .string _ | .bool _ | .strings _ => True

section Arrays

theorem skipFiller_cons {c : Char} (h : isVisible c = true) (hblank : isBlank c = false) (hcomment : c ≠ '#')
    (rest : List Char) : skipFiller false (c :: rest) = c :: rest := by
  rw [skipFiller]
  · rw [hblank, Bool.false_and, Bool.false_or, if_neg Bool.false_ne_true, if_neg]
    rw [beq_iff_eq]
    exact hcomment
  · rintro rfl
    exact absurd h (by decide)
  · rintro _ rfl
    exact absurd h (by decide)

/-- A written string begins with a quote. -/
theorem exists_quoted (text : String) :
    ∃ c cs, (quoted text).toList = c :: cs ∧ (c = '"' ∨ c = '\'') := by
  rw [quoted, String.toList_ofList]
  cases quotingOf text.toList with
  | basic => exact ⟨_, _, rfl, Or.inl rfl⟩
  | literal => exact ⟨_, _, rfl, Or.inr rfl⟩
  | block => exact ⟨_, _, rfl, Or.inl rfl⟩
  | literalBlock => exact ⟨_, _, rfl, Or.inr rfl⟩

theorem readValue?_quoted (depth : ℕ) (text : String) {c : Char} (hdouble : c ≠ '"') (hsingle : c ≠ '\'')
    (rest : List Char) :
    readValue? depth ((quoted text).toList ++ c :: rest) = some (.string text, c :: rest) := by
  refine readValue?_of_readString? ?_
    (readString?_quoted text (quiet_cons hdouble rest) (quiet_cons hsingle rest))
  rcases exists_quoted text with ⟨c, cs, heq, rfl | rfl⟩
  · exact Or.inl (by rw [heq]; rfl)
  · exact Or.inr (by rw [heq]; rfl)

theorem skipFiller_quoted (text : String) (rest : List Char) :
    skipFiller false ((quoted text).toList ++ rest) = (quoted text).toList ++ rest := by
  rcases exists_quoted text with ⟨c, cs, heq, rfl | rfl⟩
  · rw [heq]
    exact skipFiller_cons (by decide) (by decide) (by decide) _
  · rw [heq]
    exact skipFiller_cons (by decide) (by decide) (by decide) _

theorem skipFiller_line (rest : List Char) :
    skipFiller false ('\n' :: ' ' :: ' ' :: ' ' :: ' ' :: rest) = skipFiller false rest :=
  rfl

section Items

variable {value : List Char → Option (Value × List Char)} {fuel : ℕ} {cs rest : List Char} {v : Value}
  {c : Char} {tail : List Char}

theorem readItems?_next (hfiller : skipFiller false cs = c :: tail) (hc : c ≠ ']')
    (hvalue : value (c :: tail) = some (v, ',' :: rest)) :
    readItems? value (fuel + 1) cs = (readItems? value fuel rest).map fun r => (v :: r.1, r.2) := by
  have hcomma : skipFiller false (',' :: rest) = ',' :: rest := rfl
  rw [readItems?, hfiller]
  split
  · next heq => exact absurd (List.cons.inj heq).1 hc
  · simp only [hvalue, Option.bind_eq_bind, Option.bind_some, hcomma]
    cases readItems? value fuel rest <;> rfl

theorem readItems?_last (hfiller : skipFiller false cs = c :: tail) (hc : c ≠ ']')
    (hvalue : value (c :: tail) = some (v, ']' :: rest)) :
    readItems? value (fuel + 1) cs = some ([v], rest) := by
  have hbracket : skipFiller false (']' :: rest) = ']' :: rest := rfl
  rw [readItems?, hfiller]
  split
  · next heq => exact absurd (List.cons.inj heq).1 hc
  · simp only [hvalue, Option.bind_eq_bind, Option.bind_some, hbracket]
    rfl

end Items

/-- The lines of an array. -/
def itemLines (items : List String) : List Char :=
  (String.join ((items.map quoted).map fun item => "\n    " ++ item ++ ",")).toList

theorem itemLines_cons (item : String) (items : List String) :
    itemLines (item :: items) =
      '\n' :: ' ' :: ' ' :: ' ' :: ' ' :: ((quoted item).toList ++ ',' :: itemLines items) := by
  rw [itemLines, List.map_cons, List.map_cons, String.join_cons, String.toList_append, String.toList_append,
    String.toList_append, List.append_assoc, List.append_assoc]
  rfl

theorem length_le_itemLines (items : List String) : items.length ≤ (itemLines items).length := by
  induction items with
  | nil => exact Nat.zero_le _
  | cons item items ih =>
      rw [itemLines_cons]
      simp only [List.length_cons, List.length_append]
      omega

/-- The lines of an array are read item by item. -/
theorem readItems?_lines (depth : ℕ) (items : List String) {fuel : ℕ} {rest : List Char}
    (hfuel : items.length < fuel) :
    readItems? (readValue? depth) fuel (itemLines items ++ '\n' :: ']' :: rest) =
      some (items.map .string, rest) := by
  induction items generalizing fuel with
  | nil =>
      cases fuel with
      | zero => exact absurd hfuel (Nat.not_lt_zero _)
      | succ fuel => rfl
  | cons item items ih =>
      cases fuel with
      | zero => exact absurd hfuel (Nat.not_lt_zero _)
      | succ fuel =>
          rcases exists_quoted item with ⟨c, cs, hitem, hc⟩
          have hquiet : c ≠ ']' := by rcases hc with rfl | rfl <;> decide
          have hfiller := fun more => (skipFiller_line _).trans (skipFiller_quoted item more)
          have hvalue := readValue?_quoted (c := ',') depth item (by decide) (by decide)
          rw [itemLines_cons]
          simp only [List.cons_append, List.append_assoc]
          rw [hitem] at hvalue hfiller ⊢
          rw [readItems?_next (hfiller _) hquiet (hvalue _), ih (Nat.lt_of_succ_lt_succ hfuel)]
          rfl

theorem readValue?_bracket (depth : ℕ) (rest : List Char) :
    readValue? (depth + 1) ('[' :: rest) =
      (readItems? (readValue? depth) (rest.length + 1) rest).map fun (items, rest) =>
        (.array items, rest) := by
  rw [readValue?]

theorem toList_array_one (item : String) : (Plain.array [item]).toList = '[' :: (item.toList ++ [']']) := by
  rw [Plain.array, String.toList_append, String.toList_append]
  rfl

theorem toList_array_lines (item item' : String) (items : List String) :
    (Plain.array ((item :: item' :: items).map quoted)).toList =
      '[' :: (itemLines (item :: item' :: items) ++ ['\n', ']']) := by
  change ("[" ++ String.join (((item :: item' :: items).map quoted).map fun item =>
    "\n    " ++ item ++ ",") ++ "\n]").toList = _
  rw [String.toList_append, String.toList_append, List.append_assoc]
  rfl

/-- An array is read back from what it is written as. -/
theorem readValue?_array (depth : ℕ) (items : List String) (rest : List Char) :
    readValue? (depth + 1) ((Plain.array (items.map quoted)).toList ++ rest) =
      some (.array (items.map .string), rest) := by
  rcases items with _ | ⟨item, _ | ⟨item', items⟩⟩
  · rw [List.map_nil, List.map_nil]
    exact readValue?_bracket depth _
  · rcases exists_quoted item with ⟨c, cs, hitem, hc⟩
    have hquiet : c ≠ ']' := by rcases hc with rfl | rfl <;> decide
    have hvalue := readValue?_quoted (c := ']') depth item (by decide) (by decide) rest
    have hfiller := skipFiller_quoted item (']' :: rest)
    rw [List.map_singleton, toList_array_one, List.cons_append, List.append_assoc, List.singleton_append,
      readValue?_bracket]
    rw [hitem] at hvalue hfiller ⊢
    rw [readItems?_last hfiller hquiet hvalue]
    rfl
  · have hlength := length_le_itemLines (item :: item' :: items)
    rw [toList_array_lines, List.cons_append, List.append_assoc, readValue?_bracket]
    refine congrArg (Option.map _) (readItems?_lines depth (item :: item' :: items) ?_)
    rw [List.length_append]
    omega

end Arrays

theorem isBlank_of_isDigit {c : Char} (h : c.isDigit = true) : isBlank c = false := by
  rw [isBlank, Bool.or_eq_false_iff, beq_eq_false_iff_ne, beq_eq_false_iff_ne]
  constructor
  · rintro rfl
    exact absurd h (by decide)
  · rintro rfl
    exact absurd h (by decide)

/-- A value is read back at the end of a line. -/
theorem exists_write {p : Plain} (h : p.Fits) :
    ∃ text, p.write? = some text ∧ (∃ c cs, text.toList = c :: cs ∧ isBlank c = false) ∧
      ∀ rest, readValue? maxDepth (text.toList ++ '\n' :: rest) = some (p.value, '\n' :: rest) := by
  cases p with
  | string text =>
      refine ⟨quoted text, rfl, ?_, fun rest => ?_⟩
      · rcases exists_quoted text with ⟨c, cs, heq, hc⟩
        exact ⟨c, cs, heq, by rcases hc with rfl | rfl <;> rfl⟩
      · exact readValue?_quoted _ text (by decide) (by decide) rest
  | natural n =>
      have hdigits := Json.areDigits_toDigits n
      rcases hdigits.exists_cons with ⟨c, cs, heq, hc⟩
      have htext : (toString n).toList = Nat.toDigits 10 n := String.toList_ofList
      refine ⟨toString n, if_pos h, ⟨c, cs, htext.trans heq, isBlank_of_isDigit hc⟩, fun rest => ?_⟩
      rw [htext, readValue?_digits hdigits (by rintro _ ⟨⟩; decide)]
      exact readNumber?_natural h rest
  | float x =>
      rcases exists_floatText h with ⟨whole, fraction, hwhole, hlead, hfraction, htext, hfloat⟩
      have hread := readNumber?_float (floatParts x).negative hwhole hlead hfraction
      rw [hfloat] at hread
      cases hnegative : (floatParts x).negative with
      | true =>
          rw [hnegative] at hread htext
          refine ⟨floatText x, rfl, ⟨'-', _, htext, rfl⟩, fun rest => ?_⟩
          rw [htext, List.append_assoc, List.append_assoc, List.cons_append]
          refine Eq.trans ?_ (hread rest)
          -- No date begins with a sign.
          rcases hwhole.exists_cons with ⟨d, ds, rfl, -⟩
          exact readValue?_number (Or.inr rfl) rfl
      | false =>
          rw [hnegative] at hread htext
          rcases hwhole.exists_cons with ⟨d, ds, hds, hd⟩
          refine ⟨floatText x, rfl, ⟨d, ds ++ '.' :: fraction, ?_, isBlank_of_isDigit hd⟩, fun rest => ?_⟩
          · rw [htext, hds]
            rfl
          · have hdigits : readValue? maxDepth (whole ++ '.' :: (fraction ++ '\n' :: rest)) =
                readNumber? (whole ++ '.' :: (fraction ++ '\n' :: rest)) :=
              readValue?_digits hwhole (by rintro _ ⟨⟩; decide)
            rw [htext, List.append_assoc, List.append_assoc, List.cons_append]
            exact hdigits.trans (hread rest)
  | bool b =>
      cases b with
      | true => exact ⟨"true", rfl, ⟨'t', _, rfl, rfl⟩, fun rest => readValue?_true maxDepth _⟩
      | false => exact ⟨"false", rfl, ⟨'f', _, rfl, rfl⟩, fun rest => readValue?_false maxDepth _⟩
  | strings items =>
      refine ⟨_, rfl, ?_, fun rest => readValue?_array 78 items ('\n' :: rest)⟩
      rcases items with _ | ⟨item, _ | ⟨item', items⟩⟩
      · exact ⟨'[', _, rfl, rfl⟩
      · exact ⟨'[', _, toList_array_one _, rfl⟩
      · exact ⟨'[', _, toList_array_lines _ _ _, rfl⟩

end Values

section Lines

/-- A key that is written without quotes. -/
def IsKey (key : String) : Prop :=
  key.toList ≠ [] ∧ ∀ c ∈ key.toList, isKeyChar c = true

instance (key : String) : Decidable (IsKey key) :=
  decidable_of_iff (key.toList ≠ [] ∧ key.toList.all isKeyChar = true) (and_congr_right' List.all_eq_true)

theorem ne_of_isKeyChar {c d : Char} (hc : isKeyChar c = true) (hd : isKeyChar d = false) : c ≠ d := by
  rintro rfl
  exact Bool.eq_false_iff.mp hd hc

theorem skipBlanks_cons {c : Char} (h : isBlank c = false) (rest : List Char) :
    skipBlanks (c :: rest) = c :: rest :=
  List.dropWhile_cons_of_neg (Bool.eq_false_iff.mp h)

theorem isBlank_of_isKeyChar {c : Char} (h : isKeyChar c = true) : isBlank c = false := by
  rw [isBlank, Bool.or_eq_false_iff, beq_eq_false_iff_ne, beq_eq_false_iff_ne]
  exact ⟨ne_of_isKeyChar h (by decide), ne_of_isKeyChar h (by decide)⟩

theorem isVisible_of_isKeyChar {c : Char} (h : isKeyChar c = true) : isVisible c = true := by
  have hall : ∀ n < 128, isKeyChar (Char.ofNat n) = true → isVisible (Char.ofNat n) = true := by
    decide +kernel
  -- Whatever cannot be seen is in the table.
  by_contra hvisible
  have hlt := toNat_lt_of_not_isVisible (Bool.eq_false_iff.mpr hvisible)
  rw [← Char.ofNat_toNat c] at h hvisible
  exact hvisible (hall _ hlt h)

/-- A key is read up to the first character that may not stand in one. -/
theorem readPath?_key {key : String} (hkey : IsKey key) {parts : ℕ} {c : Char} {rest rest' : List Char}
    (hc : isKeyChar c = false) (hnext : skipBlanks (c :: rest) = rest')
    (hpoint : ∀ tail, rest' ≠ '.' :: tail) :
    readPath? (parts + 1) (key.toList ++ c :: rest) = some ([key], rest') := by
  rcases List.exists_cons_of_ne_nil hkey.1 with ⟨k, ks, hks⟩
  have hk : isKeyChar k = true := hkey.2 k (hks ▸ List.mem_cons_self)
  have hdigits : (key.toList ++ c :: rest).takeWhile isKeyChar = key.toList ∧
      (key.toList ++ c :: rest).dropWhile isKeyChar = c :: rest := by
    rw [List.takeWhile_append_of_pos hkey.2, List.dropWhile_append_of_pos hkey.2,
      List.takeWhile_cons_of_neg (Bool.eq_false_iff.mp hc),
      List.dropWhile_cons_of_neg (Bool.eq_false_iff.mp hc), List.append_nil]
    exact ⟨rfl, rfl⟩
  have hread : readKey? (skipBlanks (key.toList ++ c :: rest)) = some (key, c :: rest) := by
    have hblank : skipBlanks (key.toList ++ c :: rest) = key.toList ++ c :: rest := by
      rw [hks]
      exact skipBlanks_cons (isBlank_of_isKeyChar hk) _
    rw [hblank, readKey?]
    · simp only [hdigits, if_neg hkey.1, String.ofList_toList]
    · rw [hks]
      exact fun _ heq => absurd (List.cons.inj heq).1 (ne_of_isKeyChar hk (by decide))
    · rw [hks]
      exact fun _ heq => absurd (List.cons.inj heq).1 (ne_of_isKeyChar hk (by decide))
  rw [readPath?, hread]
  simp only [Option.bind_eq_bind, Option.bind_some, hnext]
  rfl

/-- A text begins with no byte order mark and has these statements. The number of its characters is
fuel enough to find them. -/
structure Reads (cs : List Char) (statements : List Statement) : Prop where
  unmarked : cs.head? ≠ some '\ufeff'
  readStatements? : ∀ fuel, cs.length < fuel → readStatements? fuel cs = some statements

variable {cs : List Char} {statements : List Statement}

theorem reads_nil : Reads [] [] := by
  refine ⟨(Option.some_ne_none _).symm, fun fuel hfuel => ?_⟩
  cases fuel with
  | zero => exact absurd hfuel (Nat.not_lt_zero _)
  | succ fuel => rfl

theorem Reads.newline (h : Reads cs statements) : Reads ('\n' :: cs) statements := by
  refine ⟨fun hhead => absurd (Option.some.inj hhead) (by decide), fun fuel hfuel => ?_⟩
  cases fuel with
  | zero => exact absurd hfuel (Nat.not_lt_zero _)
  | succ fuel => exact h.readStatements? fuel (Nat.lt_of_succ_lt_succ hfuel)

/-- A line with a statement stands in front of the rest. -/
theorem Reads.statement (h : Reads cs statements) {c : Char} {line : List Char} {statement : Statement}
    (hunmarked : c ≠ '\ufeff') (hvisible : isVisible c = true) (hblank : isBlank c = false)
    (hcomment : c ≠ '#')
    (hread : readStatement? (c :: (line ++ '\n' :: cs)) = some (statement, '\n' :: cs)) :
    Reads (c :: (line ++ '\n' :: cs)) (statement :: statements) := by
  refine ⟨fun hhead => hunmarked (Option.some.inj hhead), fun fuel hfuel => ?_⟩
  cases fuel with
  | zero => exact absurd hfuel (Nat.not_lt_zero _)
  | succ fuel =>
      have hlength : cs.length < fuel := by
        simp only [List.length_cons, List.length_append] at hfuel
        omega
      have hskip := skipBlanks_cons hblank (line ++ '\n' :: cs)
      -- The line is neither empty nor a comment, so that a statement is looked for.
      have hline : readLineEnd? (c :: (line ++ '\n' :: cs)) = none := by
        have hnewline : readNewline? (c :: (line ++ '\n' :: cs)) = none := by
          rw [readNewline?]
          · rintro tail heq
            exact absurd hvisible ((List.cons.inj heq).1 ▸ by decide)
          · rintro tail heq
            exact absurd hvisible ((List.cons.inj heq).1 ▸ by decide)
        rw [readLineEnd?, hskip]
        split
        · next heq => exact absurd (List.cons.inj heq).1 hcomment
        · rw [if_neg (List.cons_ne_nil _ _), hnewline]
      have hend : readLineEnd? ('\n' :: cs) = some cs := rfl
      rw [Toml.readStatements?, hskip]
      simp only [hline, hread, hend, h.readStatements? fuel hlength, Option.bind_eq_bind, Option.bind_some]
      rfl

/-- A line with a key and a value. -/
theorem Reads.entry (h : Reads cs statements) {key : String} (hkey : IsKey key) {p : Plain} {text : String}
    (hblank : ∃ c cs, text.toList = c :: cs ∧ isBlank c = false)
    (hvalue : readValue? maxDepth (text.toList ++ '\n' :: cs) = some (p.value, '\n' :: cs)) :
    Reads ((key ++ " = " ++ text ++ "\n").toList ++ cs) (.pair [key] p.value :: statements) := by
  rcases List.exists_cons_of_ne_nil hkey.1 with ⟨k, ks, hks⟩
  have hk : isKeyChar k = true := hkey.2 k (hks ▸ List.mem_cons_self)
  have htext : (key ++ " = " ++ text ++ "\n").toList ++ cs =
      key.toList ++ ' ' :: '=' :: ' ' :: (text.toList ++ '\n' :: cs) := by
    simp only [String.toList_append, List.append_assoc]
    rfl
  have hsplit : key.toList ++ ' ' :: '=' :: ' ' :: (text.toList ++ '\n' :: cs) =
      k :: ((ks ++ ' ' :: '=' :: ' ' :: text.toList) ++ '\n' :: cs) := by
    simp only [hks, List.cons_append, List.append_assoc]
  -- The blank behind the key ends it, and the one behind the sign is skipped.
  have hpath : readPath? maxDepth (key.toList ++ ' ' :: '=' :: ' ' :: (text.toList ++ '\n' :: cs)) =
      some ([key], '=' :: ' ' :: (text.toList ++ '\n' :: cs)) :=
    readPath?_key hkey (by decide) rfl fun _ heq => absurd (List.cons.inj heq).1 (by decide)
  have hskip : skipBlanks (' ' :: (text.toList ++ '\n' :: cs)) = text.toList ++ '\n' :: cs := by
    rcases hblank with ⟨c, tail, heq, hc⟩
    rw [heq]
    exact skipBlanks_cons hc _
  have hmark : readMark? '=' ('=' :: ' ' :: (text.toList ++ '\n' :: cs)) =
      some (' ' :: (text.toList ++ '\n' :: cs)) := rfl
  have hend : skipBlanks ('\n' :: cs) = '\n' :: cs := rfl
  have hpair : readPair? (readValue? maxDepth)
      (key.toList ++ ' ' :: '=' :: ' ' :: (text.toList ++ '\n' :: cs)) =
      some (([key], p.value), '\n' :: cs) := by
    rw [readPair?, hpath]
    simp only [Option.bind_eq_bind, Option.bind_some, hmark, hskip, hvalue, hend]
    rfl
  rw [htext, hsplit]
  rw [hsplit] at hpair
  refine h.statement (ne_of_isKeyChar hk (by decide)) (isVisible_of_isKeyChar hk) (isBlank_of_isKeyChar hk)
    (ne_of_isKeyChar hk (by decide)) ?_
  rw [readStatement?]
  · simp only [hpair, Option.bind_eq_bind, Option.bind_some]
    rfl
  · exact fun _ heq => absurd (List.cons.inj heq).1 (ne_of_isKeyChar hk (by decide))
  · exact fun _ heq => absurd (List.cons.inj heq).1 (ne_of_isKeyChar hk (by decide))

/-- An empty line, and one with the header of a table. -/
theorem Reads.header (h : Reads cs statements) {name : String} (hname : IsKey name) :
    Reads (("\n[" ++ name ++ "]\n").toList ++ cs) (.header [name] false :: statements) := by
  rcases List.exists_cons_of_ne_nil hname.1 with ⟨k, ks, hks⟩
  have hk : isKeyChar k = true := hname.2 k (hks ▸ List.mem_cons_self)
  have htext : ("\n[" ++ name ++ "]\n").toList ++ cs =
      '\n' :: '[' :: ((name.toList ++ [']']) ++ '\n' :: cs) := by
    simp only [String.toList_append, List.append_assoc]
    rfl
  have hpath : readPath? maxDepth (name.toList ++ ']' :: '\n' :: cs) = some ([name], ']' :: '\n' :: cs) :=
    readPath?_key hname (by decide) rfl fun _ heq => absurd (List.cons.inj heq).1 (by decide)
  rw [htext]
  refine (h.statement (by decide) (by decide) (by decide) (by decide) ?_).newline
  have hmark : readMark? ']' (']' :: '\n' :: cs) = some ('\n' :: cs) := rfl
  rw [List.append_assoc, List.singleton_append, readStatement?]
  · simp only [hpath, Option.bind_eq_bind, Option.bind_some, hmark]
    rfl
  · rw [hks]
    exact fun _ heq => absurd (List.cons.inj heq).1 (ne_of_isKeyChar hk (by decide))

end Lines

section Documents

/-- The values of entries. -/
def plainValues (entries : List (String × Plain)) : List (String × Value) :=
  entries.map fun e => (e.1, e.2.value)

/-- The statements of entries. -/
def pairs (entries : List (String × Plain)) : List Statement :=
  entries.map fun e => .pair [e.1] e.2.value

/-- Entries that can be written and read back. -/
structure Proper (entries : List (String × Plain)) : Prop where
  keys : ∀ key ∈ entries.map Prod.fst, IsKey key
  fits : ∀ e ∈ entries, e.2.Fits
  nodup : (entries.map Prod.fst).Nodup

theorem writeEntries?_cons {key : String} {p : Plain} {entries : List (String × Plain)} {value text : String}
    (hvalue : p.write? = some value) (htext : writeEntries? entries = some text) :
    writeEntries? ((key, p) :: entries) = some (key ++ " = " ++ value ++ "\n" ++ text) := by
  rw [writeEntries?, Option.bind_eq_bind, Option.bind_eq_some_iff] at htext
  rcases htext with ⟨lines, hlines, htext⟩
  obtain rfl : String.join lines = text := Option.some.inj htext
  rw [writeEntries?, List.mapM_cons, hlines, ← String.join_cons]
  simp only [hvalue, Option.bind_eq_bind, Option.bind_some]
  rfl

/-- The lines of entries are read before what stands behind them. -/
theorem exists_writeEntries {entries : List (String × Plain)}
    (hkeys : ∀ key ∈ entries.map Prod.fst, IsKey key) (hfits : ∀ e ∈ entries, e.2.Fits) :
    ∃ text, writeEntries? entries = some text ∧ ∀ {cs : List Char} {statements : List Statement},
      Reads cs statements → Reads (text.toList ++ cs) (pairs entries ++ statements) := by
  induction entries with
  | nil => exact ⟨"", rfl, fun h => h⟩
  | cons e entries ih =>
      rw [List.map_cons, List.forall_mem_cons] at hkeys
      rw [List.forall_mem_cons] at hfits
      rcases ih hkeys.2 hfits.2 with ⟨text, hwrite, hread⟩
      rcases exists_write hfits.1 with ⟨value, hvalue, hblank, hback⟩
      refine ⟨_, writeEntries?_cons hvalue hwrite, fun h => ?_⟩
      rw [String.toList_append, List.append_assoc]
      exact (hread h).entry hkeys.1 hblank (hback _)

/-- The statements of a table. -/
def tableStatements (t : String × List (String × Plain)) : List Statement :=
  .header [t.1] false :: pairs t.2

theorem exists_writeTables {tables : List (String × List (String × Plain))}
    (hnames : ∀ name ∈ tables.map Prod.fst, IsKey name) (hproper : ∀ t ∈ tables, Proper t.2) :
    ∃ texts, tables.mapM (fun (name, es) => writeTable? name es) = some texts ∧
      Reads (String.join texts).toList (tables.flatMap tableStatements) := by
  induction tables with
  | nil => exact ⟨[], rfl, reads_nil⟩
  | cons t tables ih =>
      rcases t with ⟨name, entries⟩
      rw [List.map_cons, List.forall_mem_cons] at hnames
      rw [List.forall_mem_cons] at hproper
      rcases ih hnames.2 hproper.2 with ⟨texts, htexts, hread⟩
      rcases exists_writeEntries hproper.1.keys hproper.1.fits with ⟨text, htext, hentries⟩
      have htable : writeTable? name entries = some ("\n[" ++ name ++ "]\n" ++ text) := by
        rw [writeTable?, htext]
        rfl
      refine ⟨("\n[" ++ name ++ "]\n" ++ text) :: texts, ?_, ?_⟩
      · rw [List.mapM_cons, htexts]
        simp only [htable, Option.bind_eq_bind, Option.bind_some]
        rfl
      · rw [String.join_cons, String.toList_append, String.toList_append, List.append_assoc,
          List.flatMap_cons]
        exact (hentries hread).header hnames.1

section Entries

theorem lookup_of_notMem {key : String} {es : Entries} (h : key ∉ es.map Prod.fst) :
    List.lookup key es = none := by
  rw [List.lookup_eq_none_iff]
  intro e he
  rw [bne_iff_ne]
  rintro rfl
  exact h (List.mem_map_of_mem he)

theorem put_of_notMem {key : String} {es : Entries} (h : key ∉ es.map Prod.fst) (node : Node) :
    put key node es = es ++ [(key, node)] := by
  induction es with
  | nil => rfl
  | cons e es ih =>
      rw [List.map_cons, List.mem_cons, not_or] at h
      rw [put, if_neg (Ne.symm h.1), ih h.2]
      rfl

/-- The nodes of entries. -/
def nodes (entries : List (String × Plain)) : Entries :=
  entries.map fun e => (e.1, .value e.2.value)

/-- Keys that were not there before are set one after the other. -/
theorem setAll?_append {entries : List (String × Plain)} {es : Entries}
    (h : (es.map Prod.fst ++ entries.map Prod.fst).Nodup) :
    setAll? (entries.map fun e => ([e.1], e.2.value)) es = some (es ++ nodes entries) := by
  induction entries generalizing es with
  | nil => exact congrArg some (List.append_nil es).symm
  | cons e entries ih =>
      rw [List.map_cons] at h
      -- The entry goes to the end, and is one of those that are there for the next one.
      have hkey : e.1 ∉ es.map Prod.fst := fun hmem =>
        List.disjoint_of_nodup_append h hmem List.mem_cons_self
      have hset : setPath? e.2.value false true [e.1] es = some (es ++ [(e.1, .value e.2.value)]) := by
        rw [setPath?, if_neg (by decide), lookup_of_notMem hkey, put_of_notMem hkey]
        rfl
      have hlater : ((es ++ [(e.1, Node.value e.2.value)]).map Prod.fst ++ entries.map Prod.fst).Nodup := by
        rwa [List.map_append, List.append_assoc]
      rw [List.map_cons, setAll?, hset, Option.bind_eq_bind, Option.bind_some, ih hlater, List.append_assoc]
      rfl

theorem leadingPairs_pairs (entries : List (String × Plain)) {statements : List Statement}
    (h : (leadingPairs statements).1 = []) :
    (leadingPairs (pairs entries ++ statements)).1 = entries.map fun e => ([e.1], e.2.value) := by
  induction entries with
  | nil => exact h
  | cons e entries ih => exact congrArg _ ih

theorem leadingPairs_tables (tables : List (String × List (String × Plain))) :
    (leadingPairs (tables.flatMap tableStatements)).1 = [] := by
  cases tables <;> rfl

theorem openAll?_pairs (entries : List (String × Plain)) (statements : List Statement) (es : Entries) :
    openAll? (pairs entries ++ statements) es = openAll? statements es := by
  induction entries with
  | nil => rfl
  | cons e entries ih => exact ih

/-- Tables that were not there before are opened one after the other. -/
theorem openAll?_append {tables : List (String × List (String × Plain))} {es : Entries}
    (h : (es.map Prod.fst ++ tables.map Prod.fst).Nodup) (hproper : ∀ t ∈ tables, Proper t.2) :
    openAll? (tables.flatMap tableStatements) es =
      some (es ++ tables.map fun t => (t.1, .table .opened (nodes t.2))) := by
  induction tables generalizing es with
  | nil => exact congrArg some (List.append_nil es).symm
  | cons t tables ih =>
      rw [List.map_cons] at h
      rw [List.forall_mem_cons] at hproper
      -- The header takes the entries up to the next one. Then they are passed over.
      have hname : t.1 ∉ es.map Prod.fst := fun hmem =>
        List.disjoint_of_nodup_append h hmem List.mem_cons_self
      have hset : setAll? (t.2.map fun e => ([e.1], e.2.value)) [] = some (nodes t.2) :=
        setAll?_append hproper.1.nodup
      have hpairs : (leadingPairs (pairs t.2 ++ tables.flatMap tableStatements)).1 =
          t.2.map fun e => ([e.1], e.2.value) := leadingPairs_pairs t.2 (leadingPairs_tables tables)
      have hopen : openTable? false (t.2.map fun e => ([e.1], e.2.value)) [t.1] es =
          some (es ++ [(t.1, .table .opened (nodes t.2))]) := by
        rw [openTable?, hset, ← put_of_notMem hname]
        · rfl
        · exact lookup_of_notMem hname
      have hlater : ((es ++ [(t.1, Node.table .opened (nodes t.2))]).map Prod.fst ++
          tables.map Prod.fst).Nodup := by
        rwa [List.map_append, List.append_assoc]
      rw [List.flatMap_cons, tableStatements, List.cons_append, openAll?, hpairs, hopen, Option.bind_eq_bind,
        Option.bind_some, openAll?_pairs, ih hlater hproper.2, List.append_assoc]
      rfl

theorem toValues_append (es es' : Entries) : toValues (es ++ es') = toValues es ++ toValues es' := by
  induction es with
  | nil => rfl
  | cons e es ih =>
      rcases e with ⟨key, node⟩
      rw [List.cons_append, toValues, toValues, ih, List.cons_append]

theorem toValues_nodes (entries : List (String × Plain)) :
    toValues (nodes entries) = plainValues entries := by
  induction entries with
  | nil => rfl
  | cons e entries ih => exact congrArg ((e.1, e.2.value) :: ·) ih

end Entries

theorem toValues_tables (tables : List (String × List (String × Plain))) :
    toValues (tables.map fun t => (t.1, .table .opened (nodes t.2))) =
      tables.map fun t => (t.1, .table (plainValues t.2)) := by
  induction tables with
  | nil => rfl
  | cons t tables ih =>
      rw [List.map_cons, toValues, Node.toValue, toValues_nodes, ih]
      rfl

theorem read?_eq {text : String} (h : text.toList.head? ≠ some '\ufeff') :
    read? text = (readStatements? (text.toList.length + 1) text.toList).bind fun statements =>
      (setAll? (leadingPairs statements).1 []).bind fun root =>
        (openAll? statements root).bind fun es => some (.table (toValues es)) := by
  rw [read?]
  split
  · next heq => exact absurd (congrArg List.head? heq) h
  · rfl

/-- A document is read back from what it is written as. -/
theorem exists_document {entries : List (String × Plain)} {tables : List (String × List (String × Plain))}
    (hentries : Proper entries) (hnames : ∀ name ∈ tables.map Prod.fst, IsKey name)
    (hproper : ∀ t ∈ tables, Proper t.2)
    (hnodup : (entries.map Prod.fst ++ tables.map Prod.fst).Nodup) :
    ∃ text, write? entries tables = some text ∧
      read? text =
        some (.table (plainValues entries ++ tables.map fun t => (t.1, .table (plainValues t.2)))) := by
  rcases exists_writeEntries hentries.keys hentries.fits with ⟨text, htext, hread⟩
  rcases exists_writeTables hnames hproper with ⟨texts, htexts, htables⟩
  refine ⟨text ++ String.join texts, ?_, ?_⟩
  · rw [write?, htext, htexts]
    rfl
  · have hstatements := hread htables
    rw [← String.toList_append] at hstatements
    have hroot : setAll? (entries.map fun e => ([e.1], e.2.value)) [] = some (nodes entries) :=
      setAll?_append hentries.nodup
    have hkeys : ((nodes entries).map Prod.fst ++ tables.map Prod.fst).Nodup := by
      rw [nodes, List.map_map]
      exact hnodup
    have hopen := openAll?_append hkeys hproper
    have hleading : (leadingPairs (pairs entries ++ tables.flatMap tableStatements)).1 =
        entries.map fun e => ([e.1], e.2.value) := leadingPairs_pairs entries (leadingPairs_tables tables)
    rw [read?_eq hstatements.unmarked, hstatements.readStatements? _ (Nat.lt_succ_self _),
      Option.bind_some, hleading, hroot, Option.bind_some, openAll?_pairs, hopen, Option.bind_some,
      toValues_append, toValues_nodes, toValues_tables]

end Documents

end Toml

end Replatform
