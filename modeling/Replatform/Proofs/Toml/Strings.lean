import Mathlib.Data.List.Basic
import Mathlib.Tactic.SplitIfs
import Replatform.Toml.Quoted

/-!
# Strings in TOML

A string is read back from what it is written as, whatever is in it. There are four ways to write one,
and which of them is taken depends on the text: whether it has control characters, line feeds, or
quotes of either kind, and how many of these stand together.

Between double quotes there are escapes, and `Unescapes` is what the two readers have in common that
undo them. So it is shown once that a character is read back, and what is left are the quotes.

Between three double quotes the text may have quotes itself, one or two of them together, and it may
end with them. The closing quotes then stand behind quotes of the text, of which the last two are
counted to it, so that not every quote is read by itself. Where two quotes follow a quote of the text,
the text is all but over (`last_of_quotes`). It is the same between three single quotes
(`last_of_longestRun`).

All of this depends on what comes behind the string: Another quote would be taken for a part of it. A
written string is followed by the end of a line, a comma or a bracket.

## Main definitions

* `Quiet`: A text does not go on with a quote of a kind.
* `Unescapes`: What the readers have in common that undo escapes.
* `Opens`: A text does not begin with a line end.
* `Suits`: What is known of a text that is written without escapes.

## Theorems

* `Unescapes.escaped`: A character is read back from what it is written as.
* `readBasic?_escapedText`, `readBlock?_escapedText`: Texts between double quotes are read back.
* `readLiteral?_append`, `readLiteralBlock?_append`: Texts between single quotes are read as they are.
* `suits_quotingOf`: A text is only written without escapes if it needs none.
* `readString?_quoted`: A string is read back.
-/

namespace Replatform

namespace Toml

variable {rest : List Char}

/-- A text does not go on with a quote of a kind. -/
def Quiet (quote : Char) (cs : List Char) : Prop :=
  ∀ c ∈ cs.head?, c ≠ quote

section Characters

theorem hex_control : ∀ n < 128, (fourDigits n).length = 4 ∧
    charOfHex? (fourDigits n) = some (Char.ofNat n) := by
  decide +kernel

theorem toNat_lt_of_not_isVisible {c : Char} (h : isVisible c = false) : c.toNat < 128 := by
  rw [isVisible, Bool.or_eq_false_iff, Bool.and_eq_false_iff] at h
  rcases h.2 with h | h
  · have := of_decide_eq_false h
    omega
  · rw [bne_eq_false_iff_eq] at h
    omega

/-- A control character is written with four digits. -/
theorem exists_fourDigits {c : Char} (h : isVisible c = false) :
    ∃ d₁ d₂ d₃ d₄, fourDigits c.toNat = [d₁, d₂, d₃, d₄] ∧ charOfHex? [d₁, d₂, d₃, d₄] = some c := by
  have hhex := hex_control c.toNat (toNat_lt_of_not_isVisible h)
  rw [Char.ofNat_toNat] at hhex
  rcases hdigits : fourDigits c.toNat with _ | ⟨d₁, _ | ⟨d₂, _ | ⟨d₃, _ | ⟨d₄, _ | ⟨d₅, ds⟩⟩⟩⟩⟩ <;>
    rw [hdigits] at hhex
  case cons.cons.cons.cons.nil => exact ⟨d₁, d₂, d₃, d₄, rfl, hhex.2⟩
  all_goals exact absurd hhex.1 (by simp)

end Characters

/-- A reader takes characters one by one and undoes escapes, and takes line feeds as they are if
`lines` says so. -/
structure Unescapes (lines : Bool) (read : List Char → Option (List Char × List Char)) : Prop where
  plain : ∀ {c : Char} (rest), isVisible c = true → c ≠ '"' → c ≠ '\\' →
    read (c :: rest) = withChar c (read rest)
  letter : ∀ {e c : Char} (rest), escape? e = some c → read ('\\' :: e :: rest) = withChar c (read rest)
  code : ∀ {d₁ d₂ d₃ d₄ c : Char} (rest), charOfHex? [d₁, d₂, d₃, d₄] = some c →
    read ('\\' :: 'u' :: d₁ :: d₂ :: d₃ :: d₄ :: rest) = withChar c (read rest)
  line : lines = true → ∀ rest, read ('\n' :: rest) = withChar '\n' (read rest)

section Escapes

variable {lines : Bool} {read : List Char → Option (List Char × List Char)}

/-- A character is read back from what it is written as. -/
theorem Unescapes.escaped (h : Unescapes lines read) {c : Char} (hquote : c ≠ '"') (rest : List Char) :
    read (escaped lines c ++ rest) = withChar c (read rest) := by
  rw [Toml.escaped]
  by_cases hslash : c = '\\'
  · rw [if_pos hslash, hslash]
    exact h.letter rest rfl
  rw [if_neg hslash]
  by_cases htab : c = '\t'
  · rw [if_pos htab, htab]
    exact h.letter rest rfl
  rw [if_neg htab]
  by_cases hline : c = '\n'
  · rw [if_pos hline, hline]
    cases hlines : lines with
    | true => exact h.line hlines rest
    | false => exact h.letter rest rfl
  rw [if_neg hline]
  by_cases hreturn : c = '\r'
  · rw [if_pos hreturn, hreturn]
    exact h.letter rest rfl
  rw [if_neg hreturn]
  by_cases hback : c = Char.ofNat 8
  · rw [if_pos hback, hback]
    exact h.letter rest rfl
  rw [if_neg hback]
  by_cases hfeed : c = Char.ofNat 12
  · rw [if_pos hfeed, hfeed]
    exact h.letter rest rfl
  rw [if_neg hfeed]
  by_cases hvisible : isVisible c = true
  · rw [if_pos hvisible]
    exact h.plain rest hvisible hquote hslash
  · rw [if_neg hvisible]
    rcases exists_fourDigits (Bool.eq_false_iff.mpr hvisible) with ⟨d₁, d₂, d₃, d₄, hdigits, hcode⟩
    rw [hdigits]
    exact h.code rest hcode

/-- What a character is written as begins with a backslash or is the character. -/
theorem exists_escaped (lines : Bool) (c : Char) :
    ∃ d ds, Toml.escaped lines c = d :: ds ∧ (d = '\\' ∨ d = c ∧ (isVisible c = true ∨ c = '\n')) := by
  rw [Toml.escaped]
  split_ifs with _ _ hline _ _ _ _ hvisible
  · exact ⟨_, _, rfl, Or.inl rfl⟩
  · exact ⟨_, _, rfl, Or.inl rfl⟩
  · exact ⟨_, _, rfl, Or.inr ⟨hline.symm, Or.inr hline⟩⟩
  · exact ⟨_, _, rfl, Or.inl rfl⟩
  · exact ⟨_, _, rfl, Or.inl rfl⟩
  · exact ⟨_, _, rfl, Or.inl rfl⟩
  · exact ⟨_, _, rfl, Or.inl rfl⟩
  · exact ⟨_, _, rfl, Or.inr ⟨rfl, Or.inl hvisible⟩⟩
  · exact ⟨_, _, rfl, Or.inl rfl⟩

theorem quiet_escaped {c : Char} (hquote : c ≠ '"') (rest : List Char) :
    Quiet '"' (Toml.escaped lines c ++ rest) := by
  rcases exists_escaped lines c with ⟨d, ds, heq, hd⟩
  rw [heq]
  rintro _ ⟨⟩
  rcases hd with rfl | ⟨rfl, -⟩
  · decide
  · exact hquote

theorem endsLine_letter {e c : Char} (h : escape? e = some c) (rest : List Char) :
    endsLine (e :: rest) = false := by
  rw [escape?.eq_def] at h
  split at h
  all_goals first
    | rfl
    | exact absurd h (Option.some_ne_none c).symm

end Escapes

theorem ne_of_escape? {e c : Char} (h : escape? e = some c) : e ≠ 'u' ∧ e ≠ 'U' := by
  constructor
  · rintro rfl
    exact absurd h (Option.some_ne_none c).symm
  · rintro rfl
    exact absurd h (Option.some_ne_none c).symm

theorem unescapes_readBasic? : Unescapes false readBasic? where
  plain {c} rest hvisible hquote hslash := by
    rw [readBasic?]
    · rw [hvisible, bne_iff_ne.mpr hslash]
      rfl
    · exact hquote
    · exact fun _ _ _ _ _ h => absurd h hslash
    · exact fun _ _ _ _ _ _ _ _ _ h => absurd h hslash
    · exact fun _ _ h => absurd h hslash
  letter {e c} rest h := by
    rw [readBasic?]
    · rw [h]
      rfl
    · exact fun _ _ _ _ _ hu => absurd hu (ne_of_escape? h).1
    · exact fun _ _ _ _ _ _ _ _ _ hU => absurd hU (ne_of_escape? h).2
  code rest h := by
    rw [readBasic?, h]
    rfl
  line h := absurd h Bool.false_ne_true

theorem unescapes_readBlock? : Unescapes true (readBlock? false) where
  plain {c} rest hvisible hquote hslash := by
    rw [readBlock?]
    · rw [hvisible, bne_iff_ne.mpr hslash]
      rfl
    · exact fun _ h => absurd h hquote
    · exact fun _ h => absurd h hquote
    · exact fun _ h => absurd h hquote
    · rintro _ rfl
      exact absurd hvisible (by decide)
    · rintro rfl
      exact absurd hvisible (by decide)
    · exact fun _ _ _ _ _ h => absurd h hslash
    · exact fun _ _ _ _ _ _ _ _ _ h => absurd h hslash
    · exact fun _ _ h => absurd h hslash
  letter {e c} rest h := by
    rw [readBlock?]
    · rw [endsLine_letter h, h]
      rfl
    · exact fun _ _ _ _ _ hu => absurd hu (ne_of_escape? h).1
    · exact fun _ _ _ _ _ _ _ _ _ hU => absurd hU (ne_of_escape? h).2
  code rest h := by
    rw [readBlock?, h]
    rfl
  line _ rest := by
    rw [readBlock?]
    rfl

/-- A quote that is not one of three stands for itself. -/
theorem readBlock?_quote {cs : List Char} (h : ∀ rest, cs ≠ '"' :: '"' :: rest) :
    readBlock? false ('"' :: cs) = withChar '"' (readBlock? false cs) := by
  rw [readBlock?]
  · rfl
  · exact fun _ _ heq => absurd heq (h _)
  · exact fun _ _ heq => absurd heq (h _)
  · exact fun _ _ heq => absurd heq (h _)
  all_goals intros; contradiction

/-- A text between double quotes is read back up to the quote behind it. -/
theorem readBasic?_escapedText (run : ℕ) (cs rest : List Char) :
    readBasic? (escapedText 0 false run cs ++ '"' :: rest) = some (cs, rest) := by
  induction cs generalizing run with
  | nil => rw [escapedText, List.nil_append, readBasic?]
  | cons c cs ih =>
      rw [escapedText]
      by_cases hquote : c = '"'
      · rw [if_pos hquote, if_neg (Nat.not_lt_zero run), List.cons_append, List.cons_append,
          unescapes_readBasic?.letter _ rfl, ih, hquote]
        rfl
      · rw [if_neg hquote, List.append_assoc, unescapes_readBasic?.escaped hquote, ih]
        rfl

theorem ne_of_quiet {quote : Char} {cs : List Char} (h : Quiet quote cs) (rest : List Char) :
    cs ≠ quote :: rest := by
  rintro rfl
  exact h quote rfl rfl

/-- After as many quotes as may stand together there is no other one. -/
theorem quiet_escapedText {limit run : ℕ} {lines : Bool} {c : Char} (h : limit ≤ run ∨ c ≠ '"')
    (cs rest : List Char) : Quiet '"' (escapedText limit lines run (c :: cs) ++ rest) := by
  rw [escapedText]
  by_cases hquote : c = '"'
  · rw [if_pos hquote, if_neg (Nat.not_lt.mpr (h.resolve_right (not_not.mpr hquote)))]
    intro d hd
    obtain rfl := Option.some.inj hd
    decide
  · rw [if_neg hquote, List.append_assoc]
    exact quiet_escaped hquote _

/-- Where two quotes follow one of the text, at most one of them belongs to the text. -/
theorem last_of_quotes {run : ℕ} {lines : Bool} {cs rest tail : List Char} (hrun : 0 < run)
    (h : escapedText 2 lines run cs ++ '"' :: '"' :: '"' :: rest = '"' :: '"' :: tail) :
    cs = [] ∨ cs = ['"'] ∧ run = 1 := by
  cases cs with
  | nil => exact Or.inl rfl
  | cons d ds =>
      -- A third quote in a row would be escaped.
      by_cases hd : 2 ≤ run ∨ d ≠ '"'
      · exact absurd h (ne_of_quiet (quiet_escapedText hd ds _) _)
      · obtain ⟨hlt, rfl⟩ : ¬ 2 ≤ run ∧ d = '"' := ⟨fun h => hd (Or.inl h), not_not.mp fun h => hd (Or.inr h)⟩
        rw [escapedText, if_pos rfl, if_pos (Nat.not_le.mp hlt), List.cons_append] at h
        cases ds with
        | nil => exact Or.inr ⟨rfl, by omega⟩
        | cons e es =>
            have hquiet : Quiet '"' (escapedText 2 lines (run + 1) (e :: es) ++ '"' :: '"' :: '"' :: rest) :=
              quiet_escapedText (Or.inl (by omega)) es _
            exact absurd (List.cons.inj h).2 (ne_of_quiet hquiet _)

/-- A text between three double quotes is read back, also if it ends with quotes itself. -/
theorem readBlock?_escapedText (run : ℕ) (cs : List Char) {rest : List Char} (hrest : Quiet '"' rest) :
    readBlock? false (escapedText 2 true run cs ++ '"' :: '"' :: '"' :: rest) = some (cs, rest) := by
  induction cs generalizing run with
  | nil =>
      rw [escapedText, List.nil_append, readBlock?]
      · rintro tail rfl
        exact hrest '"' rfl rfl
      · rintro tail rfl
        exact hrest '"' rfl rfl
  | cons c cs ih =>
      by_cases hquote : c = '"'
      · by_cases hrun : run < 2
        · rw [escapedText, if_pos hquote, if_pos hrun, hquote]
          -- A quote is read by itself unless the text ends with it or with it and another one.
          by_cases hends : ∃ tail,
              escapedText 2 true (run + 1) cs ++ '"' :: '"' :: '"' :: rest = '"' :: '"' :: tail
          · rcases hends with ⟨tail, htail⟩
            rcases last_of_quotes (Nat.succ_pos run) htail with rfl | ⟨rfl, hone⟩
            · rw [escapedText, List.cons_append, List.nil_append, readBlock?]
              rintro tail rfl
              exact hrest '"' rfl rfl
            · have hone : run + 1 < 2 := by omega
              rw [escapedText, if_pos rfl, if_pos hone, escapedText]
              rw [List.cons_append, List.cons_append, List.nil_append, readBlock?]
          · rw [List.cons_append, readBlock?_quote fun tail htail => hends ⟨tail, htail⟩, ih]
            rfl
        · rw [escapedText, if_pos hquote, if_neg hrun, hquote]
          rw [List.cons_append, List.cons_append, unescapes_readBlock?.letter _ rfl, ih]
          rfl
      · rw [escapedText, if_neg hquote, List.append_assoc, unescapes_readBlock?.escaped hquote, ih]
        rfl

/-- A text between single quotes is read as it is. -/
theorem readLiteral?_append {cs : List Char} (h : ∀ c ∈ cs, isVisible c = true ∧ c ≠ '\'')
    (rest : List Char) : readLiteral? (cs ++ '\'' :: rest) = some (cs, rest) := by
  induction cs with
  | nil => rw [List.nil_append, readLiteral?]
  | cons c cs ih =>
      have hc := h c List.mem_cons_self
      rw [List.cons_append, readLiteral?, if_pos hc.1, ih fun d hd => h d (List.mem_cons_of_mem c hd)]
      · rfl
      · exact hc.2

theorem le_longestRun (q : Char) (run : ℕ) (cs : List Char) : run ≤ longestRun q run cs := by
  induction cs generalizing run with
  | nil => exact Nat.le_refl run
  | cons c cs ih =>
      rw [longestRun]
      split
      · exact Nat.le_of_succ_le (ih (run + 1))
      · exact Nat.le_max_left _ _

theorem readLiteralBlock?_plain {c : Char} (hvisible : isVisible c = true ∨ c = '\n') {cs : List Char}
    (hquote : c ≠ '\'' ∨ ∀ rest, cs ≠ '\'' :: '\'' :: rest) :
    readLiteralBlock? (c :: cs) = withChar c (readLiteralBlock? cs) := by
  rcases hvisible with hvisible | rfl
  · rw [readLiteralBlock?]
    · exact if_pos hvisible
    · exact fun _ h heq => hquote.elim (absurd h) fun hcs => absurd heq (hcs _)
    · exact fun _ h heq => hquote.elim (absurd h) fun hcs => absurd heq (hcs _)
    · exact fun _ h heq => hquote.elim (absurd h) fun hcs => absurd heq (hcs _)
    · rintro _ rfl
      exact absurd hvisible (by decide)
    · rintro rfl
      exact absurd hvisible (by decide)
  · rw [readLiteralBlock?]

/-- Where two quotes follow one of the text, at most one of them belongs to the text. -/
theorem last_of_longestRun {run : ℕ} {cs rest tail : List Char} (hpos : 0 < run)
    (hrun : longestRun '\'' run cs ≤ 2)
    (h : cs ++ '\'' :: '\'' :: '\'' :: rest = '\'' :: '\'' :: tail) : cs = [] ∨ cs = ['\''] := by
  rcases cs with _ | ⟨d, _ | ⟨e, es⟩⟩
  · exact Or.inl rfl
  · obtain rfl := (List.cons.inj h).1
    exact Or.inr rfl
  · have htail := List.cons.inj h
    obtain rfl : d = '\'' := htail.1
    obtain rfl : e = '\'' := (List.cons.inj htail.2).1
    rw [longestRun, if_pos rfl, longestRun, if_pos rfl] at hrun
    have := le_longestRun '\'' (run + 1 + 1) es
    omega

/-- A text between three single quotes is read as it is, if no three of them stand together in it. -/
theorem readLiteralBlock?_append {run : ℕ} {cs rest : List Char}
    (h : ∀ c ∈ cs, isVisible c = true ∨ c = '\n') (hrun : longestRun '\'' run cs ≤ 2)
    (hrest : Quiet '\'' rest) :
    readLiteralBlock? (cs ++ '\'' :: '\'' :: '\'' :: rest) = some (cs, rest) := by
  induction cs generalizing run with
  | nil =>
      rw [List.nil_append, readLiteralBlock?]
      · rintro tail rfl
        exact hrest '\'' rfl rfl
      · rintro tail rfl
        exact hrest '\'' rfl rfl
  | cons c cs ih =>
      have hc := h c List.mem_cons_self
      have hcs := fun d hd => h d (List.mem_cons_of_mem c hd)
      rw [longestRun] at hrun
      by_cases hquote : c = '\''
      · rw [if_pos hquote] at hrun
        have hread := ih hcs hrun
        by_cases hends : ∃ tail, cs ++ '\'' :: '\'' :: '\'' :: rest = '\'' :: '\'' :: tail
        · rcases hends with ⟨tail, htail⟩
          rw [hquote]
          rcases last_of_longestRun (Nat.succ_pos run) hrun htail with rfl | rfl
          · rw [List.cons_append, List.nil_append, readLiteralBlock?]
            rintro tail rfl
            exact hrest '\'' rfl rfl
          · rw [List.cons_append, List.cons_append, List.nil_append, readLiteralBlock?]
        · rw [List.cons_append, readLiteralBlock?_plain hc (Or.inr fun tail htail => hends ⟨tail, htail⟩),
            hread]
          rfl
      · rw [if_neg hquote] at hrun
        rw [List.cons_append, readLiteralBlock?_plain hc (Or.inl hquote),
          ih hcs (Nat.le_trans (Nat.le_max_right _ _) hrun)]
        rfl

section Opening

theorem readString?_basic {cs : List Char} (h : ∀ rest, cs ≠ '"' :: '"' :: rest) :
    readString? ('"' :: cs) = (readBasic? cs).map fun (text, rest) => (String.ofList text, rest) := by
  rw [readString?]
  · rfl
  · exact fun _ heq => absurd (List.cons.inj heq).2 (h _)
  · exact fun _ heq => absurd (List.cons.inj heq).1 (by decide)

theorem readString?_literal {cs : List Char} (h : ∀ rest, cs ≠ '\'' :: '\'' :: rest) :
    readString? ('\'' :: cs) = (readLiteral? cs).map fun (text, rest) => (String.ofList text, rest) := by
  rw [readString?]
  · rfl
  · exact fun _ heq => absurd (List.cons.inj heq).1 (by decide)
  · exact fun _ heq => absurd (List.cons.inj heq).2 (h _)

/-- A text does not begin with a line end. -/
def Opens (cs : List Char) : Prop :=
  Quiet '\n' cs ∧ Quiet '\r' cs

theorem opens_cons {c : Char} (h : isVisible c = true) (cs : List Char) : Opens (c :: cs) := by
  constructor
  · rintro _ ⟨⟩ rfl
    exact absurd h (by decide)
  · rintro _ ⟨⟩ rfl
    exact absurd h (by decide)

theorem opens_escapedText {cs : List Char} (h : '\n' ∉ cs) (rest : List Char) :
    Opens (escapedText 2 true 0 cs ++ '"' :: rest) := by
  cases cs with
  | nil => exact opens_cons (by decide) rest
  | cons c cs =>
      rw [List.mem_cons, not_or] at h
      rw [escapedText]
      by_cases hquote : c = '"'
      · rw [if_pos hquote, if_pos Nat.two_pos]
        exact opens_cons (by decide) _
      · rcases exists_escaped true c with ⟨d, ds, heq, rfl | ⟨rfl, hvisible⟩⟩
        · rw [if_neg hquote, heq]
          exact opens_cons (by decide) _
        · rw [if_neg hquote, heq]
          exact opens_cons (hvisible.resolve_right (Ne.symm h.1)) _

theorem opens_append {cs : List Char} (h : ∀ c ∈ cs, isVisible c = true) (rest : List Char) :
    Opens (cs ++ '\'' :: rest) := by
  cases cs with
  | nil => exact opens_cons (by decide) rest
  | cons c cs => exact opens_cons (h c List.mem_cons_self) _

theorem skipNewline_of_opens {cs : List Char} (h : Opens cs) : skipNewline cs = cs := by
  rw [skipNewline, readNewline?.eq_def]
  split
  · exact absurd rfl (h.1 _ rfl)
  · exact absurd rfl (h.2 _ rfl)
  · rfl

/-- After the opening quotes a text is read from where it begins. -/
theorem skipNewline_opening {cs tail : List Char}
    (h : '\n' ∉ cs → Opens tail) :
    skipNewline ((if cs.contains '\n' then ['\n'] else []) ++ tail) = tail := by
  by_cases hline : cs.contains '\n' = true
  · rw [if_pos hline]
    rfl
  · rw [if_neg hline]
    exact skipNewline_of_opens (h fun hmem => hline (List.contains_iff_mem.mpr hmem))

end Opening

/-- A text that is written without escapes needs none. -/
structure Suits (quoting : Quoting) (cs : List Char) : Prop where
  literal : quoting = .literal → ∀ c ∈ cs, isVisible c = true ∧ c ≠ '\''
  literalBlock : quoting = .literalBlock →
    (∀ c ∈ cs, isVisible c = true ∨ c = '\n') ∧ longestRun '\'' 0 cs ≤ 2

theorem mem_of_longestRun {q : Char} (run : ℕ) {cs : List Char} (h : q ∈ cs) : 0 < longestRun q run cs := by
  induction cs generalizing run with
  | nil => exact absurd h List.not_mem_nil
  | cons c cs ih =>
      rw [longestRun]
      split
      · exact Nat.lt_of_lt_of_le (Nat.succ_pos run) (le_longestRun q (run + 1) cs)
      · next hc =>
        have hmem := (List.mem_cons.mp h).resolve_left fun heq => hc heq.symm
        exact Nat.lt_of_lt_of_le (ih 0 hmem) (Nat.le_max_right _ _)

theorem suits_quotingOf (cs : List Char) : Suits (quotingOf cs) cs := by
  rw [quotingOf]
  by_cases hescape : cs.any needsEscape = true
  · rw [if_pos hescape]
    split
    · exact ⟨by rintro ⟨⟩, by rintro ⟨⟩⟩
    · exact ⟨by rintro ⟨⟩, by rintro ⟨⟩⟩
  rw [if_neg hescape]
  -- What needs no escape can be seen or is a line feed.
  have hvisible : ∀ c ∈ cs, isVisible c = true ∨ c = '\n' := fun c hc => by
    by_contra hcon
    rw [not_or] at hcon
    refine hescape (List.any_eq_true.mpr ⟨c, hc, ?_⟩)
    rw [needsEscape, Bool.eq_false_iff.mpr hcon.1, bne_iff_ne.mpr hcon.2]
    rfl
  split_ifs with _ hliteral _ hsingles _
  · exact ⟨by rintro ⟨⟩, by rintro ⟨⟩⟩
  · rw [Bool.and_eq_true, beq_iff_eq, Bool.not_eq_true', List.contains_eq_mem,
      decide_eq_false_iff_not] at hliteral
    refine ⟨fun _ c hc => ⟨(hvisible c hc).resolve_right ?_, ?_⟩, by rintro ⟨⟩⟩
    · rintro rfl
      exact hliteral.2 hc
    · rintro rfl
      exact Nat.ne_of_gt (mem_of_longestRun 0 hc) hliteral.1
  · exact ⟨by rintro ⟨⟩, by rintro ⟨⟩⟩
  · exact ⟨by rintro ⟨⟩, fun _ => ⟨hvisible, hsingles⟩⟩
  · exact ⟨by rintro ⟨⟩, by rintro ⟨⟩⟩
  · exact ⟨by rintro ⟨⟩, by rintro ⟨⟩⟩

/-- A string is read back from what it is written as, if no quote follows. -/
theorem readString?_quoted (text : String) {rest : List Char} (hdouble : Quiet '"' rest)
    (hsingle : Quiet '\'' rest) : readString? ((quoted text).toList ++ rest) = some (text, rest) := by
  have hsuits := suits_quotingOf text.toList
  rw [quoted, String.toList_ofList]
  cases hquoting : quotingOf text.toList with
  | basic =>
      -- An empty text must not be taken for the beginning of three quotes.
      have hopen : ∀ tail, escapedText 0 false 0 text.toList ++ '"' :: rest ≠ '"' :: '"' :: tail := by
        cases text.toList with
        | nil => exact fun tail heq => ne_of_quiet hdouble tail (List.cons.inj heq).2
        | cons c cs => exact fun tail => ne_of_quiet (quiet_escapedText (Or.inl (Nat.zero_le 0)) cs _) _
      change readString? ('"' :: (escapedText 0 false 0 text.toList ++ ['"'] ++ rest)) = _
      rw [List.append_assoc, List.singleton_append, readString?_basic hopen, readBasic?_escapedText]
      exact congrArg (fun text => some (text, rest)) String.ofList_toList
  | literal =>
      have hplain := hsuits.literal hquoting
      have hopen : ∀ tail, text.toList ++ '\'' :: rest ≠ '\'' :: '\'' :: tail := by
        cases hcs : text.toList with
        | nil => exact fun tail heq => ne_of_quiet hsingle tail (List.cons.inj heq).2
        | cons c cs => exact fun tail heq => (hplain c (hcs ▸ List.mem_cons_self)).2 (List.cons.inj heq).1
      change readString? ('\'' :: (text.toList ++ ['\''] ++ rest)) = _
      rw [List.append_assoc, List.singleton_append, readString?_literal hopen, readLiteral?_append hplain]
      exact congrArg (fun text => some (text, rest)) String.ofList_toList
  | block =>
      -- A line feed is put in front of a text with lines, since the first one would be skipped.
      have hskip := skipNewline_opening fun hline : '\n' ∉ text.toList =>
        opens_escapedText hline ('"' :: '"' :: rest)
      change readString? ('"' :: '"' :: '"' :: ((if text.toList.contains '\n' then ['\n'] else []) ++
        escapedText 2 true 0 text.toList ++ ['"', '"', '"'] ++ rest)) = _
      rw [readString?, List.append_assoc, List.append_assoc]
      change (readBlock? false (skipNewline (_ ++ (_ ++ '"' :: '"' :: '"' :: rest)))).map _ = _
      rw [hskip, readBlock?_escapedText 0 text.toList hdouble]
      exact congrArg (fun text => some (text, rest)) String.ofList_toList
  | literalBlock =>
      have hplain := hsuits.literalBlock hquoting
      have hskip := skipNewline_opening fun hline : '\n' ∉ text.toList =>
        opens_append (fun c hc => (hplain.1 c hc).resolve_right fun h => hline (h ▸ hc))
          ('\'' :: '\'' :: rest)
      change readString? ('\'' :: '\'' :: '\'' :: ((if text.toList.contains '\n' then ['\n'] else []) ++
        text.toList ++ ['\'', '\'', '\''] ++ rest)) = _
      rw [readString?, List.append_assoc, List.append_assoc]
      change (readLiteralBlock? (skipNewline (_ ++ (_ ++ '\'' :: '\'' :: '\'' :: rest)))).map _ = _
      rw [hskip, readLiteralBlock?_append hplain.1 hplain.2 hsingle]
      exact congrArg (fun text => some (text, rest)) String.ofList_toList

end Toml

end Replatform
