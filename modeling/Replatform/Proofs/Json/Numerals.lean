import Mathlib.Data.List.TakeWhile
import Mathlib.Data.Nat.Digits.Lemmas
import Replatform.Json.Value

/-!
# Written Numerals

The text of a numeral, and the way back. A numeral is read as far as it goes, so that it can be told
where one ends only by what stands behind it: `EndsNumeral` is what a text must not begin with, or
it would be taken for more digits, for a fraction or for an exponent. Whatever follows a value in an
array or an object satisfies it.

The parts of a numeral are read one after the other, and each reader leaves what the next one
expects. `IsProper` is what the grammar asks of the parts: digits in each of them, no fewer than
one, and no zero in front of another digit.

## Main definitions

* `Numeral.chars`: The text of a numeral.
* `Numeral.IsProper`: The parts of a numeral are as they should be.
* `EndsNumeral`: No numeral goes on here.
* `wholePart`: The whole part at the beginning of a text.
* `integral`, `floating`: The numerals that numbers are written as.

## Theorems

* `readNumeral?_chars`: A written numeral is read back.
* `isProper_integral`, `isProper_floating`: Numbers are written as proper numerals.
* `value?_integral`: An integer of 64 bits is what its numeral stands for.
-/

namespace Replatform

namespace Json

/-- Nothing but digits, and one at least. -/
def AreDigits (ds : List Char) : Prop :=
  ds ≠ [] ∧ ∀ c ∈ ds, c.isDigit = true

/-- No numeral goes on here. -/
def EndsNumeral (rest : List Char) : Prop :=
  ∀ c ∈ rest.head?, c.isDigit = false ∧ c ≠ '.' ∧ c ≠ 'e' ∧ c ≠ 'E'

theorem endsNumeral_nil : EndsNumeral [] :=
  nofun

theorem endsNumeral_cons {c : Char} (rest : List Char)
    (h : c.isDigit = false ∧ c ≠ '.' ∧ c ≠ 'e' ∧ c ≠ 'E') : EndsNumeral (c :: rest) := by
  intro d hd
  rw [List.head?_cons, Option.mem_some_iff] at hd
  exact hd ▸ h

section Digits

variable {ds rest : List Char}

/-- Digits are read up to the first character that is none. -/
theorem takeWhile_digits (hds : ∀ c ∈ ds, c.isDigit = true)
    (hrest : ∀ c ∈ rest.head?, c.isDigit = false) :
    (ds ++ rest).takeWhile Char.isDigit = ds ∧ (ds ++ rest).dropWhile Char.isDigit = rest := by
  have hnone : rest.takeWhile Char.isDigit = [] ∧ rest.dropWhile Char.isDigit = rest := by
    cases rest with
    | nil => exact ⟨rfl, rfl⟩
    | cons c rest =>
        have hc : ¬ c.isDigit = true := by
          rw [hrest c rfl]
          exact Bool.false_ne_true
        exact ⟨List.takeWhile_cons_of_neg hc, List.dropWhile_cons_of_neg hc⟩
  rw [List.takeWhile_append_of_pos hds, List.dropWhile_append_of_pos hds, hnone.1, hnone.2,
    List.append_nil]
  exact ⟨rfl, rfl⟩

theorem AreDigits.exists_cons (h : AreDigits ds) :
    ∃ c cs, ds = c :: cs ∧ c.isDigit = true := by
  rcases List.exists_cons_of_ne_nil h.1 with ⟨c, cs, rfl⟩
  exact ⟨c, cs, rfl, h.2 c List.mem_cons_self⟩

theorem readExponentDigits?_append (negative : Bool) (hds : AreDigits ds)
    (hrest : EndsNumeral rest) :
    readExponentDigits? negative (ds ++ rest) = some (some (negative, ds), rest) := by
  have hread := takeWhile_digits hds.2 fun c hc => (hrest c hc).1
  simp only [readExponentDigits?, hread.1, hread.2, if_neg hds.1]

end Digits

/-- The text of an exponent. -/
def exponentChars : Option (Bool × List Char) → List Char
  | none => []
  | some (true, ds) => 'e' :: '-' :: ds
  | some (false, ds) => 'e' :: ds

/-- The text of a numeral. -/
def Numeral.chars (n : Numeral) : List Char :=
  (if n.negative then ['-'] else []) ++ n.whole ++
    (if n.hasFraction then '.' :: n.fraction else []) ++ exponentChars n.exponent

/-- The parts of a numeral are as the grammar asks. -/
structure Numeral.IsProper (n : Numeral) : Prop where
  whole : AreDigits n.whole
  lead : n.whole.head? = some '0' → n.whole = ['0']
  fraction : if n.hasFraction then AreDigits n.fraction else n.fraction = []
  exponent : ∀ e ∈ n.exponent, AreDigits e.2

/-- The whole part of a numeral: one zero, or all digits up to what follows it. -/
def wholePart (cs : List Char) : List Char :=
  match cs with
  | '0' :: _ => ['0']
  | _ => cs.takeWhile Char.isDigit

section Parts

variable {rest : List Char}

/-- The parts of a numeral are read one after the other. -/
theorem readNumeral?_eq {text unsigned : List Char} {negative : Bool}
    (hsign : (text.head? == some '-') = negative)
    (hunsigned : (if negative then text.tail else text) = unsigned) :
    readNumeral? text =
      if wholePart unsigned = [] then none
      else if (unsigned.drop (wholePart unsigned).length).head?.any Char.isDigit then none
      else
        match readFraction? (unsigned.drop (wholePart unsigned).length) with
        | none => none
        | some (hasFraction, fraction, rest) =>
          match readExponent? rest with
          | none => none
          | some (exponent, rest) =>
            some ({ negative, whole := wholePart unsigned, fraction, hasFraction, exponent },
              rest) := by
  subst hsign hunsigned
  rfl

theorem readExponent?_append (exponent : Option (Bool × List Char))
    (he : ∀ e ∈ exponent, AreDigits e.2) (hrest : EndsNumeral rest) :
    readExponent? (exponentChars exponent ++ rest) = some (exponent, rest) := by
  rcases exponent with _ | ⟨_ | _, ds⟩
  · cases rest with
    | nil => rfl
    | cons c rest =>
        rcases hrest c rfl with ⟨-, -, hsmall, hlarge⟩
        have hmark : ¬ (c == 'e' || c == 'E') = true := by
          rw [Bool.or_eq_true, beq_iff_eq, beq_iff_eq, not_or]
          exact ⟨hsmall, hlarge⟩
        exact if_neg hmark
  · -- The first digit is no sign.
    have hds := he _ rfl
    rcases hds.exists_cons with ⟨c, cs, rfl, hc⟩
    have hread := readExponentDigits?_append false hds hrest
    have hplus : c ≠ '+' := by
      rintro rfl
      exact absurd hc (by decide)
    have hminus : c ≠ '-' := by
      rintro rfl
      exact absurd hc (by decide)
    rw [List.cons_append] at hread
    simp only [exponentChars, List.cons_append, readExponent?, beq_self_eq_true, Bool.true_or,
      if_true]
    split
    · next h => exact absurd (List.cons.inj h).1 hplus
    · next h => exact absurd (List.cons.inj h).1 hminus
    · exact hread
  · exact readExponentDigits?_append true (he _ rfl) hrest

/-- What follows the digits before a fraction does not continue them. -/
theorem endsDigits_exponentChars (exponent : Option (Bool × List Char))
    (hrest : EndsNumeral rest) :
    ∀ c ∈ (exponentChars exponent ++ rest).head?, c.isDigit = false ∧ c ≠ '.' := by
  rcases exponent with _ | ⟨_ | _, ds⟩
  · exact fun c hc => ⟨(hrest c hc).1, (hrest c hc).2.1⟩
  all_goals
    intro c hc
    rw [exponentChars, List.cons_append, List.head?_cons, Option.mem_some_iff] at hc
    exact hc ▸ ⟨rfl, by decide⟩

theorem readFraction?_append (n : Numeral) (hn : n.IsProper) (hrest : EndsNumeral rest) :
    readFraction? ((if n.hasFraction then '.' :: n.fraction else []) ++
        (exponentChars n.exponent ++ rest)) =
      some (n.hasFraction, n.fraction, exponentChars n.exponent ++ rest) := by
  have hends := endsDigits_exponentChars n.exponent hrest
  have hfraction := hn.fraction
  generalize exponentChars n.exponent ++ rest = after at hends
  cases hhas : n.hasFraction with
  | true =>
      rw [if_pos hhas] at hfraction
      have hread := takeWhile_digits hfraction.2 fun c hc => (hends c hc).1
      simp only [if_true, List.cons_append, readFraction?, hread.1, hread.2, if_neg hfraction.1]
  | false =>
      rw [if_neg (by rw [hhas]; exact Bool.false_ne_true)] at hfraction
      rw [hfraction, if_neg Bool.false_ne_true, List.nil_append, readFraction?.eq_def]
      split
      · next h => exact absurd rfl (hends '.' rfl).2
      · rfl

theorem wholePart_append {whole tail : List Char} (hwhole : AreDigits whole)
    (hlead : whole.head? = some '0' → whole = ['0'])
    (htail : ∀ c ∈ tail.head?, c.isDigit = false) : wholePart (whole ++ tail) = whole := by
  unfold wholePart
  split
  · next cs h =>
    rcases hwhole.exists_cons with ⟨d, ds, rfl, -⟩
    rw [List.cons_append, List.cons.injEq] at h
    exact (hlead (by rw [h.1]; rfl)).symm
  · exact (takeWhile_digits hwhole.2 htail).1

/-- The sign of a numeral is read, and what is left begins with a digit. -/
theorem readSign_append (negative : Bool) {whole : List Char} (hwhole : AreDigits whole)
    (tail : List Char) :
    (((if negative then ['-'] else []) ++ (whole ++ tail)).head? == some '-') = negative ∧
      (if negative then ((if negative then ['-'] else []) ++ (whole ++ tail)).tail
        else (if negative then ['-'] else []) ++ (whole ++ tail)) = whole ++ tail := by
  cases negative with
  | true => exact ⟨rfl, rfl⟩
  | false =>
      rcases hwhole.exists_cons with ⟨d, ds, rfl, hd⟩
      refine ⟨beq_eq_false_iff_ne.mpr fun h => ?_, rfl⟩
      rw [Option.some.inj h] at hd
      exact absurd hd (by decide)

/-- A written numeral is read back, if it ends where its text does. -/
theorem readNumeral?_chars (n : Numeral) (hn : n.IsProper) (hrest : EndsNumeral rest) :
    readNumeral? (n.chars ++ rest) = some (n, rest) := by
  have hfraction := readFraction?_append n hn hrest
  have hexponent := readExponent?_append n.exponent hn.exponent hrest
  have htail : ∀ c ∈ ((if n.hasFraction then '.' :: n.fraction else []) ++
      (exponentChars n.exponent ++ rest)).head?, c.isDigit = false := by
    cases n.hasFraction with
    | true => exact fun c hc => Option.mem_some_iff.mp hc ▸ rfl
    | false => exact fun c hc => (endsDigits_exponentChars n.exponent hrest c hc).1
  have htext : n.chars ++ rest = (if n.negative then ['-'] else []) ++ (n.whole ++
      ((if n.hasFraction then '.' :: n.fraction else []) ++
        (exponentChars n.exponent ++ rest))) := by
    simp only [Numeral.chars, List.append_assoc]
  generalize (if n.hasFraction then '.' :: n.fraction else []) ++
    (exponentChars n.exponent ++ rest) = tail at hfraction htail htext
  have hsign := readSign_append n.negative hn.whole tail
  have hstop : ¬ tail.head?.any Char.isDigit = true := by
    cases tail with
    | nil => exact Bool.false_ne_true
    | cons c tail =>
        rw [List.head?_cons, Option.any_some, htail c rfl]
        exact Bool.false_ne_true
  rw [htext, readNumeral?_eq hsign.1 hsign.2, wholePart_append hn.whole hn.lead htail,
    if_neg hn.whole.1, List.drop_left, if_neg hstop, hfraction]
  simp only [hexponent]

end Parts

/-- The text of a numeral begins with a sign or a digit. -/
theorem Numeral.IsProper.exists_chars_eq_cons {n : Numeral} (hn : n.IsProper) :
    ∃ c cs, n.chars = c :: cs ∧ (c = '-' ∨ c.isDigit = true) := by
  rcases hn.whole.exists_cons with ⟨d, ds, hwhole, hd⟩
  rw [Numeral.chars, hwhole]
  cases n.negative with
  | true => exact ⟨'-', _, rfl, Or.inl rfl⟩
  | false => exact ⟨d, _, rfl, Or.inr hd⟩

section Numbers

theorem areDigits_toDigits (n : ℕ) : AreDigits (Nat.toDigits 10 n) :=
  ⟨Nat.toDigits_ne_nil, fun _ hc => Nat.isDigit_of_mem_toDigits (by decide) (by decide) hc⟩

/-- No zero stands in front of another digit. -/
theorem eq_zero_of_head?_toDigits (n : ℕ) (h : (Nat.toDigits 10 n).head? = some '0') :
    Nat.toDigits 10 n = ['0'] := by
  induction n using Nat.strong_induction_on with
  | _ n ih =>
      by_cases hsmall : n < 10
      · rw [Nat.toDigits_of_lt_base hsmall] at h ⊢
        rw [Option.some.inj h]
      · -- The first digit is that of a smaller number, which is not zero.
        rw [Nat.toDigits_of_base_le (by decide) (Nat.not_lt.mp hsmall)] at h
        rw [List.head?_append_of_ne_nil _ Nat.toDigits_ne_nil] at h
        have hzero := congrArg (fun ds => Nat.ofDigitChars 10 ds 0) (ih (n / 10) (by omega) h)
        simp only [Nat.ofDigitChars_ten_toDigits] at hzero
        exact absurd hzero (by rw [show Nat.ofDigitChars 10 ['0'] 0 = 0 from rfl]; omega)

theorem digitsValue_toDigits (n : ℕ) : digitsValue (Nat.toDigits 10 n) = n :=
  Nat.ofDigitChars_ten_toDigits

/-- The numeral that an integer is written as. -/
def integral (n : ℤ) : Numeral :=
  { negative := decide (n < 0)
    whole := Nat.toDigits 10 n.natAbs
    fraction := []
    hasFraction := false
    exponent := none }

/-- The numeral that a finite double is written as. -/
def floating (x : Float) : Numeral :=
  if x == 0.0 then
    { negative := (floatParts x).negative
      whole := ['0']
      fraction := ['0']
      hasFraction := true
      exponent := none }
  else
    let d := Decimal.shortest x.abs
    { negative := (floatParts x).negative
      whole := Nat.toDigits 10 d.digits
      fraction := []
      hasFraction := false
      exponent := some (decide (d.exponent < 0), Nat.toDigits 10 d.exponent.natAbs) }

theorem isProper_integral (n : ℤ) : (integral n).IsProper where
  whole := areDigits_toDigits _
  lead := eq_zero_of_head?_toDigits _
  fraction := rfl
  exponent := nofun

theorem isProper_floating (x : Float) : (floating x).IsProper := by
  have hzero : AreDigits ['0'] := areDigits_toDigits 0
  unfold floating
  split
  · exact { whole := hzero, lead := fun _ => rfl, fraction := hzero, exponent := nofun }
  · exact {
      whole := areDigits_toDigits _
      lead := eq_zero_of_head?_toDigits _
      fraction := rfl
      exponent := fun e he => Option.mem_some_iff.mp he ▸ areDigits_toDigits _ }

/-- The text of an integer is its sign and its digits. -/
theorem toList_toString (n : ℤ) :
    (toString n).toList = (if n < 0 then ['-'] else []) ++ Nat.toDigits 10 n.natAbs := by
  cases n with
  | ofNat m =>
      rw [if_neg (Int.not_lt.mpr (Int.natCast_nonneg m) : ¬ Int.ofNat m < 0), List.nil_append]
      exact String.toList_ofList
  | negSucc m =>
      rw [if_pos (Int.negSucc_lt_zero m)]
      have hdigits : (toString (m + 1)).toList = Nat.toDigits 10 (m + 1) := String.toList_ofList
      have htext : (toString (Int.negSucc m)) = "-" ++ toString (m + 1) := rfl
      rw [htext, String.toList_append, hdigits]
      rfl

theorem chars_integral (n : ℤ) : (integral n).chars = (toString n).toList := by
  rw [toList_toString]
  simp only [Numeral.chars, integral, exponentChars, decide_eq_true_eq, Bool.false_eq_true,
    if_false, List.append_nil]

theorem chars_floating {x : Float} (h : x.isFinite = true) : (floating x).chars = floatText x := by
  rw [floatText, if_pos h, floating]
  split
  · simp only [Numeral.chars, exponentChars, if_true, List.append_nil, List.append_assoc]
    rfl
  · simp only [Numeral.chars, toList_toString, Bool.false_eq_true, if_false, List.append_nil,
      List.append_assoc]
    by_cases hneg : (Decimal.shortest x.abs).exponent < 0
    · rw [if_pos hneg, decide_eq_true hneg]
      rfl
    · rw [if_neg hneg, decide_eq_false hneg]
      rfl

/-- An integer of 64 bits is what its numeral stands for. -/
theorem int?_integral {n : ℤ} (hlow : -(UInt64.size / 2 : ℕ) ≤ n) (hhigh : n < UInt64.size) :
    (integral n).int? = some n := by
  have hplain : (!(integral n).isPlain) = false := rfl
  have hwhole : digitsValue (integral n).whole = n.natAbs := digitsValue_toDigits _
  rw [Numeral.int?, hplain, hwhole, if_neg Bool.false_ne_true]
  by_cases hneg : n < 0
  · have hsign : (integral n).negative = true := decide_eq_true hneg
    rw [if_pos hsign, if_neg (by omega), Option.some.injEq]
    omega
  · have hsign : ¬ (integral n).negative = true := fun h => hneg (of_decide_eq_true h)
    rw [if_neg hsign, if_pos (by omega), Option.some.injEq]
    omega

theorem value?_integral {n : ℤ} (hlow : -(UInt64.size / 2 : ℕ) ≤ n) (hhigh : n < UInt64.size) :
    (integral n).value? = some (.int n) := by
  rw [Numeral.value?, int?_integral hlow hhigh]

end Numbers

end Json

end Replatform
