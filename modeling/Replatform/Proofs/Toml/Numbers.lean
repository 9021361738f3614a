import Replatform.Proofs.Json.Numerals
import Replatform.Proofs.Rounding
import Replatform.Toml.Layout
import Replatform.Toml.Number

/-!
# Numbers in TOML

A number is read back from what it is written as, at the end of a line. The numbers that are written
are a small part of those that can be read: a natural number is its digits, and a float has digits on
both sides of a point and neither an exponent nor underscores between its digits.

Before a number is read, a date or a time is looked for, and that begins with digits as well. It takes
a hyphen or a colon behind them, which is what `NoMoment` rules out.

A float is written with the fewest digits that read back. It may lose zeros at the end and get some in
front, or a point and a zero behind it, all of which leave the number as it is, and the double that is
read only depends on the number (`Decimal.toFloat_congr`). The sign comes last: A float that is less
than zero is not written here, since its digits would be looked for without the sign, so that
`IsWritable` lets only zero have one.

## Main definitions

* `NoMoment`: This is neither a date nor a time.
* `EndsNumber`: No number goes on here.
* `Splits`: The digits of a numeral before and behind its point.
* `IsWritable`: What a double must be to be read back.

## Theorems

* `readNumber?_natural`: A natural number is read back.
* `readNumber?_float`: What digits on both sides of a point stand for.
* `exists_splits`: The digits of a numeral on both sides of its point.
* `exists_floatText`: A double is written with digits that stand for it.
-/

namespace Replatform

namespace Toml

open Json (AreDigits)

section Digits

variable {ds rest : List Char}

theorem hexDigit?_of_isDigit {c : Char} (h : c.isDigit = true) :
    hexDigit? c = some (c.toNat - '0'.toNat) := by
  rw [Char.isDigit, Bool.and_eq_true, decide_eq_true_iff, decide_eq_true_iff] at h
  exact if_pos h

theorem ofDigits_eq (h : ∀ c ∈ ds, c.isDigit = true) : ofDigits 10 ds = Nat.ofDigitChars 10 ds 0 := by
  rw [ofDigits, Nat.ofDigitChars_eq_foldl]
  refine List.foldl_ext _ _ 0 fun n c hc => ?_
  rw [hexDigit?_of_isDigit (h c hc), Option.getD_some]

theorem readDigitsAfter?_append (h : ∀ c ∈ ds, c.isDigit = true)
    (hrest : ∀ c ∈ rest.head?, c.isDigit = false ∧ c ≠ '_') :
    readDigitsAfter? Char.isDigit (ds ++ rest) = some (ds, rest) := by
  induction ds with
  | nil =>
      cases rest with
      | nil => rfl
      | cons c rest =>
          have hc := hrest c rfl
          rw [List.nil_append, readDigitsAfter?, if_neg (Bool.eq_false_iff.mp hc.1), if_neg]
          · rw [beq_iff_eq]
            exact hc.2
          · exact fun _ _ heq => absurd heq hc.2
  | cons d ds ih =>
      have hd := h d List.mem_cons_self
      rw [List.cons_append, readDigitsAfter?, if_pos hd, ih fun c hc => h c (List.mem_cons_of_mem d hc)]
      · rfl
      · rintro _ _ rfl
        exact absurd hd (by decide)

theorem readDigits?_append (h : AreDigits ds) (hrest : ∀ c ∈ rest.head?, c.isDigit = false ∧ c ≠ '_') :
    readDigits? Char.isDigit (ds ++ rest) = some (ds, rest) := by
  rcases h.exists_cons with ⟨d, ds, rfl, hd⟩
  rw [List.cons_append, readDigits?, if_pos hd,
    readDigitsAfter?_append (fun c hc => h.2 c (List.mem_cons_of_mem d hc)) hrest]
  rfl

theorem readWhole?_append (h : AreDigits ds) (hlead : ds.head? = some '0' → ds = ['0'])
    (hrest : ∀ c ∈ rest.head?, c.isDigit = false ∧ c ≠ '_') :
    readWhole? (ds ++ rest) = some (ds, rest) := by
  by_cases hzero : ds.head? = some '0'
  · rw [hlead hzero]
    rfl
  · rw [readWhole?, readDigits?_append h hrest]
    rintro tail htail
    rcases h.exists_cons with ⟨d, ds, rfl, -⟩
    exact hzero (congrArg some (List.cons.inj htail).1)

end Digits

section Moments

/-- There may be digits, but there is neither a hyphen nor a colon behind them. -/
def NoMoment (cs : List Char) : Prop :=
  ∀ c ∈ (cs.dropWhile Char.isDigit).head?, c ≠ '-' ∧ c ≠ ':'

theorem NoMoment.readTwo? {cs rest : List Char} {n : ℕ} (h : NoMoment cs)
    (hread : readTwo? cs = some (n, rest)) : NoMoment rest := by
  rcases cs with _ | ⟨a, _ | ⟨b, cs⟩⟩
  · cases hread
  · cases hread
  · rw [Toml.readTwo?] at hread
    by_cases hdigits : (a.isDigit && b.isDigit) = true
    · rw [if_pos hdigits] at hread
      obtain ⟨-, rfl⟩ := Prod.mk.inj (Option.some.inj hread)
      rw [Bool.and_eq_true] at hdigits
      rwa [NoMoment, List.dropWhile_cons_of_pos hdigits.1, List.dropWhile_cons_of_pos hdigits.2] at h
    · rw [if_neg hdigits] at hread
      cases hread

theorem NoMoment.readMark? {cs : List Char} {mark : Char} (h : NoMoment cs)
    (hmark : mark = '-' ∨ mark = ':') : readMark? mark cs = none := by
  cases cs with
  | nil => rfl
  | cons c cs =>
      refine if_neg ?_
      rintro rfl
      have hc : ¬ c.isDigit = true := by
        rcases hmark with rfl | rfl <;> decide
      have hne := h c (by rw [List.dropWhile_cons_of_neg hc]; rfl)
      exact hmark.elim hne.1 hne.2

theorem NoMoment.readDate? {cs : List Char} (h : NoMoment cs) : readDate? cs = none := by
  rw [Toml.readDate?]
  -- The year is read as two numbers of two digits, and the hyphen behind it is missing.
  rcases hcentury : Toml.readTwo? cs with _ | ⟨century, rest⟩
  · rfl
  · rcases hyear : Toml.readTwo? rest with _ | ⟨year, rest'⟩
    · simp only [Option.bind_eq_bind, Option.bind_some, hyear, Option.bind_none]
    · simp only [Option.bind_eq_bind, Option.bind_some, hyear,
        ((h.readTwo? hcentury).readTwo? hyear).readMark? (Or.inl rfl), Option.bind_none]

theorem NoMoment.readTime? {cs : List Char} (h : NoMoment cs) : readTime? cs = none := by
  rw [Toml.readTime?, readHourMinute?]
  rcases hhour : Toml.readTwo? cs with _ | ⟨hour, rest⟩
  · rfl
  · simp only [Option.bind_eq_bind, Option.bind_some, (h.readTwo? hhour).readMark? (Or.inr rfl),
      Option.bind_none]

theorem NoMoment.readMoment? {cs : List Char} (h : NoMoment cs) : readMoment? cs = none := by
  rw [Toml.readMoment?, h.readDate?]
  exact h.readTime?

theorem noMoment_append {ds rest : List Char} (hds : ∀ c ∈ ds, c.isDigit = true)
    (hrest : ∀ c ∈ rest.head?, c.isDigit = false ∧ c ≠ '-' ∧ c ≠ ':') : NoMoment (ds ++ rest) := by
  rw [NoMoment, (Json.takeWhile_digits hds fun c hc => (hrest c hc).1).2]
  exact fun c hc => (hrest c hc).2

end Moments

section Numbers

/-- The digits of a number end here, and no letter says that they were not in base ten. -/
def EndsNumber (rest : List Char) : Prop :=
  ∀ c ∈ rest.head?, c.isDigit = false ∧ c ≠ '_' ∧ c ≠ 'x' ∧ c ≠ 'o' ∧ c ≠ 'b'

theorem endsNumber_line (rest : List Char) : EndsNumber ('\n' :: rest) := by
  rintro _ ⟨⟩
  decide

theorem endsNumber_point (rest : List Char) : EndsNumber ('.' :: rest) := by
  rintro _ ⟨⟩
  decide

/-- A numeral that begins with a digit is a number in base ten, and it is none of the words. -/
theorem readNumber?_append {whole rest : List Char} (negative : Bool) (h : AreDigits whole)
    (hlead : whole.head? = some '0' → whole = ['0'])
    (hrest : EndsNumber rest) :
    readNumber? ((if negative then ['-'] else []) ++ (whole ++ rest)) =
      readAfterWhole? negative whole rest := by
  have hwhole := readWhole?_append h hlead fun c hc => ⟨(hrest c hc).1, (hrest c hc).2.1⟩
  rcases h.exists_cons with ⟨d, ds, hds, hd⟩
  have hne : ∀ {c : Char}, c.isDigit = false → d ≠ c := by
    rintro c hc rfl
    exact absurd hd (Bool.eq_false_iff.mp hc)
  have hsign : readSign ((if negative then ['-'] else []) ++ (whole ++ rest)) =
      (negative, whole ++ rest) := by
    cases negative with
    | true => rfl
    | false =>
        rw [hds]
        change readSign (d :: (ds ++ rest)) = (false, d :: (ds ++ rest))
        rw [readSign]
        · exact fun _ heq => hne (by decide) (List.cons.inj heq).1
        · exact fun _ heq => hne (by decide) (List.cons.inj heq).1
  have hbase : ∀ {c : Char} {tail : List Char}, c = 'x' ∨ c = 'o' ∨ c = 'b' →
      (if negative then ['-'] else []) ++ (whole ++ rest) ≠ '0' :: c :: tail := by
    rintro c tail hc heq
    cases negative with
    | true => exact absurd (List.cons.inj heq).1 (by decide)
    | false =>
        change whole ++ rest = '0' :: c :: tail at heq
        -- The number is zero, and the letter would have to come right after it.
        have hzero : whole = ['0'] := hlead (by rw [hds] at heq ⊢; rw [(List.cons.inj heq).1]; rfl)
        rw [hzero] at heq
        have hletter := hrest c (by rw [show rest = c :: tail from (List.cons.inj heq).2]; rfl)
        rcases hc with rfl | rfl | rfl
        · exact hletter.2.2.1 rfl
        · exact hletter.2.2.2.1 rfl
        · exact hletter.2.2.2.2 rfl
  rw [readNumber?]
  · rw [hsign]
    simp only []
    split
    · next heq => exact absurd (List.cons.inj (hds ▸ heq)).1 (hne (by decide))
    · next heq => exact absurd (List.cons.inj (hds ▸ heq)).1 (hne (by decide))
    · rw [hwhole]
      rfl
  · exact fun _ => hbase (Or.inl rfl)
  · exact fun _ => hbase (Or.inr (Or.inl rfl))
  · exact fun _ => hbase (Or.inr (Or.inr rfl))

/-- A natural number is read back at the end of a line. -/
theorem readNumber?_natural {n : ℕ} (h : n < UInt64.size / 2) (rest : List Char) :
    readNumber? (Nat.toDigits 10 n ++ '\n' :: rest) = some (.integer n, '\n' :: rest) := by
  have hread := readNumber?_append false (Json.areDigits_toDigits n) (Json.eq_zero_of_head?_toDigits n)
    (endsNumber_line rest)
  rw [readAfterWhole?, ofDigits_eq (Json.areDigits_toDigits n).2, Nat.ofDigitChars_ten_toDigits,
    integer?] at hread
  · exact hread.trans (by rw [if_neg Bool.false_ne_true, if_pos h]; rfl)
  all_goals exact fun _ heq => absurd (List.cons.inj heq).1 (by decide)

/-- What the digits of a float stand for. -/
theorem readNumber?_float (negative : Bool) {whole fraction : List Char} (h : AreDigits whole)
    (hlead : whole.head? = some '0' → whole = ['0']) (hfraction : AreDigits fraction) (rest : List Char) :
    readNumber? ((if negative then ['-'] else []) ++ (whole ++ '.' :: (fraction ++ '\n' :: rest))) =
      (float? negative whole fraction 0).map fun v => (v, '\n' :: rest) := by
  have hends : ∀ c ∈ ('\n' :: rest).head?, c.isDigit = false ∧ c ≠ '_' := fun c hc =>
    ⟨(endsNumber_line rest c hc).1, (endsNumber_line rest c hc).2.1⟩
  rw [readNumber?_append negative h hlead (endsNumber_point _), readAfterWhole?,
    readDigits?_append hfraction hends]
  simp only [Option.bind_eq_bind, Option.bind_some, List.head?_cons]
  cases float? negative whole fraction 0 <;> rfl

end Numbers

section Floats

theorem not_mem_of_isDigit {ds : List Char} (h : ∀ c ∈ ds, c.isDigit = true) : '.' ∉ ds := fun hmem =>
  absurd (h '.' hmem) (by decide)

theorem head?_toDigits_ne {n : ℕ} (h : n ≠ 0) : (Nat.toDigits 10 n).head? ≠ some '0' := fun hhead => by
  have hzero := congrArg (fun ds => Nat.ofDigitChars 10 ds 0) (Json.eq_zero_of_head?_toDigits n hhead)
  simp only [Nat.ofDigitChars_ten_toDigits] at hzero
  exact h hzero

/-- The digits before and behind a point are those of a numeral that is not zero. -/
structure Splits (d : Decimal) (whole fraction : List Char) : Prop where
  areDigits : AreDigits whole ∧ AreDigits fraction
  lead : whole.head? = some '0' → whole = ['0']
  digits_ne : ofDigits 10 (whole ++ fraction) ≠ 0
  value_eq : Decimal.value ⟨ofDigits 10 (whole ++ fraction), 0 - fraction.length⟩ = d.value

/-- A numeral without a fraction is given one. -/
theorem splits_whole {d : Decimal} (h : d.digits ≠ 0) (hexponent : 0 ≤ d.exponent) :
    Splits d (Nat.toDigits 10 d.digits ++ List.replicate d.exponent.toNat '0') ['0'] := by
  have hds := Json.areDigits_toDigits d.digits
  have hzeros : ∀ c ∈ List.replicate d.exponent.toNat '0', c.isDigit = true := fun c hc => by
    rw [(List.mem_replicate.mp hc).2]
    rfl
  have hwhole : AreDigits (Nat.toDigits 10 d.digits ++ List.replicate d.exponent.toNat '0') :=
    ⟨List.append_ne_nil_of_left_ne_nil hds.1 _, fun c hc => (List.mem_append.mp hc).elim (hds.2 c) (hzeros c)⟩
  have hfraction : AreDigits ['0'] := Json.areDigits_toDigits 0
  have hdigits : ofDigits 10 (Nat.toDigits 10 d.digits ++ List.replicate d.exponent.toNat '0' ++ ['0']) =
      10 ^ (d.exponent.toNat + 1) * d.digits := by
    rw [ofDigits_eq fun c hc => (List.mem_append.mp hc).elim (hwhole.2 c) (hfraction.2 c), List.append_assoc,
      ← List.replicate_succ', Nat.ofDigitChars_append, Nat.ofDigitChars_replicate_zero,
      Nat.ofDigitChars_ten_toDigits]
  refine ⟨⟨hwhole, hfraction⟩, fun hhead => ?_, ?_, ?_⟩
  · rw [List.head?_append_of_ne_nil _ hds.1] at hhead
    exact absurd hhead (head?_toDigits_ne h)
  · rw [hdigits]
    exact Nat.mul_ne_zero (Nat.pow_pos (by decide)).ne' h
  · have hnat : ((d.exponent.toNat : ℕ) : ℤ) = d.exponent := Int.toNat_of_nonneg hexponent
    rw [Decimal.value, Decimal.value, hdigits]
    simp only [List.length_singleton]
    rw [Nat.cast_mul, Nat.cast_pow, Nat.cast_ofNat, ← zpow_natCast, Nat.cast_add, hnat, Nat.cast_one,
      mul_right_comm, ← zpow_add₀ (by norm_num), zero_sub, add_neg_cancel_right, mul_comm]

/-- A numeral with a fraction has zeros in front, if there would be no digit before the point. -/
theorem splits_fraction {d : Decimal} (h : d.digits ≠ 0) (hexponent : d.exponent < 0) :
    ∃ whole fraction, Splits d whole fraction ∧ d.positional.toList = whole ++ '.' :: fraction := by
  have hds := Json.areDigits_toDigits d.digits
  obtain ⟨places, hplaces⟩ : ∃ places : ℕ, d.exponent = -(places : ℤ) := ⟨(-d.exponent).toNat, by omega⟩
  have hpos : 0 < places := by omega
  -- Zeros are put in front until there is a digit before the point.
  generalize hpadded : List.replicate (places + 1 - (Nat.toDigits 10 d.digits).length) '0' ++
    Nat.toDigits 10 d.digits = padded
  have hdigits : ∀ c ∈ padded, c.isDigit = true := fun c hc => by
    rw [← hpadded] at hc
    rcases List.mem_append.mp hc with hc | hc
    · rw [(List.mem_replicate.mp hc).2]
      rfl
    · exact hds.2 c hc
  have hlength : padded.length = max (places + 1) (Nat.toDigits 10 d.digits).length := by
    rw [← hpadded, List.length_append, List.length_replicate]
    omega
  have hvalue : ofDigits 10 padded = d.digits := by
    rw [ofDigits_eq hdigits, ← hpadded, Nat.ofDigitChars_append, Nat.ofDigitChars_replicate_zero,
      Nat.mul_zero, Nat.ofDigitChars_ten_toDigits]
  refine ⟨padded.take (padded.length - places), padded.drop (padded.length - places),
    ⟨⟨⟨?_, fun c hc => hdigits c (List.mem_of_mem_take hc)⟩,
      ⟨?_, fun c hc => hdigits c (List.mem_of_mem_drop hc)⟩⟩, ?_, ?_, ?_⟩, ?_⟩
  · rw [Ne, List.take_eq_nil_iff]
    rintro (hzero | rfl)
    · omega
    · rw [List.length_nil] at hlength
      omega
  · rw [Ne, List.drop_eq_nil_iff]
    omega
  · intro hhead
    rw [List.head?_take, if_neg (by omega)] at hhead
    by_cases hshort : (Nat.toDigits 10 d.digits).length ≤ places
    · -- There is one digit before the point.
      have hone : padded.length - places = 1 := by omega
      rw [hone]
      rcases List.head?_eq_some_iff.mp hhead with ⟨tail, rfl⟩
      rfl
    · rw [show places + 1 - (Nat.toDigits 10 d.digits).length = 0 by omega, List.replicate_zero,
        List.nil_append] at hpadded
      rw [← hpadded] at hhead
      exact absurd hhead (head?_toDigits_ne h)
  · rw [List.take_append_drop, hvalue]
    exact h
  · rw [List.take_append_drop, hvalue, List.length_drop, Decimal.value, Decimal.value, hplaces]
    simp only
    congr 2
    omega
  · have hnat : (-d.exponent).toNat = places := by omega
    rw [Decimal.positional]
    simp only [if_neg (not_le.mpr hexponent), hnat, hpadded, String.toList_ofList]

theorem exists_splits {d : Decimal} (h : d.digits ≠ 0) :
    ∃ whole fraction, Splits d whole fraction ∧
      (if d.positional.toList.contains '.' then d.positional else d.positional ++ ".0").toList =
        whole ++ '.' :: fraction := by
  by_cases hexponent : 0 ≤ d.exponent
  · have hsplits := splits_whole h hexponent
    refine ⟨_, _, hsplits, ?_⟩
    have htext : d.positional.toList = Nat.toDigits 10 d.digits ++ List.replicate d.exponent.toNat '0' := by
      rw [Decimal.positional]
      simp only [if_pos hexponent, String.toList_ofList]
    have hpoint : ¬ d.positional.toList.contains '.' = true := by
      rw [List.contains_iff_mem, htext]
      exact not_mem_of_isDigit hsplits.areDigits.1.2
    rw [if_neg hpoint, String.toList_append, htext]
    rfl
  · rcases splits_fraction h (not_le.mp hexponent) with ⟨whole, fraction, hsplits, htext⟩
    refine ⟨whole, fraction, hsplits, ?_⟩
    rw [if_pos, htext]
    rw [List.contains_iff_mem, htext]
    exact List.mem_append_right whole List.mem_cons_self

/-- The double is finite, and only zero has a sign. -/
def IsWritable (x : Float) : Prop :=
  x.isFinite = true ∧ ((floatParts x).negative = true → (floatParts x).mantissa = 0)

/-- Only the two zeros have no digits. -/
theorem eq_zero_of_mantissa {x : Float} (h : (floatParts x).mantissa = 0) :
    x = if (floatParts x).negative then -0.0 else 0.0 := by
  have hbits := x.toBits.toNat_lt
  have hpow : Nat.pow 2 52 = 2 ^ 52 ∧ Nat.pow 2 11 = 2 ^ 11 ∧ Nat.pow 2 63 = 2 ^ 63 := ⟨rfl, rfl, rfl⟩
  rw [floatParts] at h ⊢
  simp only [hpow] at h ⊢
  -- A normal double has a digit that is not stored.
  have hbiased : x.toBits.toNat / 2 ^ 52 % 2 ^ 11 = 0 := by
    by_contra hne
    rw [if_neg hne] at h
    omega
  rw [if_pos hbiased] at h
  rw [← Float.toBits_inj, ← UInt64.toNat_inj]
  by_cases hnegative : x.toBits.toNat / 2 ^ 63 = 1
  · have hzero : (-0.0 : Float).toBits.toNat = 2 ^ 63 := by decide +kernel
    rw [if_pos (beq_iff_eq.mpr hnegative), hzero]
    omega
  · have hzero : (0.0 : Float).toBits.toNat = 0 := by decide +kernel
    rw [if_neg fun h => hnegative (beq_iff_eq.mp h), hzero]
    omega

theorem beq_infinity {x : Float} (h : x.isFinite = true) : (x == 1.0 / 0.0) = false := by
  have hinfinity : (1.0 / 0.0 : Float).isFinite = false ∧ (0 : Float).isFinite = true ∧
      (-0 : Float).isFinite = true := by
    decide +kernel
  by_contra hcon
  rcases (Float.beq_iff_ne_nan_and_eq.mp (Bool.eq_true_of_not_eq_false hcon)).2.2 with
    heq | ⟨-, heq⟩ | ⟨-, heq⟩
  · rw [heq, hinfinity.1] at h
    exact Bool.false_ne_true h
  · rw [heq, hinfinity.2.2] at hinfinity
    exact Bool.false_ne_true hinfinity.1.symm
  · rw [heq, hinfinity.2.1] at hinfinity
    exact Bool.false_ne_true hinfinity.1.symm

/-- A finite double is written with digits on both sides of a point. -/
theorem exists_floatText {x : Float} (hx : IsWritable x) :
    ∃ whole fraction : List Char, AreDigits whole ∧ (whole.head? = some '0' → whole = ['0']) ∧
      AreDigits fraction ∧
      (floatText x).toList = (if (floatParts x).negative then ['-'] else []) ++ (whole ++ '.' :: fraction) ∧
      float? (floatParts x).negative whole fraction 0 = some (.float x) := by
  by_cases hm : (floatParts x).mantissa = 0
  · -- Zero is written with its sign and read with it.
    have hzero := eq_zero_of_mantissa hm
    refine ⟨['0'], ['0'], Json.areDigits_toDigits 0, fun _ => rfl, Json.areDigits_toDigits 0, ?_, ?_⟩
    · rw [floatText]
      simp only [if_pos hm]
      cases (floatParts x).negative <;> decide +kernel
    · generalize (floatParts x).negative = negative at hzero ⊢
      have hread : Decimal.toFloat ⟨ofDigits 10 (['0'] ++ ['0']), 0 - (['0'] : List Char).length⟩ = 0.0 := by
        rw [Decimal.toFloat]
        exact if_pos rfl
      rw [float?, hread, hzero]
      cases negative with
      | true => rfl
      | false => simp only [beq_infinity (x := 0.0) (by decide +kernel), if_neg Bool.false_ne_true]
  · -- Everything else is its own absolute value.
    have hsign : (floatParts x).negative = false := Bool.eq_false_iff.mpr fun h => hm (hx.2 h)
    rcases Decimal.toFloat_shortest hx.1 hsign hm with ⟨hne, hreads⟩
    rcases exists_splits hne with ⟨whole, fraction, hsplits, htext⟩
    refine ⟨whole, fraction, hsplits.areDigits.1, hsplits.lead, hsplits.areDigits.2, ?_, ?_⟩
    · rw [floatText]
      simp only [if_neg hm, hsign, if_neg Bool.false_ne_true]
      exact htext
    · rw [float?, hsign, if_neg Bool.false_ne_true,
        Decimal.toFloat_congr hsplits.digits_ne hne hsplits.value_eq, hreads]
      simp only [beq_infinity hx.1, if_neg Bool.false_ne_true]

end Floats

end Toml

end Replatform
