import Mathlib
import Replatform.Decimal
import Replatform.Proofs.Double

/-!
# Rounding to Doubles

A decimal numeral is read by multiplying or dividing two doubles if it is short, and by shifting
large natural numbers if it is not. Either way the result is rounded, and what is rounded is a
mantissa of as many digits as happened to be there, together with what is known of the digits that
were not. That the same double comes out, however the number was written, is seen by forgetting the
digits: `extended` is what rounding can know of a rational number, and `roundWithAccuracy_eq` says
that it is all that rounding looks at.

A double is the one nearest to its own value, since it has as many digits as it can have. So the
numeral with all digits of a double reads back, and a numeral with fewer of them is only taken for
one if it reads back as well. Zeros at its end may go, because they do not change the number.

The bounds that keep a numeral with a huge exponent from being worked out depend on the number alone,
too: the digits of a numeral and its exponent together say how large it is.

## Main definitions

* `Rounding.extended`: What rounding knows of a number.
* `Rounding.nearest`: The number in the format that is nearest to a positive one.
* `Decimal.value`: The number that a numeral stands for.
* `Decimal.nearestFloat`: The double nearest to a positive number.

## Theorems

* `Rounding.roundWithAccuracy_eq`: Rounding only looks at the number.
* `Rounding.mul_finite`, `div_finite`: Products and quotients are rounded once.
* `Rounding.nearest_exact`: A number in the format is nearest to itself.
* `Decimal.toFloat_congr`: Which double is read only depends on the number that is written.
* `Decimal.toFloat_shortest`: The numeral that a double is written as reads back.
-/

namespace Replatform

open Float.Model Float.Model.UnpackedFloat

namespace Rounding

/-- A rational number cut to a natural number, and what is known of the rest. -/
def extended (r : ℚ) : ExtendedMantissa :=
  ⟨⌊r⌋₊, decide (⌊2 * r⌋₊ % 2 = 1), decide ((⌊2 * r⌋₊ : ℚ) ≠ 2 * r)⟩

theorem shiftRightOne_extended (r : ℚ) :
    (extended r).shiftRightOne = extended (r / 2) := by
  have htwice : 2 * (r / 2) = r := mul_div_cancel₀ r two_ne_zero
  -- The bit that was cut off before joins what was known of the rest.
  have hsticky : (⌊2 * r⌋₊ % 2 = 1 ∨ (⌊2 * r⌋₊ : ℚ) ≠ 2 * r) ↔ (⌊r⌋₊ : ℚ) ≠ r := by
    constructor
    · rintro h hfloor
      have hint : 2 * r = ((2 * ⌊r⌋₊ : ℕ) : ℚ) := by push_cast; rw [hfloor]
      rw [hint, Nat.floor_natCast] at h
      rcases h with h | h
      · omega
      · exact h rfl
    · intro hne
      by_contra hcon
      rw [not_or, not_not] at hcon
      -- Twice the number is even, and so the number is whole.
      obtain ⟨k, hk⟩ : ∃ k, ⌊2 * r⌋₊ = 2 * k := ⟨⌊2 * r⌋₊ / 2, by omega⟩
      have hr : r = (k : ℚ) := by
        have h := hcon.2
        rw [hk] at h
        push_cast at h
        linarith
      exact hne (by rw [hr, Nat.floor_natCast])
  rw [extended, extended, ExtendedMantissa.shiftRightOne, htwice]
  refine ExtendedMantissa.mk.injEq .. ▸ ⟨(Nat.floor_div_ofNat r 2).symm, ?_, ?_⟩
  · change (⌊r⌋₊ % 2 != 0) = _
    rw [Bool.eq_iff_iff, bne_iff_ne, decide_eq_true_iff]
    omega
  · rw [Bool.eq_iff_iff, Bool.or_eq_true, decide_eq_true_iff, decide_eq_true_iff, decide_eq_true_iff]
    exact hsticky

theorem shiftRight_extended (r : ℚ) (k : ℕ) :
    extended r >>> k = extended (r / 2 ^ k) := by
  change Nat.repeat ExtendedMantissa.shiftRightOne k (extended r) = _
  induction k with
  | zero => rw [Nat.repeat, pow_zero, div_one]
  | succ k ih =>
      rw [Nat.repeat, ih, shiftRightOne_extended, div_div, pow_succ]

/-- What is exact is a natural number. -/
theorem ofMantissaAndAccuracy_exact (m : ℕ) :
    ExtendedMantissa.ofMantissaAndAccuracy m .exact = extended m := by
  have htwice : 2 * (m : ℚ) = ((2 * m : ℕ) : ℚ) := by push_cast; rfl
  rw [extended, htwice, Nat.floor_natCast, Nat.floor_natCast, ExtendedMantissa.ofMantissaAndAccuracy]
  refine ExtendedMantissa.mk.injEq .. ▸ ⟨rfl, ?_, ?_⟩
  · exact (decide_eq_false (by omega)).symm
  · exact (decide_eq_false (not_not.mpr rfl)).symm

/-- What is left of a division says how the quotient is to be rounded. -/
theorem ofMantissaAndAccuracy_fraction (a : ℕ) {b : ℕ} (hb : 0 < b) :
    ExtendedMantissa.ofMantissaAndAccuracy (a / b) (accuracyOfFraction (a % b) b) =
      extended ((a : ℚ) / b) := by
  have htwice : 2 * ((a : ℚ) / b) = ((2 * a : ℕ) : ℚ) / b := by push_cast; ring
  have hsplit : 2 * a / b = 2 * (a / b) + 2 * (a % b) / b := by
    conv_lhs => rw [← Nat.div_add_mod a b]
    rw [Nat.mul_add, show 2 * (b * (a / b)) = b * (2 * (a / b)) by ring, Nat.mul_add_div hb]
  have hwhole : (((2 * a / b : ℕ) : ℚ) = ((2 * a : ℕ) : ℚ) / b) ↔ 2 * (a % b) % b = 0 := by
    rw [eq_div_iff (by positivity), ← Nat.cast_mul, Nat.cast_inj, Nat.mul_mod_mod]
    have h := Nat.div_add_mod' (2 * a) b
    omega
  have hrest := Nat.mod_lt a hb
  rw [extended, htwice, Nat.floor_div_eq_div, Nat.floor_div_eq_div, accuracyOfFraction]
  simp only [ne_eq, hwhole]
  rw [hsplit, Nat.mul_add_mod]
  by_cases hzero : a % b = 0
  · rw [if_pos hzero, hzero]
    simp [ExtendedMantissa.ofMantissaAndAccuracy]
  · rw [if_neg hzero]
    rcases lt_trichotomy (2 * (a % b)) b with h | h | h
    · rw [compare_lt_iff_lt.mpr h, Nat.div_eq_of_lt h, Nat.mod_eq_of_lt h]
      simp [ExtendedMantissa.ofMantissaAndAccuracy, hzero]
    · rw [compare_eq_iff_eq.mpr h, h, Nat.div_self hb, Nat.mod_self]
      simp [ExtendedMantissa.ofMantissaAndAccuracy]
    · have hdiv : 2 * (a % b) / b = 1 := Nat.div_eq_of_lt_le (by omega) (by omega)
      have hmod : 2 * (a % b) % b ≠ 0 := by
        rw [Nat.mod_eq_sub_mod h.le, Nat.mod_eq_of_lt (by omega)]
        omega
      rw [Nat.mul_mod_mod] at hmod
      rw [compare_gt_iff_gt.mpr h, hdiv]
      simp [ExtendedMantissa.ofMantissaAndAccuracy, hmod]

/-- The exponent of the double nearest to a positive number. -/
def exponentOf (r : ℚ) : ℤ :=
  Format.binary64.targetExponent (Int.log 2 r + 1)

theorem targetExponent_eq (t : ℤ) : Format.binary64.targetExponent t = max (t - 53) (-1074) :=
  rfl

theorem log_mul_zpow {b : ℕ} (hb : 1 < b) {r : ℚ} (hr : 0 < r) (e : ℤ) :
    Int.log b (r * (b : ℚ) ^ e) = Int.log b r + e := by
  have hbase : (0 : ℚ) < b := Nat.cast_pos.mpr (zero_lt_one.trans hb)
  have hpow : (0 : ℚ) < (b : ℚ) ^ e := zpow_pos hbase e
  have hbound : ∀ k : ℤ, k ≤ Int.log b (r * (b : ℚ) ^ e) ↔ k ≤ Int.log b r + e := fun k => by
    rw [← Int.zpow_le_iff_le_log hb (mul_pos hr hpow), ← sub_le_iff_le_add,
      ← Int.zpow_le_iff_le_log hb hr, zpow_sub₀ hbase.ne', div_le_iff₀ hpow]
  exact le_antisymm ((hbound _).mp le_rfl) ((hbound _).mpr le_rfl)

theorem log_div_zpow {r : ℚ} (hr : 0 < r) (e : ℤ) : Int.log 2 (r / 2 ^ e) = Int.log 2 r - e := by
  have hlog := log_mul_zpow one_lt_two hr (-e)
  rwa [Nat.cast_ofNat, zpow_neg, ← div_eq_mul_inv, ← sub_eq_add_neg] at hlog

/-- The position of the first digit of a number whose digits are all there. -/
theorem log_scaled {m : ℕ} (hm : 0 < m) (e : ℤ) :
    Int.log 2 ((m : ℚ) * 2 ^ e) = (Nat.log2 m : ℤ) + e := by
  have hlog := log_mul_zpow one_lt_two (Nat.cast_pos.mpr hm : (0 : ℚ) < m) e
  rwa [Nat.cast_ofNat, Int.log_natCast, ← Nat.log2_eq_log_two] at hlog

/-- The digits that are cut off do not change the exponent. -/
theorem targetExponent_cut {r : ℚ} (hr : 0 < r) {e : ℤ} (he : e ≤ exponentOf r) :
    Format.binary64.targetExponent (totalExponent ⌊r / 2 ^ e⌋₊ e) = exponentOf r := by
  have hpow : (0 : ℚ) < 2 ^ e := by positivity
  rw [exponentOf, targetExponent_eq] at *
  rw [targetExponent_eq, totalExponent]
  -- With no digit left in front of the point, the least exponent of the format decides.
  by_cases hsmall : r / 2 ^ e < 1
  · have hlog : Int.log 2 r < e := by
      rw [div_lt_one hpow] at hsmall
      exact (Int.lt_zpow_iff_log_lt one_lt_two hr).mp hsmall
    rw [Nat.floor_eq_zero.mpr hsmall, Nat.log2_zero]
    omega
  · have hlog : Int.log 2 (r / 2 ^ e) = (Nat.log2 ⌊r / 2 ^ e⌋₊ : ℤ) := by
      rw [Int.log_of_one_le_right 2 (not_lt.mp hsmall), Nat.log2_eq_log_two]
    rw [← hlog, log_div_zpow hr]
    congr 1
    ring

/-- The number in the format that is nearest to a positive number, which may be beyond the
largest double. -/
def nearest (s : Sign) (r : ℚ) : UnpackedFloat :=
  let rounded := (extended (r / 2 ^ exponentOf r)).roundedMantissa
  let (em, e) := shiftToTargetExponent .binary64 rounded (exponentOf r) .exact
  if h : em.mantissa = 0 then .zero s else .finite s em.mantissa e (Nat.pos_of_ne_zero h)

theorem mantissa_ofMantissaAndAccuracy (m : ℕ) (accuracy : Accuracy) :
    (ExtendedMantissa.ofMantissaAndAccuracy m accuracy).mantissa = m := by
  rcases accuracy with _ | (_ | _ | _) <;> rfl

/-- Rounding only looks at the number that is rounded, however many of its digits were there. -/
theorem roundWithAccuracy_eq {r : ℚ} (hr : 0 < r) (s : Sign) {m : ℕ} {e : ℤ} {accuracy : Accuracy}
    (hcut : ExtendedMantissa.ofMantissaAndAccuracy m accuracy = extended (r / 2 ^ e))
    (he : e ≤ exponentOf r) :
    roundWithAccuracy .binary64 s m e accuracy = nearest s r := by
  have hm : m = ⌊r / 2 ^ e⌋₊ :=
    (mantissa_ofMantissaAndAccuracy m accuracy).symm.trans (congrArg ExtendedMantissa.mantissa hcut)
  have hshift : shiftToTargetExponent .binary64 m e accuracy =
      (extended (r / 2 ^ exponentOf r), exponentOf r) := by
    have hnat : (((exponentOf r - e).toNat : ℕ) : ℤ) = exponentOf r - e :=
      Int.toNat_of_nonneg (sub_nonneg.mpr he)
    rw [shiftToTargetExponent, hm, targetExponent_cut hr he, ← hm, shiftToExponent]
    refine Prod.ext ?_ ?_
    · change ExtendedMantissa.ofMantissaAndAccuracy m accuracy >>> (exponentOf r - e).toNat = _
      rw [hcut, shiftRight_extended, div_div, ← zpow_natCast, hnat, ← zpow_add₀ two_ne_zero,
        add_sub_cancel]
    · change e + ((exponentOf r - e).toNat : ℤ) = _
      rw [hnat, add_sub_cancel]
  rw [roundWithAccuracy, hshift]
  rfl

/-- A number that the format has is nearest to itself. -/
theorem nearest_exact (s : Sign) {m : ℕ} {e : ℤ} (hm : 0 < m)
    (he : Format.binary64.targetExponent (totalExponent m e) = e) :
    nearest s ((m : ℚ) * 2 ^ e) = .finite s m e hm := by
  have hpow : (2 : ℚ) ^ e ≠ 0 := by positivity
  have hexponent : exponentOf ((m : ℚ) * 2 ^ e) = e := by
    rw [exponentOf, log_scaled hm, add_right_comm, ← totalExponent, he]
  have hrounded : (extended ((m : ℚ) * 2 ^ e / 2 ^ e)).roundedMantissa = m := by
    rw [mul_div_cancel_right₀ _ hpow, ← ofMantissaAndAccuracy_exact]
    rfl
  have hshift : shiftToTargetExponent .binary64 m e .exact = (⟨m, false, false⟩, e) := by
    rw [shiftToTargetExponent, he, shiftToExponent, sub_self]
    exact Prod.ext rfl (add_zero e)
  simp only [nearest, hexponent, hrounded, hshift]
  exact dif_neg hm.ne'

theorem mul_finite (s₁ s₂ : Sign) {m₁ m₂ : ℕ} {e₁ e₂ : ℤ} (h₁ : 0 < m₁) (h₂ : 0 < m₂)
    (he : e₁ + e₂ ≤ exponentOf ((m₁ : ℚ) * 2 ^ e₁ * (m₂ * 2 ^ e₂))) :
    UnpackedFloat.mul .binary64 (.finite s₁ m₁ e₁ h₁) (.finite s₂ m₂ e₂ h₂) =
      nearest (s₁ * s₂) ((m₁ : ℚ) * 2 ^ e₁ * (m₂ * 2 ^ e₂)) := by
  refine roundWithAccuracy_eq (by positivity) _ ?_ he
  have hpow : (2 : ℚ) ^ (e₁ + e₂) ≠ 0 := by positivity
  have hcut : (m₁ : ℚ) * 2 ^ e₁ * (m₂ * 2 ^ e₂) / 2 ^ (e₁ + e₂) = (m₁ * m₂ : ℕ) := by
    rw [div_eq_iff hpow, zpow_add₀ two_ne_zero]
    push_cast
    ring
  rw [ofMantissaAndAccuracy_exact, hcut]

/-- The first digit of a quotient is where the first digits of both numbers say, or one below. -/
theorem log_le_of_div {m₁ m₂ : ℕ} (e₁ e₂ : ℤ) (h₁ : 0 < m₁) (h₂ : 0 < m₂) :
    (Nat.log2 m₁ : ℤ) + e₁ ≤
      Int.log 2 ((m₁ : ℚ) * 2 ^ e₁ / (m₂ * 2 ^ e₂)) + 1 + (Nat.log2 m₂ + e₂) := by
  have hr : (0 : ℚ) < m₁ * 2 ^ e₁ / (m₂ * 2 ^ e₂) := by positivity
  generalize hvalue : (m₁ : ℚ) * 2 ^ e₁ / (m₂ * 2 ^ e₂) = r at hr ⊢
  rw [← log_scaled h₁, ← log_scaled h₂]
  have hprod : (m₁ : ℚ) * 2 ^ e₁ = r * (m₂ * 2 ^ e₂) := by
    rw [← hvalue, div_mul_cancel₀]
    positivity
  have hlt : (m₁ : ℚ) * 2 ^ e₁ < 2 ^ (Int.log 2 r + 1 + Int.log 2 ((m₂ : ℚ) * 2 ^ e₂) + 1) := by
    rw [hprod, add_assoc, zpow_add₀ two_ne_zero]
    exact mul_lt_mul'' (Int.lt_zpow_succ_log_self one_lt_two r)
      (Int.lt_zpow_succ_log_self one_lt_two _) hr.le (by positivity)
  have hlog := (Int.lt_zpow_iff_log_lt one_lt_two (by positivity)).mp hlt
  omega

theorem div_finite (s₁ s₂ : Sign) {m₁ m₂ : ℕ} {e₁ e₂ : ℤ} (h₁ : 0 < m₁) (h₂ : 0 < m₂) :
    UnpackedFloat.div .binary64 (.finite s₁ m₁ e₁ h₁) (.finite s₂ m₂ e₂ h₂) =
      nearest (s₁ / s₂) ((m₁ : ℚ) * 2 ^ e₁ / (m₂ * 2 ^ e₂)) := by
  have hr : (0 : ℚ) < m₁ * 2 ^ e₁ / (m₂ * 2 ^ e₂) := by positivity
  have hlog := log_le_of_div e₁ e₂ h₁ h₂
  generalize hvalue : (m₁ : ℚ) * 2 ^ e₁ / (m₂ * 2 ^ e₂) = r at hr hlog ⊢
  generalize htarget : min (e₁ - e₂) (Format.binary64.targetExponent
    (totalExponent m₁ e₁ - totalExponent m₂ e₂)) = e
  -- The exponent of the division may be too low, but not too high.
  have he : e ≤ exponentOf r := by
    rw [exponentOf, targetExponent_eq]
    rw [targetExponent_eq, totalExponent, totalExponent] at htarget
    omega
  have hnat : (((e₁ - e₂ - e).toNat : ℕ) : ℤ) = e₁ - e₂ - e := Int.toNat_of_nonneg (by omega)
  have hcut : r / 2 ^ e = ((m₁ <<< (e₁ - e₂ - e).toNat : ℕ) : ℚ) / m₂ := by
    have hpow : (2 : ℚ) ^ (e₁ - e₂ - e) = 2 ^ e₁ / 2 ^ e₂ / 2 ^ e := by
      rw [zpow_sub₀ two_ne_zero, zpow_sub₀ two_ne_zero]
    rw [← hvalue, Nat.shiftLeft_eq, Nat.cast_mul, Nat.cast_pow, Nat.cast_ofNat, ← zpow_natCast, hnat, hpow]
    field_simp
  rw [UnpackedFloat.div, divCore]
  simp only [htarget]
  refine roundWithAccuracy_eq hr _ ?_ he
  rw [ofMantissaAndAccuracy_fraction _ h₂, hcut]

theorem exponentOf_ge {r : ℚ} (hr : 1 ≤ r) : -52 ≤ exponentOf r := by
  have hlog : 0 ≤ Int.log 2 r :=
    (Int.zpow_le_iff_le_log one_lt_two (zero_lt_one.trans_le hr)).mp (by rwa [zpow_zero])
  rw [exponentOf, targetExponent_eq]
  omega

/-- Scientific notation is rounded once, if it is not far outside the range of doubles. -/
theorem ofScientific_eq {m : ℕ} (hm : 0 < m) {e : ℤ} (hhigh : e ≤ 2 ^ 11)
    (hlow : -(2 ^ 11 + (Nat.log2 m : ℤ)) ≤ e) :
    UnpackedFloat.ofScientific .binary64 m e = nearest .positive ((m : ℚ) * 10 ^ e) := by
  have hhigh' : ¬ e > 2 ^ Format.binary64.exponentBits := not_lt.mpr hhigh
  have hlow' : ¬ e < -((2 ^ Format.binary64.exponentBits : ℤ) + m.log2) := not_lt.mpr hlow
  rw [UnpackedFloat.ofScientific, dif_neg hm.ne', if_neg hhigh', if_neg hlow']
  by_cases hsign : 0 ≤ e
  · have hnat : ((e.toNat : ℕ) : ℤ) = e := Int.toNat_of_nonneg hsign
    have hvalue : ((m <<< 53 : ℕ) : ℚ) * 2 ^ (-53 : ℤ) * (((10 ^ e.toNat : ℕ) : ℚ) * 2 ^ (0 : ℤ)) =
        m * 10 ^ e := by
      rw [Nat.shiftLeft_eq, Nat.cast_mul, Nat.cast_pow, Nat.cast_pow, ← zpow_natCast, ← zpow_natCast,
        hnat, Nat.cast_ofNat, Nat.cast_ofNat, mul_assoc (m : ℚ), ← zpow_add₀ two_ne_zero, Nat.cast_ofNat,
        add_neg_cancel, zpow_zero, mul_one, mul_one]
    have hone : (1 : ℚ) ≤ m * 10 ^ e :=
      one_le_mul_of_one_le_of_one_le (Nat.one_le_cast.mpr hm) (one_le_zpow₀ (by norm_num) hsign)
    have hexponent : (-53 : ℤ) + 0 ≤
        exponentOf (((m <<< 53 : ℕ) : ℚ) * 2 ^ (-53 : ℤ) * (((10 ^ e.toNat : ℕ) : ℚ) * 2 ^ (0 : ℤ))) := by
      rw [hvalue]
      exact le_trans (by decide) (exponentOf_ge hone)
    rw [if_pos hsign, ← hvalue]
    exact mul_finite .positive .positive _ _ hexponent
  · have hnat : (((-e).toNat : ℕ) : ℤ) = -e := Int.toNat_of_nonneg (by omega)
    have hvalue : (m : ℚ) * 2 ^ (0 : ℤ) / (((10 ^ (-e).toNat : ℕ) : ℚ) * 2 ^ (0 : ℤ)) = m * 10 ^ e := by
      rw [Nat.cast_pow, ← zpow_natCast, hnat, Nat.cast_ofNat, zpow_zero, mul_one, mul_one, zpow_neg,
        div_inv_eq_mul]
    rw [if_neg hsign, ← hvalue]
    exact div_finite .positive .positive _ _

theorem pack_normal (s : Sign) {m : ℕ} {e : ℤ} (hm : 0 < m) (hlog : Nat.log2 m = 52)
    (hhigh : e ≤ 971) :
    UnpackedFloat.pack .binary64 (.finite s m e hm) =
      packComponents .binary64 s (BitVec.ofNat 11 (e + 1075).toNat) (BitVec.ofNat 52 m) := by
  have hexponent : (e + (Format.binary64.exponentBias : ℤ) +
      (Format.binary64.mantissaBitsWithoutImplicit : ℤ)).toNat = (e + 1075).toNat := by
    rw [add_assoc]
    rfl
  have hfinite : ¬ 2 ^ Format.binary64.exponentBits ≤ (e + 1075).toNat + 1 := by
    change ¬ 2048 ≤ (e + 1075).toNat + 1
    omega
  rw [UnpackedFloat.pack]
  simp only [hexponent]
  rw [if_neg hfinite, if_pos (by rw [hlog]; rfl)]

theorem unpack_normal (s : Sign) {e : BitVec 11} {m : BitVec 52} (hleast : e ≠ 0#11) (hlast : e ≠ -1#11)
    (h : 0 < (1#1 ++ m).toNat) :
    UnpackedFloat.unpack .binary64 (packComponents .binary64 s e m) =
      .finite s (1#1 ++ m).toNat (e.toNat - 1075) h := by
  have hbias : ((Format.binary64.exponentBias : ℤ) +
    (Format.binary64.mantissaBitsWithoutImplicit : ℤ)) = 1075 := rfl
  have hsign : Sign.ofBitVec (unpackSign (packComponents .binary64 s e m)) = s := by
    rw [unpackSign_packComponents, Sign.ofBitVec_toBitVec]
  simp only [UnpackedFloat.unpack, unpackMantissa_packComponents, unpackExponent_packComponents,
    hsign, hbias, if_neg hlast, if_neg hleast]

/-- A double with all the digits it can have is kept as it is. -/
theorem unpack_pack_normal (s : Sign) {m : ℕ} {e : ℤ} (hm : 0 < m) (hlog : Nat.log2 m = 52)
    (hlow : -1074 ≤ e) (hhigh : e ≤ 971) :
    (Float.Model.pack (.finite s m e hm)).unpack = .finite s m e hm := by
  have hlower : 2 ^ 52 ≤ m := hlog ▸ Nat.log2_self_le hm.ne'
  have hupper : m < 2 ^ 53 := (Nat.log2_lt hm.ne').mp (hlog ▸ Nat.lt_succ_self 52)
  have hexponent : (BitVec.ofNat 11 (e + 1075).toNat).toNat = (e + 1075).toNat := by
    rw [BitVec.toNat_ofNat, Nat.mod_eq_of_lt (by omega)]
  have hmantissa : (1#1 ++ BitVec.ofNat 52 m).toNat = m := by
    have hpow : Nat.pow 2 52 = 2 ^ 52 := rfl
    rw [toNat_one_append, BitVec.toNat_ofNat, hpow]
    omega
  have hleast : BitVec.ofNat 11 (e + 1075).toNat ≠ 0#11 := fun h => by
    have h' := hexponent.symm.trans (congrArg BitVec.toNat h)
    rw [BitVec.toNat_ofNat] at h'
    omega
  have hlast : BitVec.ofNat 11 (e + 1075).toNat ≠ -1#11 := fun h => by
    have h' : (e + 1075).toNat = 2047 := hexponent.symm.trans (congrArg BitVec.toNat h)
    omega
  change UnpackedFloat.unpack .binary64 (UnpackedFloat.pack .binary64 (.finite s m e hm)) = _
  rw [pack_normal s hm hlog hhigh, unpack_normal s hleast hlast (hm.trans_eq hmantissa.symm)]
  refine UnpackedFloat.finite.injEq .. ▸ ⟨rfl, hmantissa, ?_⟩
  rw [hexponent]
  omega

/-- Rounding a number whose digits are all there. -/
theorem round_eq (s : Sign) {m : ℕ} (hm : 0 < m) (e : ℤ) :
    UnpackedFloat.round .binary64 s m e = nearest s ((m : ℚ) * 2 ^ e) := by
  have hr : (0 : ℚ) < m * 2 ^ e := by positivity
  have htarget : Format.binary64.targetExponent (totalExponent m e) = exponentOf ((m : ℚ) * 2 ^ e) := by
    rw [exponentOf, log_scaled hm, totalExponent, add_right_comm]
  rw [UnpackedFloat.round, htarget, decreaseExponent]
  generalize hk : (e - exponentOf ((m : ℚ) * 2 ^ e)).toNat = k
  refine roundWithAccuracy_eq hr s ?_ (by omega)
  have hpow : (2 : ℚ) ^ e ≠ 0 := by positivity
  rw [ofMantissaAndAccuracy_exact, Nat.shiftLeft_eq, Nat.cast_mul, Nat.cast_pow, Nat.cast_ofNat,
    zpow_sub₀ two_ne_zero, zpow_natCast, div_div_eq_mul_div, mul_right_comm, mul_div_cancel_right₀ _ hpow]

theorem log2_shiftLeft {n : ℕ} (hn : 0 < n) (k : ℕ) : Nat.log2 (n <<< k) = Nat.log2 n + k := by
  induction k with
  | zero => rfl
  | succ k ih =>
      have hpos : n <<< k ≠ 0 := by
        rw [Nat.shiftLeft_eq]
        positivity
      rw [Nat.shiftLeft_succ, Nat.log2_two_mul hpos, ih, Nat.add_assoc]

/-- A double that stands for a positive number and has all the digits it can have. -/
def IsNormal (u : UnpackedFloat) (r : ℚ) : Prop :=
  ∃ m e hm, u = .finite .positive m e hm ∧ Nat.log2 m = 52 ∧ (m : ℚ) * 2 ^ e = r

namespace IsNormal

variable {u v : UnpackedFloat} {r t : ℚ}

theorem div_eq (hu : IsNormal u r) (hv : IsNormal v t) :
    UnpackedFloat.div .binary64 u v = nearest .positive (r / t) := by
  rcases hu with ⟨m₁, e₁, h₁, rfl, -, rfl⟩
  rcases hv with ⟨m₂, e₂, h₂, rfl, -, rfl⟩
  exact div_finite .positive .positive h₁ h₂

theorem mul_eq (hu : IsNormal u r) (hv : IsNormal v t) :
    UnpackedFloat.mul .binary64 u v = nearest .positive (r * t) := by
  rcases hu with ⟨m₁, e₁, h₁, rfl, hlog₁, rfl⟩
  rcases hv with ⟨m₂, e₂, h₂, rfl, -, rfl⟩
  have hproduct : (m₁ : ℚ) * 2 ^ e₁ * (m₂ * 2 ^ e₂) = (m₁ * m₂ : ℕ) * 2 ^ (e₁ + e₂) := by
    rw [zpow_add₀ two_ne_zero]
    push_cast
    ring
  -- All digits of one factor are enough for the product not to be rounded at a higher place.
  have hlarge : 52 ≤ Nat.log2 (m₁ * m₂) := by
    rw [Nat.le_log2 (Nat.mul_pos h₁ h₂).ne']
    exact (hlog₁ ▸ Nat.log2_self_le h₁.ne').trans (Nat.le_mul_of_pos_right m₁ h₂)
  refine mul_finite .positive .positive h₁ h₂ ?_
  rw [exponentOf, hproduct, log_scaled (Nat.mul_pos h₁ h₂), targetExponent_eq]
  omega

end IsNormal

theorem isNormal_toFloat {n : ℕ} (hn : 0 < n) (hbits : n < 2 ^ 53) :
    IsNormal n.toUInt64.toFloat.toModel.unpack n := by
  have hlog : Nat.log2 n < 53 := (Nat.log2_lt hn.ne').mpr hbits
  have hnat : n.toUInt64.toNat = n := Nat.mod_eq_of_lt (hbits.trans (by decide))
  have hpos : 0 < n <<< (52 - Nat.log2 n) := by
    rw [Nat.shiftLeft_eq]
    positivity
  have hlog' : Nat.log2 (n <<< (52 - Nat.log2 n)) = 52 := by
    rw [log2_shiftLeft hn]
    omega
  have hvalue : ((n <<< (52 - Nat.log2 n) : ℕ) : ℚ) * 2 ^ ((Nat.log2 n : ℤ) - 52) = n := by
    have hexponent : (Nat.log2 n : ℤ) - 52 = -((52 - Nat.log2 n : ℕ) : ℤ) := by omega
    rw [hexponent, zpow_neg, zpow_natCast, Nat.shiftLeft_eq, Nat.cast_mul, Nat.cast_pow, Nat.cast_ofNat,
      mul_assoc, mul_inv_cancel₀ (by positivity), mul_one]
  refine ⟨_, (Nat.log2 n : ℤ) - 52, hpos, ?_, hlog', hvalue⟩
  have hround : UnpackedFloat.ofUInt64 .binary64 n.toUInt64 =
      .finite .positive (n <<< (52 - Nat.log2 n)) ((Nat.log2 n : ℤ) - 52) hpos := by
    rw [UnpackedFloat.ofUInt64, hnat, UnpackedFloat.ofNat, UnpackedFloat.ofInt, UnpackedFloat.normalize,
      compare_gt_iff_gt.mpr (Int.natCast_pos.mpr hn)]
    change UnpackedFloat.round .binary64 .positive n 0 = _
    rw [round_eq _ hn, zpow_zero, mul_one, ← hvalue]
    refine nearest_exact _ hpos ?_
    rw [totalExponent, hlog', targetExponent_eq]
    omega
  change (Float.Model.pack (UnpackedFloat.ofUInt64 .binary64 n.toUInt64)).unpack = _
  rw [hround, unpack_pack_normal _ hpos hlog' (by omega) (by omega)]

/-- The number is a power of ten and has all the digits it can have. -/
def isPowerOfTen (k : ℕ) : UnpackedFloat → Bool
  | .finite .positive m e _ => m.log2 == 52 && m * 2 ^ e.toNat == 10 ^ k * 2 ^ (-e).toNat
  | _ => false

theorem isNormal_of_isPowerOfTen {k : ℕ} {u : UnpackedFloat} (h : isPowerOfTen k u = true) :
    IsNormal u ((10 : ℚ) ^ k) := by
  rcases u with _ | _ | _ | ⟨_ | _, m, e, hm⟩
  case finite.positive =>
    rw [isPowerOfTen, Bool.and_eq_true, beq_iff_eq, beq_iff_eq] at h
    refine ⟨m, e, hm, rfl, h.1, ?_⟩
    have hcast : (m : ℚ) * 2 ^ e.toNat = 10 ^ k * 2 ^ (-e).toNat := by exact_mod_cast h.2
    have hsplit : (2 : ℚ) ^ e = 2 ^ e.toNat / 2 ^ (-e).toNat := by
      rw [← zpow_natCast, ← zpow_natCast, ← zpow_sub₀ two_ne_zero]
      congr 1
      omega
    rw [hsplit, ← mul_div_assoc, hcast, mul_div_cancel_right₀ _ (by positivity)]
  all_goals exact absurd h Bool.false_ne_true

theorem isPowerOfTen_table : ∀ k : Fin Float.exactlyRepresentablePowersOfTen.size,
    isPowerOfTen k Float.exactlyRepresentablePowersOfTen[k].toModel.unpack = true := by
  decide +kernel

/-- A numeral is read as the double nearest to it, on the short way and on the long one. -/
theorem float_ofScientific_eq {m : ℕ} (hm : 0 < m) {e : ℤ} (hhigh : e ≤ 2 ^ 11)
    (hlow : -(2 ^ 11 + (Nat.log2 m : ℤ)) ≤ e) :
    Float.ofScientific m (e < 0) e.natAbs = .ofModel (.pack (nearest .positive ((m : ℚ) * 10 ^ e))) := by
  rw [Float.ofScientific]
  by_cases hfast : m < 2 ^ 53 ∧ e.natAbs ≤ 22
  · -- Both the digits and the power of ten are doubles, and there is one operation on them.
    have hdigits := isNormal_toFloat hm hfast.1
    have hpower := isNormal_of_isPowerOfTen (isPowerOfTen_table ⟨e.natAbs, Nat.lt_succ_of_le hfast.2⟩)
    rw [dif_pos hfast]
    by_cases hsign : e < 0
    · have he : (10 : ℚ) ^ e = ((10 : ℚ) ^ e.natAbs)⁻¹ := by
        rw [← zpow_natCast, ← zpow_neg]
        congr 1
        omega
      rw [if_pos (decide_eq_true hsign), he, ← div_eq_mul_inv]
      exact congrArg (fun u => Float.ofModel (.pack u)) (hdigits.div_eq hpower)
    · have he : (10 : ℚ) ^ e = (10 : ℚ) ^ e.natAbs := by
        rw [← zpow_natCast]
        congr 1
        omega
      rw [if_neg (by rw [decide_eq_true_iff]; exact hsign), he]
      exact congrArg (fun u => Float.ofModel (.pack u)) (hdigits.mul_eq hpower)
  · rw [dif_neg hfast]
    have he : (if decide (e < 0) = true then Int.negOfNat e.natAbs else Int.ofNat e.natAbs) = e := by
      by_cases hsign : e < 0
      · rw [if_pos (decide_eq_true hsign), Int.negOfNat_eq, Int.ofNat_eq_natCast]
        omega
      · rw [if_neg (by rw [decide_eq_true_iff]; exact hsign), Int.ofNat_eq_natCast]
        omega
    change Float.ofModel (Float.Model.pack (UnpackedFloat.ofScientific .binary64 m _)) = _
    rw [he, ofScientific_eq hm hhigh hlow]

end Rounding

namespace Decimal

open Rounding

/-- The number that a numeral stands for. -/
def value (d : Decimal) : ℚ :=
  d.digits * 10 ^ d.exponent

theorem width_eq {n : ℕ} (hn : 0 < n) : width n = Nat.log 10 n + 1 := by
  have hbound : ∀ k, 0 < k → (width n ≤ k ↔ Nat.log 10 n < k) := fun k hk => by
    rw [width, Nat.length_toDigits_le_iff (by decide) hk, Nat.log_lt_iff_lt_pow (by decide) hn.ne']
  have hwidth : 0 < width n := Nat.length_toDigits_pos
  exact le_antisymm ((hbound _ (Nat.succ_pos _)).mpr (Nat.lt_succ_self _)) ((hbound _ hwidth).mp le_rfl)

theorem magnitude_eq {d : Decimal} (h : d.digits ≠ 0) :
    (width d.digits : ℤ) + d.exponent = Int.log 10 d.value + 1 := by
  have hpos : 0 < d.digits := Nat.pos_of_ne_zero h
  have hlog := log_mul_zpow (by decide : 1 < 10) (Nat.cast_pos.mpr hpos : (0 : ℚ) < d.digits) d.exponent
  rw [Nat.cast_ofNat, Int.log_natCast] at hlog
  rw [value, hlog, width_eq hpos]
  push_cast
  ring

/-- The double nearest to a positive number. -/
def nearestFloat (r : ℚ) : Float :=
  if Int.log 10 r + 1 > 400 then 1.0 / 0.0
  else if Int.log 10 r + 1 < -400 then 0.0
  else .ofModel (.pack (nearest .positive r))

/-- Which double is read only depends on the number that is written. -/
theorem toFloat_eq {d : Decimal} (h : d.digits ≠ 0) : d.toFloat = nearestFloat d.value := by
  have hpos : 0 < d.digits := Nat.pos_of_ne_zero h
  have hmagnitude := magnitude_eq h
  -- There are more binary digits than decimal ones, so the bounds of the reader are never met.
  have hwidth : (width d.digits : ℤ) ≤ Nat.log2 d.digits + 1 := by
    rw [width_eq hpos, Nat.log2_eq_log_two]
    exact mod_cast Nat.add_le_add_right (Nat.log_anti_left (by decide) (by decide)) 1
  have hwidth' : 0 < width d.digits := Nat.length_toDigits_pos
  rw [toFloat, nearestFloat, ← hmagnitude, if_neg h]
  by_cases hhigh : (width d.digits : ℤ) + d.exponent > 400
  · rw [if_pos hhigh, if_pos hhigh]
  · by_cases hlow : (width d.digits : ℤ) + d.exponent < -400
    · rw [if_neg hhigh, if_neg hhigh, if_pos hlow, if_pos hlow]
    · rw [if_neg hhigh, if_neg hhigh, if_neg hlow, if_neg hlow, value]
      exact float_ofScientific_eq hpos (by omega) (by omega)

theorem toFloat_congr {d d' : Decimal} (h : d.digits ≠ 0) (h' : d'.digits ≠ 0) (hvalue : d.value = d'.value) :
    d.toFloat = d'.toFloat := by
  rw [toFloat_eq h, toFloat_eq h', hvalue]

theorem value_ofBinary (m : ℕ) (q : ℤ) : (ofBinary m q).value = (m : ℚ) * 2 ^ q := by
  rw [ofBinary, value]
  by_cases hq : 0 ≤ q
  · have hnat : ((q.toNat : ℕ) : ℤ) = q := Int.toNat_of_nonneg hq
    rw [if_pos hq]
    change ((m * 2 ^ q.toNat : ℕ) : ℚ) * 10 ^ (0 : ℤ) = _
    rw [zpow_zero, mul_one, Nat.cast_mul, Nat.cast_pow, Nat.cast_ofNat, ← zpow_natCast, hnat]
  · have hnat : (((-q).toNat : ℕ) : ℤ) = -q := Int.toNat_of_nonneg (by omega)
    have hten : (10 : ℚ) ^ q = 2 ^ q * 5 ^ q := by rw [← mul_zpow]; norm_num
    rw [if_neg hq]
    change ((m * 5 ^ (-q).toNat : ℕ) : ℚ) * 10 ^ q = _
    rw [Nat.cast_mul, Nat.cast_pow, Nat.cast_ofNat, ← zpow_natCast, hnat, hten, zpow_neg, mul_assoc,
      mul_left_comm _ ((2 : ℚ) ^ q), inv_mul_cancel₀ (by positivity), mul_one]

end Decimal

section Exact

open Rounding

variable {x : Float}

theorem exponent_floatParts (x : Float) :
    -1074 ≤ (floatParts x).exponent ∧ (floatParts x).exponent ≤ 972 := by
  have hbiased : x.toBits.toNat / Nat.pow 2 52 % Nat.pow 2 11 < 2048 := Nat.mod_lt _ (by decide)
  rw [floatParts]
  simp only []
  split <;> omega

/-- A double has as many digits as it can have. -/
theorem targetExponent_floatParts (hm : (floatParts x).mantissa ≠ 0) :
    Format.binary64.targetExponent (totalExponent (floatParts x).mantissa (floatParts x).exponent) =
      (floatParts x).exponent := by
  have hfraction : x.toBits.toNat % Nat.pow 2 52 < 2 ^ 52 := Nat.mod_lt _ (by decide)
  have hmantissa := mantissa_lt x
  rw [targetExponent_eq, totalExponent]
  rw [floatParts] at hm hmantissa ⊢
  simp only [] at hm hmantissa ⊢
  by_cases hbiased : x.toBits.toNat / Nat.pow 2 52 % Nat.pow 2 11 = 0
  · rw [if_pos hbiased] at hm ⊢
    rw [if_pos hbiased]
    have hlog := (Nat.log2_lt hm).mpr hfraction
    omega
  · rw [if_neg hbiased] at hm hmantissa ⊢
    rw [if_neg hbiased]
    have hlower := (Nat.le_log2 hm).mpr (Nat.le_add_right (2 ^ 52) (x.toBits.toNat % Nat.pow 2 52))
    have hupper := (Nat.log2_lt hm).mpr hmantissa
    omega

theorem unpack_floatParts (hfinite : x.isFinite = true) (hsign : (floatParts x).negative = false)
    (hm : 0 < (floatParts x).mantissa) :
    x.toModel.unpack = .finite .positive (floatParts x).mantissa (floatParts x).exponent hm := by
  have hparts := hasParts_unpack hfinite
  generalize x.toModel.unpack = u at hparts
  cases hparts with
  | zero s hzero _ => exact absurd hzero hm.ne'
  | finite s hs _ =>
      cases s with
      | negative => exact absurd (hsign.symm.trans hs) Bool.false_ne_true
      | positive => rfl

/-- Doubles are well within the bounds of the numerals that are worked out. -/
theorem log_floatParts (hm : 0 < (floatParts x).mantissa) :
    -401 ≤ Int.log 10 (((floatParts x).mantissa : ℚ) * 2 ^ (floatParts x).exponent) ∧
      Int.log 10 (((floatParts x).mantissa : ℚ) * 2 ^ (floatParts x).exponent) < 400 := by
  have hr : (0 : ℚ) < (floatParts x).mantissa * 2 ^ (floatParts x).exponent := by positivity
  rcases exponent_floatParts x with ⟨hleast, hlast⟩
  constructor
  · refine (Int.zpow_le_iff_le_log (by decide) hr).mp ?_
    calc ((10 : ℕ) : ℚ) ^ (-401 : ℤ)
        ≤ 1 * 2 ^ (-1074 : ℤ) := by
          have hbound : 2 ^ 1074 ≤ 10 ^ 401 := by decide +kernel
          rw [one_mul, zpow_neg, zpow_neg]
          exact inv_anti₀ (by positivity) (mod_cast hbound)
      _ ≤ (floatParts x).mantissa * 2 ^ (floatParts x).exponent :=
          mul_le_mul (mod_cast hm) (zpow_le_zpow_right₀ one_le_two hleast) (by positivity) (by positivity)
  · refine (Int.lt_zpow_iff_log_lt (by decide) hr).mp ?_
    calc ((floatParts x).mantissa : ℚ) * 2 ^ (floatParts x).exponent
        < 2 ^ 53 * 2 ^ (972 : ℤ) :=
          mul_lt_mul (mod_cast mantissa_lt x) (zpow_le_zpow_right₀ one_le_two hlast) (by positivity)
            (by positivity)
      _ ≤ ((10 : ℕ) : ℚ) ^ (400 : ℤ) := by
          have hbound : 2 ^ 53 * 2 ^ 972 ≤ 10 ^ 400 := by decide +kernel
          exact mod_cast hbound

/-- A double is the one nearest to its value. -/
theorem nearestFloat_floatParts (hfinite : x.isFinite = true) (hsign : (floatParts x).negative = false)
    (hm : 0 < (floatParts x).mantissa) :
    Decimal.nearestFloat ((floatParts x).mantissa * 2 ^ (floatParts x).exponent) = x := by
  rcases log_floatParts hm with ⟨hlow, hhigh⟩
  have hnearest := nearest_exact .positive hm (targetExponent_floatParts hm.ne')
  rw [Decimal.nearestFloat, if_neg (by omega), if_neg (by omega), hnearest,
    ← unpack_floatParts hfinite hsign hm]
  exact Float.ofBits_toBits x

namespace Decimal

/-- What is cut off at the end of a numeral are zeros. -/
theorem trimZeros_spec (fuel : ℕ) {d : Decimal} (h : d.digits ≠ 0) :
    (trimZeros fuel d).digits ≠ 0 ∧ (trimZeros fuel d).value = d.value := by
  induction fuel generalizing d with
  | zero => exact ⟨h, rfl⟩
  | succ fuel ih =>
      rw [trimZeros]
      by_cases hzero : d.digits ≠ 0 ∧ d.digits % 10 = 0
      · have hten : d.digits = d.digits / 10 * 10 := by omega
        have hvalue : value ⟨d.digits / 10, d.exponent + 1⟩ = d.value := by
          conv_rhs => rw [value, hten]
          rw [value, zpow_add₀ (by norm_num), zpow_one, Nat.cast_mul, Nat.cast_ofNat]
          ring
        have hne : (⟨d.digits / 10, d.exponent + 1⟩ : Decimal).digits ≠ 0 := by
          change d.digits / 10 ≠ 0
          omega
        rw [if_pos hzero]
        exact ⟨(ih hne).1, (ih hne).2.trans hvalue⟩
      · rw [if_neg hzero]
        exact ⟨h, rfl⟩

/-- A candidate reads back. -/
theorem beq_of_candidate {exact : Decimal} {n : ℕ} {d : Decimal} (h : candidate x exact n = some d) :
    (d.toFloat == x) = true := by
  rw [candidate] at h
  simp only [Bool.and_eq_true] at h
  split_ifs at h with hboth _ _ _ hlow hhigh
  · exact Option.some.inj h ▸ hboth.1
  · exact Option.some.inj h ▸ hboth.2
  · exact Option.some.inj h ▸ hboth.1
  · exact Option.some.inj h ▸ hboth.2
  · exact Option.some.inj h ▸ hlow
  · exact Option.some.inj h ▸ hhigh

theorem eq_of_beq {y : Float} (hm : (floatParts x).mantissa ≠ 0) (h : (y == x) = true) : y = x := by
  rcases (Float.beq_iff_ne_nan_and_eq.mp h).2.2 with heq | ⟨-, rfl⟩ | ⟨-, rfl⟩
  · exact heq
  · exact absurd (by decide +kernel) hm
  · exact absurd (by decide +kernel) hm

/-- The numeral that a double is written as reads back. -/
theorem toFloat_shortest (hfinite : x.isFinite = true) (hsign : (floatParts x).negative = false)
    (hm : (floatParts x).mantissa ≠ 0) : (shortest x).digits ≠ 0 ∧ (shortest x).toFloat = x := by
  have hfound : ∀ d : Decimal, d.digits ≠ 0 → d.toFloat = x →
      (trimZeros (width d.digits) d).digits ≠ 0 ∧ (trimZeros (width d.digits) d).toFloat = x := by
    intro d hd hreads
    rcases trimZeros_spec (width d.digits) hd with ⟨hne, hvalue⟩
    exact ⟨hne, (toFloat_congr hne hd hvalue).trans hreads⟩
  rw [shortest]
  -- A numeral with fewer digits is only taken if it reads back, and with all digits it does.
  cases hsearch : (List.range 17).findSome? fun n =>
      candidate x (ofBinary (floatParts x).mantissa (floatParts x).exponent) (n + 1) with
  | none =>
      have hdigits : (ofBinary (floatParts x).mantissa (floatParts x).exponent).digits ≠ 0 := by
        rw [ofBinary]
        split
        · exact Nat.mul_ne_zero hm (Nat.pow_pos (by decide)).ne'
        · exact Nat.mul_ne_zero hm (Nat.pow_pos (by decide)).ne'
      have hexact : (ofBinary (floatParts x).mantissa (floatParts x).exponent).toFloat = x := by
        rw [toFloat_eq hdigits, value_ofBinary]
        exact nearestFloat_floatParts hfinite hsign (Nat.pos_of_ne_zero hm)
      exact hfound _ hdigits hexact
  | some d =>
      rcases List.exists_of_findSome?_eq_some hsearch with ⟨n, -, hcandidate⟩
      have hreads := eq_of_beq hm (beq_of_candidate hcandidate)
      refine hfound d (fun hzero => hm ?_) hreads
      rw [← hreads, toFloat, if_pos hzero]
      decide +kernel

end Decimal

end Exact

end Replatform
