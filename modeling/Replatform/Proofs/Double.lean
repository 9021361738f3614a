import Mathlib.Algebra.Order.Group.Int
import Mathlib.Data.Prod.Lex
import Mathlib.Order.Compare
import Replatform.Analysis
import Replatform.Decimal

/-!
# The Order of Doubles

Confidences and similarities are doubles, and the best of them is found by comparing them. Doubles
are compared by their parts, case by case, which is no way to see that the order is an order. Here
every number is given its place: by its sign and whether it is finite, then by its exponent, and then
by its mantissa. Places are in a line, and doubles are compared as their places are.

What is not a number has no place. It is neither less nor greater than anything, itself included, so
that a double is a number if it is not greater than itself. Of two doubles that cannot be told to be
in order one need not be a number, which is why `le_of_not_lt` asks for it. Zero has one place with
either sign: two doubles with one place may be different.

## Main definitions

* `place?`: Where a double stands among the numbers.
* `HasParts`: The parts of a double are those that it is compared by.
* `InUnit`: A double between zero and one.

## Theorems

* `float_lt_iff_place`, `float_le_iff_place`: Doubles are compared as their places are.
* `float_lt_of_lt_of_le`, `float_le_of_not_lt`, and the like: The laws of an order.
* `hasParts_unpack`: The parts of a double are read off its bits.
* `inUnit_clampUnit`, `Mapping.inUnit_effectiveConfidence`: Numbers that are moved into the unit interval.
-/

namespace Replatform

open Float.Model Float.Model.UnpackedFloat

/-- Where a double stands among the numbers. -/
def place? : UnpackedFloat → Option (ℤ ×ₗ ℤ ×ₗ ℤ)
  | .notANumber => none
  | .infinity .negative => some (toLex (-2, toLex (0, 0)))
  | .finite .negative m e _ => some (toLex (-1, toLex (-e, -(m : ℤ))))
  | .zero _ => some (toLex (0, toLex (0, 0)))
  | .finite .positive m e _ => some (toLex (1, toLex (e, (m : ℤ))))
  | .infinity .positive => some (toLex (2, toLex (0, 0)))

theorem compare_natCast (m n : ℕ) : compare (m : ℤ) (n : ℤ) = compare m n := by
  rcases lt_trichotomy m n with h | h | h
  · rw [compare_lt_iff_lt.mpr h, compare_lt_iff_lt.mpr (Int.ofNat_lt.mpr h)]
  · rw [h, compare_eq_iff_eq.mpr rfl, compare_eq_iff_eq.mpr rfl]
  · rw [compare_gt_iff_gt.mpr h, compare_gt_iff_gt.mpr (Int.ofNat_lt.mpr h)]

theorem compare_neg_neg (a b : ℤ) : compare (-a) (-b) = (compare a b).swap := by
  rcases lt_trichotomy a b with h | h | h
  · rw [compare_lt_iff_lt.mpr h, compare_gt_iff_gt.mpr (Int.neg_lt_neg h)]
    rfl
  · rw [h, compare_eq_iff_eq.mpr rfl, compare_eq_iff_eq.mpr rfl]
    rfl
  · rw [compare_gt_iff_gt.mpr h, compare_lt_iff_lt.mpr (Int.neg_lt_neg h)]
    rfl

/-- Numbers are compared as their places are, and nothing else is compared. -/
theorem compare_eq_place (u v : UnpackedFloat) :
    u.compare v = (place? u).bind fun a => (place? v).map fun b => compare a b := by
  rcases u with (_ | _) | _ | _ | ⟨(_ | _), m, e, hm⟩ <;>
    rcases v with (_ | _) | _ | _ | ⟨(_ | _), n, f, hn⟩ <;>
    dsimp only [UnpackedFloat.compare, place?, Option.bind_some, Option.bind_none, Option.map_some,
      Option.map_none] <;>
    simp only [Prod.Lex.compare_def, compareLex, compareOn, ofLex_toLex, compare_natCast,
      compare_neg_neg, Ordering.swap_then] <;>
    rfl

section Order

variable {x y z : Float}

theorem float_lt_iff (x y : Float) :
    x < y ↔ x.toModel.unpack.compare y.toModel.unpack = some .lt := by
  change decide (x.toModel.lt y.toModel = true) = true ↔ _
  rw [decide_eq_true_iff, Float.Model.lt, UnpackedFloat.lt, beq_iff_eq]

theorem float_le_iff (x y : Float) :
    x ≤ y ↔ (x.toModel.unpack.compare y.toModel.unpack).any Ordering.isLE = true := by
  change decide (x.toModel.le y.toModel = true) = true ↔ _
  rw [decide_eq_true_iff, Float.Model.le, UnpackedFloat.le]

theorem float_lt_iff_place (x y : Float) :
    x < y ↔ ∃ a ∈ place? x.toModel.unpack, ∃ b ∈ place? y.toModel.unpack, a < b := by
  rw [float_lt_iff, compare_eq_place]
  cases place? x.toModel.unpack with
  | none => simp only [Option.bind_none, reduceCtorEq, Option.mem_def, false_and, exists_false]
  | some a =>
      cases place? y.toModel.unpack with
      | none => simp only [Option.bind_some, Option.map_none, reduceCtorEq, Option.mem_def,
          false_and, exists_false, and_false]
      | some b => simp only [Option.bind_some, Option.map_some, Option.some.injEq, compare_lt_iff_lt,
          Option.mem_def, exists_eq_left']

theorem float_le_iff_place (x y : Float) :
    x ≤ y ↔ ∃ a ∈ place? x.toModel.unpack, ∃ b ∈ place? y.toModel.unpack, a ≤ b := by
  rw [float_le_iff, compare_eq_place]
  cases place? x.toModel.unpack with
  | none => simp only [Option.bind_none, Option.any_none, Bool.false_eq_true, Option.mem_def,
      reduceCtorEq, false_and, exists_false]
  | some a =>
      cases place? y.toModel.unpack with
      | none => simp only [Option.bind_some, Option.map_none, Option.any_none, Bool.false_eq_true,
          Option.mem_def, reduceCtorEq, false_and, exists_false, and_false]
      | some b => simp only [Option.bind_some, Option.map_some, Option.any_some,
          Ordering.isLE_iff_ne_gt, compare_le_iff_le, Option.mem_def, Option.some.injEq,
          exists_eq_left']

theorem float_lt_irrefl (x : Float) : ¬ x < x := by
  rw [float_lt_iff_place]
  rintro ⟨a, ha, b, hb, hlt⟩
  exact lt_irrefl a (Option.mem_unique ha hb ▸ hlt)

theorem float_le_of_lt (h : x < y) : x ≤ y := by
  rw [float_lt_iff_place] at h
  rw [float_le_iff_place]
  rcases h with ⟨a, ha, b, hb, hlt⟩
  exact ⟨a, ha, b, hb, hlt.le⟩

theorem float_le_trans (h : x ≤ y) (h' : y ≤ z) : x ≤ z := by
  rw [float_le_iff_place] at h h' ⊢
  rcases h with ⟨a, ha, b, hb, hle⟩
  rcases h' with ⟨b', hb', c, hc, hle'⟩
  exact ⟨a, ha, c, hc, hle.trans (Option.mem_unique hb hb' ▸ hle')⟩

theorem float_lt_of_lt_of_le (h : x < y) (h' : y ≤ z) : x < z := by
  rw [float_lt_iff_place] at h ⊢
  rw [float_le_iff_place] at h'
  rcases h with ⟨a, ha, b, hb, hlt⟩
  rcases h' with ⟨b', hb', c, hc, hle⟩
  exact ⟨a, ha, c, hc, hlt.trans_le (Option.mem_unique hb hb' ▸ hle)⟩

theorem float_lt_of_le_of_lt (h : x ≤ y) (h' : y < z) : x < z := by
  rw [float_lt_iff_place] at h' ⊢
  rw [float_le_iff_place] at h
  rcases h with ⟨a, ha, b, hb, hle⟩
  rcases h' with ⟨b', hb', c, hc, hlt⟩
  exact ⟨a, ha, c, hc, hle.trans_lt (Option.mem_unique hb hb' ▸ hlt)⟩

/-- Numbers are in a line. -/
theorem float_le_of_not_lt (hx : x ≤ x) (hy : y ≤ y) (h : ¬ y < x) : x ≤ y := by
  rw [float_lt_iff_place] at h
  rw [float_le_iff_place] at hx hy ⊢
  rcases hx with ⟨a, ha, -⟩
  rcases hy with ⟨b, hb, -⟩
  exact ⟨a, ha, b, hb, not_lt.mp fun hlt => h ⟨b, hb, a, ha, hlt⟩⟩

theorem float_le_self_of_le_left (h : x ≤ y) : x ≤ x := by
  rw [float_le_iff_place] at h ⊢
  rcases h with ⟨a, ha, -⟩
  exact ⟨a, ha, a, ha, le_refl a⟩

theorem float_le_self_of_le_right (h : x ≤ y) : y ≤ y := by
  rw [float_le_iff_place] at h ⊢
  rcases h with ⟨-, -, b, hb, -⟩
  exact ⟨b, hb, b, hb, le_refl b⟩

/-- What is finite is a number. -/
theorem float_le_self_of_isFinite (h : x.isFinite = true) : x ≤ x := by
  change x.toModel.unpack.isFinite = true at h
  rw [float_le_iff_place]
  generalize x.toModel.unpack = u at h
  rcases u with _ | _ | _ | ⟨_ | _, _, _, _⟩
  · exact absurd h Bool.false_ne_true
  · exact absurd h Bool.false_ne_true
  all_goals exact ⟨_, rfl, _, rfl, le_refl _⟩

end Order

section Parts

/-- A finite double has a sign, a mantissa and an exponent. -/
inductive HasParts (p : FloatParts) : UnpackedFloat → Prop where
  | zero (s : Sign) (hm : p.mantissa = 0) (hq : p.exponent = -1074) : HasParts p (.zero s)
  | finite (s : Sign) (hs : p.negative = (s == .negative)) (hm : 0 < p.mantissa) :
      HasParts p (.finite s p.mantissa p.exponent hm)

theorem toNat_unpackMantissa (b : BitVec Format.binary64.numBits) :
    (unpackMantissa b).toNat = b.toNat % Nat.pow 2 52 := by
  rw [unpackMantissa, BitVec.toNat_cast, BitVec.extractLsb_toNat]
  rfl

theorem toNat_unpackExponent (b : BitVec Format.binary64.numBits) :
    (unpackExponent b).toNat = b.toNat / Nat.pow 2 52 % Nat.pow 2 11 := by
  rw [unpackExponent, BitVec.toNat_cast, BitVec.extractLsb_toNat, Nat.shiftRight_eq_div_pow]
  rfl

theorem toNat_unpackSign (b : BitVec Format.binary64.numBits) :
    (unpackSign b).toNat = b.toNat / Nat.pow 2 63 := by
  have hb : b.toNat / Nat.pow 2 63 < 2 := Nat.div_lt_of_lt_mul b.isLt
  delta unpackSign
  rw [BitVec.toNat_cast, BitVec.extractLsb_toNat, Nat.shiftRight_eq_div_pow]
  exact Nat.mod_eq_of_lt hb

theorem ofBitVec_eq_negative (b : BitVec 1) :
    (Sign.ofBitVec b == .negative) = (b.toNat == 1) := by
  revert b
  decide

/-- A normal double has one bit more than is stored. -/
theorem toNat_one_append (m : BitVec 52) : (1#1 ++ m).toNat = Nat.pow 2 52 + m.toNat := by
  rw [BitVec.toNat_append, ← Nat.shiftLeft_add_eq_or_of_lt m.isLt]
  rfl

/-- The bits of a double, in its format. -/
def formatBits (x : Float) : BitVec Format.binary64.numBits :=
  x.toModel.toBits.toBitVec

/-- The parts of a double, by the names that its bits have. -/
theorem floatParts_eq (x : Float) :
    floatParts x =
      { negative := Sign.ofBitVec (unpackSign (formatBits x)) == .negative
        mantissa :=
          if (unpackExponent (formatBits x)).toNat = 0 then (unpackMantissa (formatBits x)).toNat
          else Nat.pow 2 52 + (unpackMantissa (formatBits x)).toNat
        exponent :=
          if (unpackExponent (formatBits x)).toNat = 0 then -1074
          else ((unpackExponent (formatBits x)).toNat : Int) - 1075 } := by
  rw [ofBitVec_eq_negative, toNat_unpackSign, toNat_unpackExponent, toNat_unpackMantissa]
  rfl

/-- The parts of a double are read off its bits. -/
theorem hasParts_unpack {x : Float} (h : x.isFinite = true) :
    HasParts (floatParts x) x.toModel.unpack := by
  change (UnpackedFloat.unpack Format.binary64 (formatBits x)).isFinite = true at h
  change HasParts _ (UnpackedFloat.unpack Format.binary64 (formatBits x))
  rw [floatParts_eq]
  generalize formatBits x = b at h
  delta UnpackedFloat.unpack at h ⊢
  by_cases hlast : unpackExponent b = -1#_
  · -- The largest exponent is that of what is not finite.
    rw [if_pos hlast] at h
    by_cases hm : unpackMantissa b = 0#_
    · rw [if_pos hm] at h
      exact absurd h Bool.false_ne_true
    · rw [if_neg hm] at h
      exact absurd h Bool.false_ne_true
  · by_cases hleast : unpackExponent b = 0#_
    · have hbiased : (unpackExponent b).toNat = 0 := congrArg BitVec.toNat hleast
      rw [if_neg hlast, if_pos hleast, if_pos hbiased, if_pos hbiased]
      by_cases hm : unpackMantissa b = 0#_
      · rw [dif_pos hm]
        exact .zero _ (congrArg BitVec.toNat hm) rfl
      · rw [dif_neg hm, hbiased]
        exact .finite _ rfl _
    · have hbiased : (unpackExponent b).toNat ≠ 0 := fun h => hleast (BitVec.eq_of_toNat_eq h)
      rw [if_neg hlast, if_neg hleast, if_neg hbiased, if_neg hbiased, ← toNat_one_append]
      exact .finite _ rfl _

theorem mantissa_lt (x : Float) : (floatParts x).mantissa < Nat.pow 2 53 := by
  have hfraction : x.toBits.toNat % Nat.pow 2 52 < Nat.pow 2 52 := Nat.mod_lt _ (by decide)
  rw [floatParts]
  simp only []
  split
  · exact Nat.lt_trans hfraction (by decide)
  · exact Nat.lt_of_lt_of_le (Nat.add_lt_add_left hfraction _) (by decide)

end Parts

/-- A double between zero and one. -/
def InUnit (x : Float) : Prop :=
  0.0 ≤ x ∧ x ≤ 1.0

theorem inUnit_clampUnit {x : Float} (h : x ≤ x) : InUnit (clampUnit x) := by
  have hends : (0.0 : Float) ≤ 0.0 ∧ (0.0 : Float) ≤ 1.0 ∧ (1.0 : Float) ≤ 1.0 := by
    decide +kernel
  rw [clampUnit]
  by_cases hlow : x < 0.0
  · rw [if_pos hlow]
    exact ⟨hends.1, hends.2.1⟩
  · rw [if_neg hlow]
    by_cases hhigh : 1.0 < x
    · rw [if_pos hhigh]
      exact hends.2
    · rw [if_neg hhigh]
      exact ⟨float_le_of_not_lt hends.1 h hlow, float_le_of_not_lt h hends.2.2 hhigh⟩

/-- What becomes a number in the unit interval was one before. -/
theorem le_self_of_clampUnit_le {x y : Float} (h : clampUnit x ≤ y) : x ≤ x := by
  rw [clampUnit] at h
  by_cases hlow : x < 0.0
  · exact float_le_self_of_le_left (float_le_of_lt hlow)
  · rw [if_neg hlow] at h
    by_cases hhigh : 1.0 < x
    · exact float_le_self_of_le_right (float_le_of_lt hhigh)
    · rw [if_neg hhigh] at h
      exact float_le_self_of_le_left h

namespace InUnit

variable {x : Float}

theorem le_self (h : InUnit x) : x ≤ x :=
  float_le_self_of_le_left h.2

/-- What is not finite is below zero or above one. -/
theorem isFinite (h : InUnit x) : x.isFinite = true := by
  rcases h with ⟨hzero, hone⟩
  rw [float_le_iff] at hzero hone
  change x.toModel.unpack.isFinite = true
  generalize x.toModel.unpack = u at hzero hone
  rcases u with (_ | _) | _ | _ | _
  · exact absurd hzero (by decide +kernel)
  · exact absurd hone (by decide +kernel)
  · exact absurd hone (by decide +kernel)
  · rfl
  · rfl

/-- What is in its place already stays there. -/
theorem clampUnit_eq (h : InUnit x) : clampUnit x = x := by
  have hlow : ¬ x < 0.0 := fun hlt => float_lt_irrefl x (float_lt_of_lt_of_le hlt h.1)
  have hhigh : ¬ 1.0 < x := fun hlt => float_lt_irrefl 1.0 (float_lt_of_lt_of_le hlt h.2)
  rw [clampUnit, if_neg hlow, if_neg hhigh]

end InUnit

theorem Mapping.inUnit_effectiveConfidence (m : Mapping) : InUnit m.effectiveConfidence := by
  have hdefault : InUnit defaultConfidence := by
    unfold InUnit
    decide +kernel
  rw [effectiveConfidence]
  cases m.confidence with
  | none => exact hdefault
  | some c =>
      simp only []
      by_cases hfinite : c.isFinite = true
      · rw [if_pos hfinite]
        exact inUnit_clampUnit (float_le_self_of_isFinite hfinite)
      · rw [if_neg hfinite]
        exact hdefault

end Replatform
