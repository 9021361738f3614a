/-!
# Decimal Numerals and Binary Floating Point

How a decimal numeral becomes a double and which numeral a double is written as.

Reading rounds to the nearest double. Writing takes the fewest digits that read
back, and of two such numerals the one nearer to the double. A double is
`m * 2 ^ q`, so it has an exact decimal expansion; the two candidates with `n`
digits are that expansion cut after `n` digits and the same plus one in the last
place. If any numeral with `n` digits reads back, one of these two does.

## Main definitions

* `Decimal`: A natural number scaled by a power of ten.
* `Decimal.toFloat`: The nearest double.
* `Decimal.shortest`: The shortest numeral of a positive double.
* `floatParts`: Sign, mantissa and exponent of a double.
-/

namespace Replatform

/-- The number `digits * 10 ^ exponent`. -/
structure Decimal where
  digits : Nat
  exponent : Int
deriving DecidableEq, Repr

/-- The sign, mantissa `m` and exponent `q` of a finite double `m * 2 ^ q`. -/
structure FloatParts where
  negative : Bool
  mantissa : Nat
  exponent : Int
deriving DecidableEq, Repr

/-- The parts of a double. Those of an infinity or of not-a-number mean nothing. -/
def floatParts (x : Float) : FloatParts :=
  let bits : Nat := x.toBits.toNat
  let biased : Nat := bits / Nat.pow 2 52 % Nat.pow 2 11
  let fraction : Nat := bits % Nat.pow 2 52
  { negative := bits / Nat.pow 2 63 == 1
    mantissa := if biased = 0 then fraction else Nat.pow 2 52 + fraction
    exponent := if biased = 0 then -1074 else (biased : Int) - 1075 }

namespace Decimal

/-- The number of decimal digits of a natural number, one for zero. -/
def width (n : Nat) : Nat :=
  (Nat.toDigits 10 n).length

/-- The nearest double. Numerals far outside the range of doubles are settled by their
    magnitude alone, so that no power of ten grows with the exponent written. -/
def toFloat (d : Decimal) : Float :=
  let magnitude := (width d.digits : Int) + d.exponent
  if d.digits = 0 then 0.0
  else if magnitude > 400 then 1.0 / 0.0
  else if magnitude < -400 then 0.0
  else Float.ofScientific d.digits (d.exponent < 0) d.exponent.natAbs

/-- The exact decimal expansion of `m * 2 ^ q`. -/
def ofBinary (m : Nat) (q : Int) : Decimal :=
  if 0 ≤ q then ⟨m * Nat.pow 2 q.toNat, 0⟩ else ⟨m * Nat.pow 5 (-q).toNat, q⟩

/-- Drop trailing zeros of the digits, at most `fuel` of them. -/
def trimZeros : Nat → Decimal → Decimal
  | 0, d => d
  | fuel + 1, d =>
    if d.digits ≠ 0 ∧ d.digits % 10 = 0 then trimZeros fuel ⟨d.digits / 10, d.exponent + 1⟩ else d

/-- Among the numerals next to `exact` with the digits beyond the first `n` dropped, the
    nearest that reads back as `x`. -/
def candidate (x : Float) (exact : Decimal) (n : Nat) : Option Decimal :=
  let dropped := width exact.digits - n
  let unit := Nat.pow 10 dropped
  let below : Decimal := ⟨exact.digits / unit, exact.exponent + dropped⟩
  let above : Decimal := ⟨exact.digits / unit + 1, exact.exponent + dropped⟩
  let rest := exact.digits % unit
  let lowHits := below.toFloat == x
  let highHits := above.toFloat == x
  -- If both read back, the nearer one is taken, and of equally near ones the even one.
  if lowHits && highHits then
    if 2 * rest < unit then some below
    else if unit < 2 * rest then some above
    else if below.digits % 2 = 0 then some below else some above
  else if lowHits then some below
  else if highHits then some above
  else none

/-- The shortest numeral that reads back as the positive finite double `x`. -/
def shortest (x : Float) : Decimal :=
  let parts := floatParts x
  let exact := ofBinary parts.mantissa parts.exponent
  let found := ((List.range 17).findSome? fun n => candidate x exact (n + 1)).getD exact
  trimZeros (width found.digits) found

/-- Positional text: no exponent, and a point only if there is a fraction. -/
def positional (d : Decimal) : String :=
  let ds := Nat.toDigits 10 d.digits
  if 0 ≤ d.exponent then String.ofList (ds ++ List.replicate d.exponent.toNat '0')
  else
    let places := (-d.exponent).toNat
    let padded := List.replicate (places + 1 - ds.length) '0' ++ ds
    let whole := padded.take (padded.length - places)
    let fraction := padded.drop (padded.length - places)
    String.ofList (whole ++ '.' :: fraction)

end Decimal

end Replatform
