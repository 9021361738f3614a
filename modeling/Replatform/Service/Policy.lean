import Replatform.Decimal

/-!
# Retry Policies

How often a call is tried again, and how long to wait before that. The delay doubles
with every retry up to a ceiling, and a share of it may be varied at random so that
callers who failed together do not come back together.

The share is a double, and the delay is varied within exact bounds: with the share
`m * 2 ^ q`, the delay moves by at most the integer part of `delay * m * 2 ^ q`
milliseconds to either side.

## Main definitions

* `RetryPolicy`: How often, and how long.
* `RetryPolicy.baseDelay`: The delay before a retry, in milliseconds.
* `RetryPolicy.spread`, `RetryPolicy.delay`: The delay with its random variation.
-/

namespace Replatform

/-- The unsigned integer of 64 bits that is nearest to a natural number. -/
def saturate (n : Nat) : Nat :=
  min n (UInt64.size - 1)

/-- How often a call is tried again, and how long to wait before that. -/
structure RetryPolicy where
  /-- How many attempts may follow the first. -/
  maxRetries : Nat := 3
  /-- The delay before the first retry, in milliseconds. -/
  baseDelayMs : Nat := 1000
  /-- The ceiling of the delays, in milliseconds. -/
  maxDelayMs : Nat := 16000
  /-- The share of a delay that is varied at random. -/
  jitter : Float := 0.25
deriving BEq, Inhabited

namespace RetryPolicy

/-- Never try again. -/
def never : RetryPolicy :=
  { maxRetries := 0 }

/-- Set the delays, given in seconds. -/
def withDelays (p : RetryPolicy) (base max : Nat) : RetryPolicy :=
  { p with baseDelayMs := saturate (1000 * base), maxDelayMs := saturate (1000 * max) }

/-- A share between nothing and all, where what is not finite counts as nothing. -/
def clampShare (x : Float) : Float :=
  if !x.isFinite then 0.0 else if x < 0.0 then 0.0 else if 1.0 < x then 1.0 else x

/-- Set the share that is varied, moved into the unit interval. -/
def withJitter (p : RetryPolicy) (share : Float) : RetryPolicy :=
  { p with jitter := clampShare share }

/-- Two to a power as an unsigned integer of 64 bits, the largest one if that is less. -/
def powerOfTwo (n : Nat) : Nat :=
  if n < 64 then Nat.pow 2 n else UInt64.size - 1

/-- The delay before a retry in milliseconds, where the first retry is number 1. -/
def baseDelay (p : RetryPolicy) (n : Nat) : Nat :=
  if n = 0 then 0 else min (saturate (p.baseDelayMs * powerOfTwo (n - 1))) p.maxDelayMs

/-- The integer part of a share of `n`, for a finite share that is not negative. -/
def shareOf (share : Float) (n : Nat) : Nat :=
  let parts := floatParts share
  if 0 ≤ parts.exponent then n * parts.mantissa * Nat.pow 2 parts.exponent.toNat
  else n * parts.mantissa / Nat.pow 2 (-parts.exponent).toNat

/-- By how much the delay before a retry may move to either side. -/
def spread (p : RetryPolicy) (n : Nat) : Nat :=
  shareOf (clampShare p.jitter) (p.baseDelay n)

/-- The delay before a retry in milliseconds, for a random number `draw`. -/
def delay (p : RetryPolicy) (draw n : Nat) : Nat :=
  p.baseDelay n - p.spread n + draw % (2 * p.spread n + 1)

/-- The delay before a retry is subject to chance. -/
def isRandom (p : RetryPolicy) (n : Nat) : Bool :=
  p.jitter.isFinite && 0.0 < p.jitter && p.baseDelay n != 0

end RetryPolicy

end Replatform
