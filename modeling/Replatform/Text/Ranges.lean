/-!
# Ranges of Characters

Unicode properties are given as ascending, disjoint ranges of code points.
Membership is a binary search over an array of them, so that a table with
hundreds of ranges costs about ten comparisons a character.

## Main definitions

* `Ranges`: Ascending, disjoint, inclusive ranges of code points.
* `Ranges.has`: The code point lies in one of the ranges.
-/

namespace Replatform

namespace Text

/-- Inclusive ranges of code points, ascending and disjoint. -/
abbrev Ranges := Array (Nat × Nat)

namespace Ranges

/-- Search for `n` among the ranges with index from `lo` up to, not including, `hi`.
    Every step halves the interval, so `fuel` bounds the logarithm of its width. -/
def search (rs : Ranges) (n : Nat) : Nat → Nat → Nat → Bool
  | 0, _, _ => false
  | fuel + 1, lo, hi =>
    if lo < hi then
      let mid := (lo + hi) / 2
      match rs[mid]? with
      | none => false
      | some (first, last) =>
        if n < first then search rs n fuel lo mid
        else if last < n then search rs n fuel (mid + 1) hi
        else true
    else false

/-- The code point `n` lies in one of the ranges. -/
def has (rs : Ranges) (n : Nat) : Bool :=
  search rs n 32 0 rs.size

end Ranges

end Text

end Replatform
