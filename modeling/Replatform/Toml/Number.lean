import Replatform.Json.Value
import Replatform.Time.Date
import Replatform.Toml.Quoted

/-!
# TOML Numbers, Dates and Times

Integers have 64 bits and a sign, and may be written in base 16, 8 or 2 if they have
none. A float has a fraction or an exponent, or is one of the words for infinity and for
what is no number; a positive one must not be beyond the largest double. A single
underscore may stand between two digits, and no decimal number begins with a zero that
could be left out.

Dates and times are checked, but what they say is not kept.

## Main definitions

* `Toml.readInteger?`, `Toml.readNumber?`: Numbers.
* `Toml.readMoment?`: Dates and times.
-/

namespace Replatform

namespace Toml

/-- The digits after the first one, and what follows. -/
def readDigitsAfter? (isDigit : Char → Bool) : List Char → Option (List Char × List Char)
  | [] => some ([], [])
  | '_' :: c :: rest => if isDigit c then withChar c (readDigitsAfter? isDigit rest) else none
  | c :: rest =>
    if isDigit c then withChar c (readDigitsAfter? isDigit rest)
    else if c == '_' then none
    else some ([], c :: rest)

/-- Digits of which there is at least one, and what follows. -/
def readDigits? (isDigit : Char → Bool) : List Char → Option (List Char × List Char)
  | [] => none
  | c :: rest => if isDigit c then withChar c (readDigitsAfter? isDigit rest) else none

/-- The digits of a whole number, and what follows. -/
def readWhole? : List Char → Option (List Char × List Char)
  | '0' :: rest => some (['0'], rest)
  | cs => readDigits? Char.isDigit cs

/-- An optional sign, and what follows. -/
def readSign : List Char → Bool × List Char
  | '+' :: rest => (false, rest)
  | '-' :: rest => (true, rest)
  | rest => (false, rest)

/-- The number that digits of a base stand for. -/
def ofDigits (base : Nat) (digits : List Char) : Nat :=
  digits.foldl (fun n d => base * n + (hexDigit? d).getD 0) 0

/-- The character is a digit of a base. -/
def isDigitOf (base : Nat) (c : Char) : Bool :=
  (hexDigit? c).any (· < base)

/-- An integer, if it fits. -/
def integer? (negative : Bool) (n : Nat) : Option Value :=
  if negative then (if n ≤ UInt64.size / 2 then some (.integer (-(n : Int))) else none)
  else if n < UInt64.size / 2 then some (.integer n) else none

/-- An integer in a base other than ten, and what follows. -/
def readInBase? (base : Nat) (cs : List Char) : Option (Value × List Char) := do
  let (digits, rest) ← readDigits? (isDigitOf base) cs
  return (← integer? false (ofDigits base digits), rest)

/-- A float, unless it is beyond the largest double. -/
def float? (negative : Bool) (whole fraction : List Char) (exponent : Int) : Option Value :=
  let x := Decimal.toFloat ⟨ofDigits 10 (whole ++ fraction), exponent - fraction.length⟩
  if negative then some (.float (-x))
  else if x == 1.0 / 0.0 then none
  else some (.float x)

/-- An exponent, and what follows. -/
def readExponent? : List Char → Option (Int × List Char)
  | c :: rest =>
    if c == 'e' || c == 'E' then do
      let (negative, rest) := readSign rest
      let (digits, rest) ← readDigits? Char.isDigit rest
      let n : Int := ofDigits 10 digits
      return (if negative then -n else n, rest)
    else none
  | [] => none

/-- The rest of a number after its whole part. -/
def readAfterWhole? (negative : Bool) (whole : List Char) : List Char → Option (Value × List Char)
  | '.' :: rest => do
    let (fraction, rest) ← readDigits? Char.isDigit rest
    match rest.head? with
    | some 'e' | some 'E' => do
      let (exponent, rest) ← readExponent? rest
      return (← float? negative whole fraction exponent, rest)
    | _ => return (← float? negative whole fraction 0, rest)
  | 'e' :: rest => do
    let (exponent, rest) ← readExponent? ('e' :: rest)
    return (← float? negative whole [] exponent, rest)
  | 'E' :: rest => do
    let (exponent, rest) ← readExponent? ('E' :: rest)
    return (← float? negative whole [] exponent, rest)
  | rest => do
    return (← integer? negative (ofDigits 10 whole), rest)

/-- A number, and what follows. -/
def readNumber? (cs : List Char) : Option (Value × List Char) :=
  match cs with
  | '0' :: 'x' :: rest => readInBase? 16 rest
  | '0' :: 'o' :: rest => readInBase? 8 rest
  | '0' :: 'b' :: rest => readInBase? 2 rest
  | _ =>
    let (negative, unsigned) := readSign cs
    match unsigned with
    | 'i' :: 'n' :: 'f' :: rest =>
      some (.float (if negative then -1.0 / 0.0 else 1.0 / 0.0), rest)
    | 'n' :: 'a' :: 'n' :: rest => some (.float (0.0 / 0.0), rest)
    | _ => do
      let (whole, rest) ← readWhole? unsigned
      readAfterWhole? negative whole rest

/-! ## Dates and times -/

/-- Two digits, and what follows. -/
def readTwo? : List Char → Option (Nat × List Char)
  | a :: b :: rest => if a.isDigit && b.isDigit then some (ofDigits 10 [a, b], rest) else none
  | _ => none

/-- The rest of `cs` after a character. -/
def readMark? (mark : Char) : List Char → Option (List Char)
  | c :: rest => if c = mark then some rest else none
  | [] => none

/-- What follows a date. -/
def readDate? (cs : List Char) : Option (List Char) := do
  let (century, rest) ← readTwo? cs
  let (year, rest) ← readTwo? rest
  let (month, rest) ← readTwo? (← readMark? '-' rest)
  let (day, rest) ← readTwo? (← readMark? '-' rest)
  let date : Date := { year := 100 * century + year, month, day }
  if date.IsValid then some rest else none

/-- What follows hours and minutes. -/
def readHourMinute? (cs : List Char) : Option (List Char) := do
  let (hour, rest) ← readTwo? cs
  let (minute, rest) ← readTwo? (← readMark? ':' rest)
  if hour < 24 ∧ minute < 60 then some rest else none

/-- What follows the fraction of a second, if there is one. -/
def skipFraction : List Char → List Char
  | '.' :: c :: rest => if c.isDigit then rest.dropWhile Char.isDigit else '.' :: c :: rest
  | rest => rest

/-- What follows a time. A minute may have a 61st second. -/
def readTime? (cs : List Char) : Option (List Char) := do
  let (second, rest) ← readTwo? (← readMark? ':' (← readHourMinute? cs))
  if second ≤ 60 then some (skipFraction rest) else none

/-- What follows the distance from universal time, if there is one. -/
def skipZone (cs : List Char) : List Char :=
  match cs with
  | 'Z' :: rest | 'z' :: rest => rest
  | '+' :: rest | '-' :: rest => (readHourMinute? rest).getD cs
  | _ => cs

/-- What follows a time and zone after a date, if there are any. -/
def skipTimeOfDay (cs : List Char) : List Char :=
  match cs with
  | 'T' :: rest | 't' :: rest | ' ' :: rest => ((readTime? rest).map skipZone).getD cs
  | _ => cs

/-- What follows a date, a time or both. -/
def readMoment? (cs : List Char) : Option (List Char) :=
  match readDate? cs with
  | some rest => some (skipTimeOfDay rest)
  | none => readTime? cs

end Toml

end Replatform
