import Replatform.Text.Blank
import Replatform.Time.Date

/-!
# Timestamps

Moments in universal time, as they are written in RFC 3339. Reading is lenient: blanks
may stand around the pieces, a space may stand for the `T`, fractions beyond
nanoseconds are cut off, and any time zone is converted. Writing has one form, with as
many groups of three digits of the fraction as are needed.

A second may have the number 60, which stands for a leap second, in any minute.

## Main definitions

* `Timestamp`: A moment in universal time.
* `Timestamp.read?`: Reading.
* `Timestamp.text`: Writing.
* `Timestamp.ofNanos`: The moment so many nanoseconds after the beginning of 1970.
-/

namespace Replatform

/-- A moment in universal time. -/
structure Timestamp where
  date : Date
  hour : Nat
  minute : Nat
  second : Nat
  nanos : Nat
deriving DecidableEq, Repr, Inhabited

namespace Timestamp

/-- The moment so many nanoseconds after the beginning of 1970. -/
def ofNanos (n : Int) : Timestamp :=
  let seconds := n / 1000000000
  let inDay := (seconds % 86400).toNat
  { date := Date.ofDays (seconds / 86400)
    hour := inDay / 3600
    minute := inDay / 60 % 60
    second := inDay % 60
    nanos := (n % 1000000000).toNat }

/-- A number with zeros in front of it up to a width. -/
def padded (width n : Nat) : List Char :=
  let ds := Nat.toDigits 10 n
  List.replicate (width - ds.length) '0' ++ ds

/-- A year: four digits, or a sign and at least four digits. -/
def yearChars (year : Int) : List Char :=
  if 0 ≤ year ∧ year ≤ 9999 then padded 4 year.toNat
  else (if year < 0 then '-' else '+') :: padded 4 year.natAbs

/-- The fraction of a second in as few groups of three digits as it takes. -/
def fractionChars (nanos : Nat) : List Char :=
  if nanos = 0 then []
  else if nanos % 1000000 = 0 then '.' :: padded 3 (nanos / 1000000)
  else if nanos % 1000 = 0 then '.' :: padded 6 (nanos / 1000)
  else '.' :: padded 9 nanos

/-- Date and time with a mark for universal time behind them. -/
def chars (zone : List Char) (t : Timestamp) : List Char :=
  yearChars t.date.year ++ '-' :: padded 2 t.date.month ++ '-' :: padded 2 t.date.day ++
    'T' :: padded 2 t.hour ++ ':' :: padded 2 t.minute ++ ':' :: padded 2 t.second ++
    fractionChars t.nanos ++ zone

/-- The text of a moment, with the letter `Z` for universal time. -/
def text (t : Timestamp) : String :=
  String.ofList (t.chars ['Z'])

/-- The text of a moment, with a time zone that is zero hours off. -/
def textWithOffset (t : Timestamp) : String :=
  String.ofList (t.chars "+00:00".toList)

/-- A number of at least one and at most `width` digits, after blanks. -/
def readNumber? (width : Nat) (cs : List Char) : Option (Nat × List Char) :=
  let cs := Text.dropBlanks cs
  let ds := (cs.take width).takeWhile Char.isDigit
  if ds = [] then none
  else some (ds.foldl (fun n d => 10 * n + (d.toNat - '0'.toNat)) 0, cs.drop ds.length)

/-- A year: up to four digits, or a sign and any number of digits. -/
def readYear? (cs : List Char) : Option (Int × List Char) :=
  match Text.dropBlanks cs with
  | '-' :: rest =>
    if rest.head?.any Char.isDigit then
      (readNumber? rest.length rest).map fun r => (-(r.1 : Int), r.2)
    else none
  | '+' :: rest =>
    if rest.head?.any Char.isDigit then
      (readNumber? rest.length rest).map fun r => ((r.1 : Int), r.2)
    else none
  | rest => (readNumber? 4 rest).map fun r => ((r.1 : Int), r.2)

/-- What follows a mark that may have blanks in front of it. -/
def readMark? (mark : Char) (cs : List Char) : Option (List Char) :=
  match Text.dropBlanks cs with
  | c :: rest => if c = mark then some rest else none
  | [] => none

/-- The nanoseconds of a fraction, zero if there is no point. -/
def readFraction? : List Char → Option (Nat × List Char)
  | '.' :: rest =>
    let ds := rest.takeWhile Char.isDigit
    if ds = [] then none
    else
      let kept := ds.take 9
      let value := kept.foldl (fun n d => 10 * n + (d.toNat - '0'.toNat)) 0
      some (value * Nat.pow 10 (9 - kept.length), rest.drop ds.length)
  | rest => some (0, rest)

/-- A number of exactly two digits. -/
def readPair? : List Char → Option (Nat × List Char)
  | a :: b :: rest =>
    if a.isDigit ∧ b.isDigit then
      some (10 * (a.toNat - '0'.toNat) + (b.toNat - '0'.toNat), rest)
    else none
  | _ => none

/-- A time zone as minutes ahead of universal time. -/
def readZone? (cs : List Char) : Option (Int × List Char) :=
  let offset (ahead : Bool) (rest : List Char) : Option (Int × List Char) := do
    let (hours, rest) ← readPair? rest
    let (minutes, rest) ← readPair? (rest.dropWhile fun c => c == ':' || Text.isBlank c)
    if 60 ≤ minutes then none
    else
      let total : Int := hours * 60 + minutes
      some (if ahead then total else -total, rest)
  match cs with
  | '+' :: rest => offset true rest
  | '-' :: rest | '−' :: rest => offset false rest
  | c :: rest =>
    if c == 'Z' || c == 'z' then some (0, rest)
    else if (cs.take 3).map Char.toUpper = ['U', 'T', 'C'] then some (0, cs.drop 3)
    else none
  | [] => none

/-- The moment in universal time of a local time that is `ahead` minutes ahead of it. -/
def toUniversal (ahead : Int) (t : Timestamp) : Timestamp :=
  let minutes : Int := (t.hour * 60 + t.minute : Nat) - ahead
  let date := if minutes < 0 then t.date.previous else if 1440 ≤ minutes then t.date.next else t.date
  let inDay := (minutes % 1440).toNat
  { t with date, hour := inDay / 60, minute := inDay % 60 }

/-- The pieces of a local time, and the minutes that it is ahead of universal time. -/
def readLocal? (cs : List Char) : Option (Timestamp × Int × List Char) := do
  let (year, cs) ← readYear? cs
  let (month, cs) ← readNumber? 2 (← readMark? '-' cs)
  let (day, cs) ← readNumber? 2 (← readMark? '-' cs)
  let cs ← match cs with
    | c :: rest => if c == 'T' || c == 't' || c == ' ' then some rest else none
    | [] => none
  let (hour, cs) ← readNumber? 2 cs
  let (minute, cs) ← readNumber? 2 (← readMark? ':' cs)
  let (second, cs) ← readNumber? 2 (← readMark? ':' cs)
  let (nanos, cs) ← readFraction? cs
  let (ahead, cs) ← readZone? (Text.dropBlanks cs)
  return ({ date := { year, month, day }, hour, minute, second, nanos }, ahead, cs)

/-- Read a moment. -/
def read? (s : String) : Option Timestamp :=
  match readLocal? s.toList with
  | none => none
  | some (t, ahead, rest) =>
    let universal := t.toUniversal ahead
    if Text.dropBlanks rest = [] ∧ t.date.IsValid ∧ t.hour < 24 ∧ t.minute < 60 ∧ t.second ≤ 60 ∧
        ahead.natAbs < 1440 ∧ universal.date.IsValid then
      some universal
    else none

end Timestamp

end Replatform
