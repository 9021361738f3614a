/-!
# The Shape of a JSON Text

A JSON text is read in two stages. This is the first: it checks the grammar and
keeps what was written, members in their order with repetitions, numerals as
digits, and the bodies of strings with their escapes. What the pieces mean is
left to whoever looks at them, because a member nobody asks for need not mean
anything: a numeral beyond all doubles or half of a surrogate pair is harmless
there and an error elsewhere.

The grammar is RFC 8259. Blank space is a space, tab, line feed or carriage
return; a control character may not stand in a string.

## Main definitions

* `Json.Numeral`: The parts of a numeral.
* `Json.Source`: The tree of a text.
* `Json.Source.read?`: The tree of a whole text.
* `Json.Source.readLeading?`: The tree at the start of a text, and what follows it.
-/

namespace Replatform

namespace Json

/-- The parts of a numeral as written, digits in order. -/
structure Numeral where
  negative : Bool
  whole : List Char
  fraction : List Char
  hasFraction : Bool
  exponent : Option (Bool × List Char)
deriving DecidableEq, Repr

/-- A JSON text as written. Strings and keys are the characters between the quotes. -/
inductive Source where
  | null
  | bool (value : Bool)
  | number (numeral : Numeral)
  | string (body : List Char)
  | array (items : List Source)
  | object (members : List (List Char × Source))

/-- A blank between tokens. -/
def isSpace (c : Char) : Bool :=
  c == ' ' || c == '\t' || c == '\n' || c == '\r'

/-- The characters from the first that is not a blank. -/
def skipSpace (cs : List Char) : List Char :=
  cs.dropWhile isSpace

/-- A hexadecimal digit. -/
def hexDigit? (c : Char) : Option Nat :=
  if '0' ≤ c ∧ c ≤ '9' then some (c.toNat - '0'.toNat)
  else if 'a' ≤ c ∧ c ≤ 'f' then some (c.toNat - 'a'.toNat + 10)
  else if 'A' ≤ c ∧ c ≤ 'F' then some (c.toNat - 'A'.toNat + 10)
  else none

/-- The character may follow a backslash on its own. -/
def isShortEscape (c : Char) : Bool :=
  c == '"' || c == '\\' || c == '/' || c == 'b' || c == 'f' || c == 'n' || c == 'r' || c == 't'

/-- The body of a string whose opening quote has been read, and what follows its closing
    quote. -/
def readString? : List Char → Option (List Char × List Char)
  | [] => none
  | '"' :: rest => some ([], rest)
  | '\\' :: 'u' :: a :: b :: c :: d :: rest =>
    if [a, b, c, d].all fun h => (hexDigit? h).isSome then
      (readString? rest).map fun r => ('\\' :: 'u' :: a :: b :: c :: d :: r.1, r.2)
    else none
  | '\\' :: c :: rest =>
    if isShortEscape c then (readString? rest).map fun r => ('\\' :: c :: r.1, r.2) else none
  | c :: rest =>
    if c == '\\' || c.toNat < 0x20 then none
    else (readString? rest).map fun r => (c :: r.1, r.2)

/-- The fraction of a numeral: a point and at least one digit, or nothing. -/
def readFraction? : List Char → Option (Bool × List Char × List Char)
  | '.' :: rest =>
    let digits := rest.takeWhile Char.isDigit
    if digits = [] then none else some (true, digits, rest.dropWhile Char.isDigit)
  | rest => some (false, [], rest)

/-- The digits of an exponent, of which there is at least one. -/
def readExponentDigits? (negative : Bool) (rest : List Char) :
    Option (Option (Bool × List Char) × List Char) :=
  let digits := rest.takeWhile Char.isDigit
  if digits = [] then none else some (some (negative, digits), rest.dropWhile Char.isDigit)

/-- The exponent of a numeral: a mark, an optional sign and digits, or nothing. -/
def readExponent? (cs : List Char) : Option (Option (Bool × List Char) × List Char) :=
  match cs with
  | c :: rest =>
    if c == 'e' || c == 'E' then
      match rest with
      | '+' :: rest => readExponentDigits? false rest
      | '-' :: rest => readExponentDigits? true rest
      | rest => readExponentDigits? false rest
    else some (none, cs)
  | [] => some (none, [])

/-- A numeral, and what follows it. No zero stands in front of another digit. -/
def readNumeral? (cs : List Char) : Option (Numeral × List Char) :=
  let negative := cs.head? == some '-'
  let cs := if negative then cs.tail else cs
  let whole := match cs with
    | '0' :: _ => ['0']
    | _ => cs.takeWhile Char.isDigit
  if whole = [] then none
  else
    let rest := cs.drop whole.length
    if rest.head?.any Char.isDigit then none
    else
      match readFraction? rest with
      | none => none
      | some (hasFraction, fraction, rest) =>
        match readExponent? rest with
        | none => none
        | some (exponent, rest) =>
          some ({ negative, whole, fraction, hasFraction, exponent }, rest)

/-- The rest of `cs` after the letters of `word`. -/
def readWord? (word : String) (cs : List Char) : Option (List Char) :=
  if word.toList.isPrefixOf cs then some (cs.drop word.length) else none

namespace Source

mutual

/-- A value at the start of `cs`, and what follows it. Every recursive call has read a
    character, so the number of characters is fuel enough. -/
def readValue? : Nat → List Char → Option (Source × List Char)
  | 0, _ => none
  | fuel + 1, cs =>
    match skipSpace cs with
    | '{' :: rest =>
      match skipSpace rest with
      | '}' :: rest => some (.object [], rest)
      | rest => (readMembers? fuel rest).map fun r => (.object r.1, r.2)
    | '[' :: rest =>
      match skipSpace rest with
      | ']' :: rest => some (.array [], rest)
      | rest => (readItems? fuel rest).map fun r => (.array r.1, r.2)
    | '"' :: rest => (readString? rest).map fun r => (.string r.1, r.2)
    | 'n' :: rest => (readWord? "ull" rest).map fun r => (.null, r)
    | 't' :: rest => (readWord? "rue" rest).map fun r => (.bool true, r)
    | 'f' :: rest => (readWord? "alse" rest).map fun r => (.bool false, r)
    | rest => (readNumeral? rest).map fun r => (.number r.1, r.2)

/-- The items of an array that has at least one, up to its closing bracket. -/
def readItems? : Nat → List Char → Option (List Source × List Char)
  | 0, _ => none
  | fuel + 1, cs =>
    match readValue? fuel cs with
    | none => none
    | some (item, rest) =>
      match skipSpace rest with
      | ',' :: rest => (readItems? fuel rest).map fun r => (item :: r.1, r.2)
      | ']' :: rest => some ([item], rest)
      | _ => none

/-- The members of an object that has at least one, up to its closing brace. -/
def readMembers? : Nat → List Char → Option (List (List Char × Source) × List Char)
  | 0, _ => none
  | fuel + 1, cs =>
    match skipSpace cs with
    | '"' :: rest =>
      match readString? rest with
      | none => none
      | some (key, rest) =>
        match skipSpace rest with
        | ':' :: rest =>
          match readValue? fuel rest with
          | none => none
          | some (value, rest) =>
            match skipSpace rest with
            | ',' :: rest => (readMembers? fuel rest).map fun r => ((key, value) :: r.1, r.2)
            | '}' :: rest => some ([(key, value)], rest)
            | _ => none
        | _ => none
    | _ => none

end

/-- The tree at the start of a text, and what follows it. -/
def readLeading? (cs : List Char) : Option (Source × List Char) :=
  readValue? (cs.length + 1) cs

/-- The tree of a whole text, which may have blanks around it. -/
def read? (text : String) : Option Source :=
  match readLeading? text.toList with
  | some (source, rest) => if skipSpace rest = [] then some source else none
  | none => none

end Source

end Json

end Replatform
