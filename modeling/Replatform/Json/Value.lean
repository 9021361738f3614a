import Replatform.Decimal
import Replatform.Json.Source
import Replatform.Names

/-!
# JSON Values

What a JSON text means. A numeral without fraction and exponent that fits 64 bits
is an integer and any other the nearest double, `-0` included; a numeral beyond
the doubles means nothing. Strings have their escapes replaced, where a surrogate
must be half of a pair. The members of an object are a map: they are listed in
the order of their keys, and of a repeated key the last one counts.

Arrays and objects nest to a depth of 127, which bounds the work of whoever walks
through a value.

## Main definitions

* `Json`: Values.
* `Json.Numeral.value?`, `Json.unescape?`: What numerals and strings mean.
* `Json.Source.value?`: What a tree means.
* `Json.parse?`: The value of a text.
* `Json.render`, `Json.renderAscii`: The compact text of a value.
-/

namespace Replatform

/-- A JSON value. The members of an object ascend by key. -/
inductive Json where
  | null
  | bool (value : Bool)
  | int (value : Int)
  | float (value : Float)
  | str (value : String)
  | arr (items : List Json)
  | obj (members : List (String × Json))
deriving Inhabited

namespace Json

/-- The number that decimal digits stand for. -/
def digitsValue (ds : List Char) : Nat :=
  ds.foldl (fun n d => 10 * n + (d.toNat - '0'.toNat)) 0

/-- The double that a numeral stands for, none beyond the largest. An exponent whose
    magnitude exceeds a thousand times the length of the numeral settles the matter by
    its sign. -/
def Numeral.float? (n : Numeral) : Option Float :=
  let digits := digitsValue (n.whole ++ n.fraction)
  let power : Int := match n.exponent with
    | none => 0
    | some (negative, ds) => if negative then -(digitsValue ds : Int) else digitsValue ds
  let x := Decimal.toFloat ⟨digits, power - n.fraction.length⟩
  if x == 1.0 / 0.0 then none else some (if n.negative then -x else x)

/-- The numeral has neither fraction nor exponent. -/
def Numeral.isPlain (n : Numeral) : Bool :=
  !n.hasFraction && n.exponent.isNone

/-- The integer that a numeral stands for, if it is one of 64 bits. -/
def Numeral.int? (n : Numeral) : Option Int :=
  let value := digitsValue n.whole
  if !n.isPlain then none
  else if n.negative then
    if value = 0 ∨ UInt64.size / 2 < value then none else some (-(value : Int))
  else if value < UInt64.size then some value else none

/-- The value of a numeral. -/
def Numeral.value? (n : Numeral) : Option Json :=
  match n.int? with
  | some i => some (.int i)
  | none => n.float?.map .float

/-- The 16-bit unit that four hexadecimal digits stand for. -/
def unit? (a b c d : Char) : Option Nat := do
  return (((← hexDigit? a) * 16 + (← hexDigit? b)) * 16 + (← hexDigit? c)) * 16 + (← hexDigit? d)

/-- What a one-letter escape stands for. -/
def shortEscape? (c : Char) : Option Char :=
  if c == '"' || c == '\\' || c == '/' then some c
  else if c == 'b' then some (Char.ofNat 8)
  else if c == 'f' then some (Char.ofNat 12)
  else if c == 'n' then some '\n'
  else if c == 'r' then some '\r'
  else if c == 't' then some '\t'
  else none

/-- The characters that the body of a string stands for. -/
def unescape? : List Char → Option (List Char)
  | [] => some []
  | '\\' :: 'u' :: a :: b :: c :: d :: '\\' :: 'u' :: a' :: b' :: c' :: d' :: rest =>
    -- Two escapes in a row may be the halves of one character.
    match unit? a b c d, unit? a' b' c' d' with
    | some n, some m =>
      if 0xD800 ≤ n ∧ n < 0xDC00 then
        if 0xDC00 ≤ m ∧ m < 0xE000 then
          (unescape? rest).map (Char.ofNat (0x10000 + (n - 0xD800) * 0x400 + (m - 0xDC00)) :: ·)
        else none
      else if 0xDC00 ≤ n ∧ n < 0xE000 then none
      else (unescape? ('\\' :: 'u' :: a' :: b' :: c' :: d' :: rest)).map (Char.ofNat n :: ·)
    | _, _ => none
  | '\\' :: 'u' :: a :: b :: c :: d :: rest =>
    match unit? a b c d with
    | some n =>
      if 0xD800 ≤ n ∧ n < 0xE000 then none else (unescape? rest).map (Char.ofNat n :: ·)
    | none => none
  | '\\' :: c :: rest =>
    match shortEscape? c with
    | some e => (unescape? rest).map (e :: ·)
    | none => none
  | c :: rest => (unescape? rest).map (c :: ·)

/-- The text that the body of a string stands for. -/
def text? (body : List Char) : Option String :=
  (unescape? body).map String.ofList

/-- Put a member in its place, over the one with the same key if there is one. -/
def placeMember (key : String) (value : Json) : List (String × Json) → List (String × Json)
  | [] => [(key, value)]
  | m :: ms =>
    if key < m.1 then (key, value) :: m :: ms
    else if key = m.1 then (key, value) :: ms
    else m :: placeMember key value ms

/-- An object with the given members, later ones over earlier ones. -/
def ofMembers (ms : List (String × Json)) : Json :=
  .obj (ms.foldl (fun acc m => placeMember m.1 m.2 acc) [])

/-- How deep arrays and objects may nest. -/
def maxDepth : Nat := 127

mutual

/-- The value of a tree whose arrays and objects nest at most `depth` deep. -/
def Source.value? (depth : Nat) : Source → Option Json
  | .null => some .null
  | .bool b => some (.bool b)
  | .number n => n.value?
  | .string body => (text? body).map .str
  | .array items =>
    match depth with
    | 0 => none
    | depth + 1 => (Source.values? depth items).map .arr
  | .object members =>
    match depth with
    | 0 => none
    | depth + 1 => (Source.memberValues? depth members).map ofMembers

/-- The values of a list of trees. -/
def Source.values? (depth : Nat) : List Source → Option (List Json)
  | [] => some []
  | s :: ss =>
    match Source.value? depth s, Source.values? depth ss with
    | some v, some vs => some (v :: vs)
    | _, _ => none

/-- The keys and values of a list of members, in the order written. -/
def Source.memberValues? (depth : Nat) : List (List Char × Source) → Option (List (String × Json))
  | [] => some []
  | (key, s) :: ss =>
    match text? key, Source.value? depth s, Source.memberValues? depth ss with
    | some k, some v, some vs => some ((k, v) :: vs)
    | _, _, _ => none

end

/-- The value of a whole text. -/
def parse? (text : String) : Option Json :=
  (Source.read? text).bind (Source.value? maxDepth)

/-- The value of a member of an object. -/
def field? (json : Json) (key : String) : Option Json :=
  match json with
  | .obj members => (members.find? (·.1 == key)).map Prod.snd
  | _ => none

/-- The text of a string value. -/
def str? : Json → Option String
  | .str s => some s
  | _ => none

/-- The truth value of a boolean value. -/
def bool? : Json → Option Bool
  | .bool b => some b
  | _ => none

/-- The value of any number as a double. -/
def number? : Json → Option Float
  | .int n => some (Float.ofInt n)
  | .float x => some x
  | _ => none

/-- The characters that stand for one character inside quotes. -/
def escapeChar (c : Char) : List Char :=
  if c == '"' then ['\\', '"']
  else if c == '\\' then ['\\', '\\']
  else if c == '\n' then ['\\', 'n']
  else if c == '\r' then ['\\', 'r']
  else if c == '\t' then ['\\', 't']
  else if c.toNat == 8 then ['\\', 'b']
  else if c.toNat == 12 then ['\\', 'f']
  else if c.toNat < 0x20 then
    ['\\', 'u', '0', '0', Nat.digitChar (c.toNat / 16), Nat.digitChar (c.toNat % 16)]
  else [c]

/-- A string between quotes. -/
def quote (s : String) : List Char :=
  '"' :: s.toList.flatMap escapeChar ++ ['"']

/-- The numeral of a finite double, its shortest digits with an exponent of their own.
    What is not finite is written as `null`. -/
def floatText (x : Float) : List Char :=
  if x.isFinite then
    let sign := if (floatParts x).negative then ['-'] else []
    if x == 0.0 then sign ++ ['0', '.', '0']
    else
      let d := Decimal.shortest x.abs
      sign ++ Nat.toDigits 10 d.digits ++ 'e' :: (toString d.exponent).toList
  else "null".toList

mutual

/-- The compact text of a value. -/
def renderChars : Json → List Char
  | .null => "null".toList
  | .bool b => if b then "true".toList else "false".toList
  | .int n => (toString n).toList
  | .float x => floatText x
  | .str s => quote s
  | .arr [] => ['[', ']']
  | .arr (item :: items) => '[' :: renderChars item ++ renderItems items
  | .obj [] => ['\x7b', '\x7d']
  | .obj ((key, value) :: members) =>
    '\x7b' :: quote key ++ ':' :: renderChars value ++ renderMembers members

/-- The items after the first, with the bracket that closes the array. -/
def renderItems : List Json → List Char
  | [] => [']']
  | item :: items => ',' :: renderChars item ++ renderItems items

/-- The members after the first, with the brace that closes the object. -/
def renderMembers : List (String × Json) → List Char
  | [] => ['\x7d']
  | (key, value) :: members => ',' :: quote key ++ ':' :: renderChars value ++ renderMembers members

end

/-- The compact text of a value. -/
def render (json : Json) : String :=
  String.ofList (renderChars json)

/-- The escape of a 16-bit unit. -/
def escapeUnit (n : Nat) : List Char :=
  let digit (place : Nat) : Char := Nat.digitChar (n / place % 16)
  ['\\', 'u', digit 4096, digit 256, digit 16, digit 1]

/-- The escapes of a character beyond ASCII, of which there are two beyond 16 bits. -/
def escapeBeyondAscii (c : Char) : List Char :=
  let n := c.toNat
  if n < 0x80 then [c]
  else if n < 0x10000 then escapeUnit n
  else escapeUnit (0xD800 + (n - 0x10000) / 0x400) ++ escapeUnit (0xDC00 + (n - 0x10000) % 0x400)

/-- The compact text of a value in ASCII. A character beyond it can only stand in a string, so
    that its escapes mean the same. -/
def renderAscii (json : Json) : String :=
  String.ofList ((renderChars json).flatMap escapeBeyondAscii)

end Json

end Replatform
