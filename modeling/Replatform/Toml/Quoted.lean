import Replatform.Toml.Value

/-!
# TOML Strings

A string is written in one of four ways. Between double quotes a backslash begins an
escape; between single quotes everything stands for itself. With three quotes to each
side a string may have several lines: a line end right after the opening quotes does not
count, every other one is a line feed however it is written, and one or two quotes more
than the closing three belong to the string.

Whoever writes a string takes the first of these that shows it as it is: double quotes,
single quotes, three double quotes, three single quotes. If none does, it is written
between double quotes with escapes.

## Main definitions

* `Toml.readBasic?`, `readLiteral?`, `readBlock?`, `readLiteralBlock?`: The rest of a
  string after its opening quotes.
* `Toml.readString?`: A string with its quotes.
* `Toml.Quoting`, `Toml.quotingOf`: The ways to write a string, and the one that is taken.
* `Toml.quoted`: A string as it is written.
-/

namespace Replatform

namespace Toml

/-- The number a hexadecimal digit stands for. -/
def hexDigit? (c : Char) : Option Nat :=
  if '0' ≤ c ∧ c ≤ '9' then some (c.toNat - '0'.toNat)
  else if 'a' ≤ c ∧ c ≤ 'f' then some (c.toNat - 'a'.toNat + 10)
  else if 'A' ≤ c ∧ c ≤ 'F' then some (c.toNat - 'A'.toNat + 10)
  else none

/-- The character with a number in hexadecimal digits. -/
def charOfHex? (digits : List Char) : Option Char := do
  let ds ← digits.mapM hexDigit?
  let n := ds.foldl (fun n d => 16 * n + d) 0
  if n.isValidChar then some (Char.ofNat n) else none

/-- What a letter after a backslash stands for. -/
def escape? : Char → Option Char
  | 'b' => some (Char.ofNat 8)
  | 't' => some '\t'
  | 'n' => some '\n'
  | 'f' => some (Char.ofNat 12)
  | 'r' => some '\r'
  | '"' => some '"'
  | '\\' => some '\\'
  | _ => none

/-- Put a character before what was read. -/
def withChar (c : Char) (r : Option (List Char × List Char)) : Option (List Char × List Char) :=
  r.map fun (text, rest) => (c :: text, rest)

/-- A string up to its closing double quote, and what follows. -/
def readBasic? : List Char → Option (List Char × List Char)
  | [] => none
  | '"' :: rest => some ([], rest)
  | '\\' :: 'u' :: a :: b :: c :: d :: rest => do
    withChar (← charOfHex? [a, b, c, d]) (readBasic? rest)
  | '\\' :: 'U' :: a :: b :: c :: d :: e :: f :: g :: h :: rest => do
    withChar (← charOfHex? [a, b, c, d, e, f, g, h]) (readBasic? rest)
  | '\\' :: c :: rest => do
    withChar (← escape? c) (readBasic? rest)
  | c :: rest => if isVisible c && c != '\\' then withChar c (readBasic? rest) else none

/-- A string up to its closing single quote, and what follows. -/
def readLiteral? : List Char → Option (List Char × List Char)
  | [] => none
  | '\'' :: rest => some ([], rest)
  | c :: rest => if isVisible c then withChar c (readLiteral? rest) else none

/-- There are only blanks up to the end of the line. -/
def endsLine (cs : List Char) : Bool :=
  (readNewline? (skipBlanks cs)).isSome

/-- A string up to its three closing double quotes, and what follows. A backslash at the end
    of a line swallows all blanks and line ends that come after it, which is what
    `swallowing` says is going on. -/
def readBlock? (swallowing : Bool) : List Char → Option (List Char × List Char)
  | [] => none
  | '"' :: '"' :: '"' :: '"' :: '"' :: rest => some (['"', '"'], rest)
  | '"' :: '"' :: '"' :: '"' :: rest => some (['"'], rest)
  | '"' :: '"' :: '"' :: rest => some ([], rest)
  | '\r' :: '\n' :: rest =>
    if swallowing then readBlock? true rest else withChar '\n' (readBlock? false rest)
  | '\n' :: rest =>
    if swallowing then readBlock? true rest else withChar '\n' (readBlock? false rest)
  | '\\' :: 'u' :: a :: b :: c :: d :: rest => do
    withChar (← charOfHex? [a, b, c, d]) (readBlock? false rest)
  | '\\' :: 'U' :: a :: b :: c :: d :: e :: f :: g :: h :: rest => do
    withChar (← charOfHex? [a, b, c, d, e, f, g, h]) (readBlock? false rest)
  | '\\' :: c :: rest =>
    if endsLine (c :: rest) then readBlock? true (c :: rest)
    else do withChar (← escape? c) (readBlock? false rest)
  | c :: rest =>
    if swallowing && isBlank c then readBlock? true rest
    else if isVisible c && c != '\\' then withChar c (readBlock? false rest)
    else none

/-- A string up to its three closing single quotes, and what follows. -/
def readLiteralBlock? : List Char → Option (List Char × List Char)
  | [] => none
  | '\'' :: '\'' :: '\'' :: '\'' :: '\'' :: rest => some (['\'', '\''], rest)
  | '\'' :: '\'' :: '\'' :: '\'' :: rest => some (['\''], rest)
  | '\'' :: '\'' :: '\'' :: rest => some ([], rest)
  | '\r' :: '\n' :: rest => withChar '\n' (readLiteralBlock? rest)
  | '\n' :: rest => withChar '\n' (readLiteralBlock? rest)
  | c :: rest => if isVisible c then withChar c (readLiteralBlock? rest) else none

/-- What follows a line end, or everything if there is none. -/
def skipNewline (cs : List Char) : List Char :=
  (readNewline? cs).getD cs

/-- A string on one line, and what follows. -/
def readLine? : List Char → Option (String × List Char)
  | '"' :: rest => (readBasic? rest).map fun (text, rest) => (String.ofList text, rest)
  | '\'' :: rest => (readLiteral? rest).map fun (text, rest) => (String.ofList text, rest)
  | _ => none

/-- A string, and what follows. -/
def readString? : List Char → Option (String × List Char)
  | '"' :: '"' :: '"' :: rest =>
    (readBlock? false (skipNewline rest)).map fun (text, rest) => (String.ofList text, rest)
  | '\'' :: '\'' :: '\'' :: rest =>
    (readLiteralBlock? (skipNewline rest)).map fun (text, rest) => (String.ofList text, rest)
  | cs => readLine? cs

/-! ## Writing -/

/-- A way to write a string. -/
inductive Quoting where
  | basic
  | literal
  | block
  | literalBlock
deriving DecidableEq, Repr

/-- The greatest number of times a character is repeated without another between, where
    `run` is how often it was repeated up to here. -/
def longestRun (c : Char) : (run : Nat) → List Char → Nat
  | run, [] => run
  | run, d :: ds => if d = c then longestRun c (run + 1) ds else max run (longestRun c 0 ds)

/-- The character can only be written as an escape. -/
def needsEscape (c : Char) : Bool :=
  !isVisible c && c != '\n'

/-- The way in which a string is written. -/
def quotingOf (text : List Char) : Quoting :=
  let singles := longestRun '\'' 0 text
  let doubles := longestRun '"' 0 text
  let lines := text.contains '\n'
  if text.any needsEscape then (if lines then .block else .basic)
  else if !text.contains '\\' && doubles == 0 && !lines then .basic
  else if singles == 0 && !lines then .literal
  else if !text.contains '\\' && doubles ≤ 2 then .block
  else if singles ≤ 2 then .literalBlock
  else if lines then .block
  else .basic

/-- The four digits of a hexadecimal number. -/
def fourDigits (n : Nat) : List Char :=
  let ds := (Nat.toDigits 16 n).map Char.toUpper
  List.replicate (4 - ds.length) '0' ++ ds

/-- A character between double quotes, where `lines` says that line feeds are shown as they
    are. -/
def escaped (lines : Bool) (c : Char) : List Char :=
  if c = '\\' then ['\\', '\\']
  else if c = '\t' then ['\\', 't']
  else if c = '\n' then (if lines then ['\n'] else ['\\', 'n'])
  else if c = '\r' then ['\\', 'r']
  else if c = Char.ofNat 8 then ['\\', 'b']
  else if c = Char.ofNat 12 then ['\\', 'f']
  else if isVisible c then [c]
  else '\\' :: 'u' :: fourDigits c.toNat

/-- A text between double quotes of which at most `limit` may stand together in it, where
    `run` is how many stand right before it. -/
def escapedText (limit : Nat) (lines : Bool) : (run : Nat) → List Char → List Char
  | _, [] => []
  | run, c :: cs =>
    if c = '"' then
      if run < limit then '"' :: escapedText limit lines (run + 1) cs
      else '\\' :: '"' :: escapedText limit lines 0 cs
    else escaped lines c ++ escapedText limit lines 0 cs

/-- A string as it is written. -/
def quoted (text : String) : String :=
  let cs := text.toList
  let opening := if cs.contains '\n' then ['\n'] else []
  String.ofList <| match quotingOf cs with
    | .basic => '"' :: escapedText 0 false 0 cs ++ ['"']
    | .literal => '\'' :: cs ++ ['\'']
    | .block => ['"', '"', '"'] ++ opening ++ escapedText 2 true 0 cs ++ ['"', '"', '"']
    | .literalBlock => ['\'', '\'', '\''] ++ opening ++ cs ++ ['\'', '\'', '\'']

end Toml

end Replatform
