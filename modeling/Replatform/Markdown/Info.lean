import Replatform.Markdown.Reference
import Replatform.Text.Blank

/-!
# Info Strings

What follows the fence that opens a code block. A backslash in front of ASCII
punctuation stands for the punctuation and a character reference for its
characters; a carriage return is left out; the first word is the language.

## Main definitions

* `Markdown.unescape`: The text that an info string stands for.
* `Markdown.language?`: The language that an info string names.
-/

namespace Replatform

namespace Markdown

/-- ASCII punctuation. -/
def isPunctuation (c : Char) : Bool :=
  let n := c.toNat
  (0x21 ≤ n && n ≤ 0x2F) || (0x3A ≤ n && n ≤ 0x40) || (0x5B ≤ n && n ≤ 0x60) ||
    (0x7B ≤ n && n ≤ 0x7E)

/-- A hexadecimal digit. -/
def isHexDigit (c : Char) : Bool :=
  c.isDigit || ('a' ≤ c && c ≤ 'f') || ('A' ≤ c && c ≤ 'F')

/-- The character with a code point, or the replacement character. -/
def charOf (n : Nat) : Char :=
  if n = 0 ∨ ¬ n.isValidChar then Char.ofNat 0xFFFD else Char.ofNat n

/-- The characters that a reference stands for, given what follows its ampersand, and how
    many characters it takes with the semicolon. -/
def reference? (cs : List Char) : Option (List Char × Nat) :=
  match cs with
  | '#' :: x :: rest =>
    if x == 'x' || x == 'X' then
      let ds := rest.takeWhile isHexDigit
      if 1 ≤ ds.length && ds.length ≤ 6 && rest[ds.length]? == some ';' then
        some ([charOf (hexValue ds)], ds.length + 3)
      else none
    else
      let ds := (x :: rest).takeWhile Char.isDigit
      if 1 ≤ ds.length && ds.length ≤ 7 && (x :: rest)[ds.length]? == some ';' then
        some ([charOf (ds.foldl (fun n d => 10 * n + (d.toNat - '0'.toNat)) 0)], ds.length + 2)
      else none
  | _ =>
    let name := cs.takeWhile Char.isAlphanum
    if cs[name.length]? == some ';' then (named? name).map fun r => (r, name.length + 1) else none

/-- Replace backslash escapes and character references and leave out carriage returns, after
    `skip` more characters that belong to a reference already replaced. -/
def unescapeFrom : Nat → List Char → List Char
  | _, [] => []
  | skip + 1, _ :: cs => unescapeFrom skip cs
  | 0, '\\' :: c :: cs =>
    if isPunctuation c then c :: unescapeFrom 0 cs else '\\' :: unescapeFrom 0 (c :: cs)
  | 0, '&' :: cs =>
    match reference? cs with
    | some (chars, length) => chars ++ unescapeFrom length cs
    | none => '&' :: unescapeFrom 0 cs
  | 0, '\r' :: cs => unescapeFrom 0 cs
  | 0, c :: cs => c :: unescapeFrom 0 cs

/-- Replace backslash escapes and character references, and leave out carriage returns. -/
def unescape (cs : List Char) : List Char :=
  unescapeFrom 0 cs

/-- The language that an info string names: its first word, ASCII letters in lower case. -/
def language? (info : List Char) : Option String :=
  match (Text.dropBlanks (unescape info)).takeWhile fun c => !Text.isBlank c with
  | [] => none
  | word => some (String.ofList (word.map Char.toLower))

end Markdown

end Replatform
