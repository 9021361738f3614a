import Replatform.Markdown.Cursor
import Replatform.Markdown.Html

/-!
# Starts of Blocks

What a block begins with, looked for behind the blanks that indent it: a fence, a rule,
the number signs of a heading, the marker of a list item. Most of them can also break
into a paragraph, which then ends without a blank line.

## Main definitions

* `Markdown.openingFence?`, `Markdown.isRule`, `Markdown.isHeading`, `Markdown.listMarker?`: What
  begins here.
* `Markdown.isUnderline`: The line makes a heading of the paragraph above it.
* `Markdown.interrupts`: What begins here breaks into a paragraph.
-/

namespace Replatform

namespace Markdown

/-- The backtick. -/
def backtick : Char := Char.ofNat 0x60

/-- A fence that opens a code block: its mark, its length and the info string, which goes on to
    the line feed. There is no backtick in an info string after backticks. -/
def openingFence? (cs : List Char) : Option (Char × Nat × List Char) :=
  match cs with
  | [] => none
  | c :: _ =>
    if c == backtick || c == '~' then
      let length := (cs.takeWhile (· == c)).length
      let info := (splitCode (cs.drop length)).1
      if length < 3 || (c == backtick && info.contains backtick) then none
      else some (c, length, info)
    else none

/-- Three or more marks of one kind with nothing but gaps between and behind them. -/
def isRule (cs : List Char) : Bool :=
  match lineOf cs with
  | [] => false
  | c :: rest =>
    (c == '-' || c == '*' || c == '_') && rest.all (fun d => d == c || isGap d) &&
      2 ≤ rest.count c

/-- Up to six number signs, and then a blank or the end of the line. -/
def isHeading (cs : List Char) : Bool :=
  let level := (cs.takeWhile (· == '#')).length
  let after := cs.drop level
  1 ≤ level && level ≤ 6 && (isLineEnd after || after.head?.any isBlank)

/-- A line of equals signs or of hyphens. -/
def isUnderline (cs : List Char) : Bool :=
  match cs with
  | [] => false
  | c :: _ => (c == '=' || c == '-') && isBlankLine (cs.dropWhile (· == c))

/-- A list marker: how long it is, and whether it can break into a paragraph, unless its item is
    empty. -/
def listMarker? (cs : List Char) : Option (Nat × Bool) :=
  let isEnded (after : List Char) : Bool := isLineEnd after || after.head?.any isGap
  match cs with
  | [] => none
  | c :: rest =>
    if c == '-' || c == '+' || c == '*' then
      if isEnded rest && !isRule cs then some (1, true) else none
    else
      let digits := cs.takeWhile Char.isDigit
      match cs.drop digits.length with
      | d :: after =>
        if (d == '.' || d == ')') && 1 ≤ digits.length && digits.length ≤ 9 && isEnded after then
          some (digits.length + 1,
            digits.foldl (fun n x => 10 * n + (x.toNat - '0'.toNat)) 0 == 1)
        else none
      | [] => none

/-- What begins here breaks into a paragraph. If the line has left a container, any list item
    does. -/
def interrupts (inside : Bool) (cs : List Char) : Bool :=
  isRule cs || isHeading cs || (openingFence? cs).isSome || cs.head? == some '>' ||
    (match listMarker? cs with
      | some (length, able) => !inside || (able && !isBlankLine (cs.drop length))
      | none => false) ||
    (match lineOf cs with
      | '<' :: rest => (htmlStart? rest).isSome
      | _ => false)

end Markdown

end Replatform
