import Replatform.Markdown.Cursor
import Replatform.Markdown.Start

/-!
# Containers

Quotes and list items, which hold other blocks. The open ones form a stack, outermost
first. A line goes on with a container if it begins as the container asks: with a mark
for a quote, with blank columns or nothing at all for a list item.

A line that does not go on with all of them may still be part of a paragraph inside.

## Main definitions

* `Markdown.Container`: A container.
* `Markdown.matchContainers`: The containers that a line goes on with.
* `Markdown.openContainers`: The containers that a line opens.
* `Markdown.sequel`: The line as it looks from inside a paragraph.
-/

namespace Replatform

namespace Markdown

/-- A container, into which a line continues if it has the right start. -/
inductive Container where
  | quote
  /-- A list item whose content is indented by some columns. -/
  | item (indent : Nat)
deriving DecidableEq, Repr

/-- The place in a line behind the start that a container asks for, if the line has it. -/
def Container.continue? : Container → Cursor → Option Cursor
  | .quote, c =>
    let (_, after) := c.takeSpace 3
    match after.rest with
    | '>' :: rest =>
      -- A column left of a tab before the mark counts as the blank behind it.
      some (Cursor.takeSpace 1 ⟨rest, after.column + 1, after.spare⟩).2
    | _ => none
  | .item indent, c =>
    let (columns, after) := c.takeSpace indent
    if columns = indent || isLineEnd after.rest then some after else none

/-- How many of the containers a line continues, and the place behind their starts. -/
def matchContainers : List Container → Cursor → Nat × Cursor
  | [], c => (0, c)
  | container :: rest, c =>
    match container.continue? c with
    | some after =>
      let (n, last) := matchContainers rest after
      (n + 1, last)
    | none => (0, c)

/-- The containers that begin at a place in a line, the place behind them, and whether the
    last one is a list item with only its marker. Every container takes a character of the
    line, so the length of the line is fuel enough. -/
def openContainers : Nat → Cursor → List Container × Cursor × Bool
  | 0, c => ([], c, false)
  | fuel + 1, c =>
    let (outer, start) := c.takeSpace 4
    if 4 ≤ outer then ([], c, false)
    else
      match listMarker? start.rest with
      | some (length, _) =>
        let marked := start.advance length
        if isBlankLine marked.rest then ([.item (outer + length + 1)], marked, true)
        else
          -- One column belongs to the marker, and up to four more to the content.
          let (_, behind) := marked.takeSpace 1
          let (inner, content) := behind.takeSpace 4
          let (indent, next) :=
            if 4 ≤ inner then (outer + length + 1, behind)
            else (outer + length + 1 + inner, content)
          let (more, last, bare) := openContainers fuel next
          (.item indent :: more, last, bare)
      | none =>
        match start.rest with
        | '>' :: _ =>
          let (more, last, bare) := openContainers fuel ((start.advance 1).takeSpace 1).2
          (.quote :: more, last, bare)
        | _ => ([], c, false)

/-- A line as it looks from inside a paragraph. -/
structure Sequel where
  /-- The line behind at most four blank columns. -/
  rest : List Char
  /-- It makes the paragraph a heading. -/
  underlines : Bool
  /-- It ends the paragraph, being blank or the start of something else. -/
  breaks : Bool
deriving DecidableEq, Repr

/-- The sequel of a paragraph at a place behind the starts of the containers, in all of which the
    line is `inside` or not. What is indented by four columns begins nothing. -/
def sequel (inside : Bool) (c : Cursor) : Sequel :=
  let (indent, start) := c.takeSpace 4
  { rest := start.rest
    underlines := indent < 4 && inside && isUnderline start.rest
    breaks := isLineEnd (start.rest.dropWhile isGap) ||
      (indent < 4 && interrupts inside start.rest) }

/-- The sequel of a paragraph inside the containers. -/
def sequelIn (containers : List Container) (cs : List Char) : Sequel :=
  let (kept, c) := matchContainers containers (Cursor.ofLine cs)
  sequel (kept == containers.length) c

end Markdown

end Replatform
