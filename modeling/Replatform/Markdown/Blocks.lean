import Replatform.Markdown.Container
import Replatform.Markdown.Definition
import Replatform.Markdown.Info

/-!
# Code Blocks

The code blocks of a Markdown document, fenced and indented. A document is read line
by line. The state is the stack of open containers (quotes and list items) and the
block at its tip, which is a paragraph, a code block, a block of HTML or nothing.
A line is first matched against the containers. If it stays in all of them it may
go on with the block at the tip; a paragraph goes on even if it does not, unless
something begins that can break into a paragraph. Otherwise the tip is closed and
the rest of the line opens new containers and a new block.

How far the line goes is known only when it is known what it is part of, so reading
a line gives the new state together with the text that is left.

Nothing else of Markdown has to be known to find the code: headings and rules only
end paragraphs, and what stands inside a paragraph does not matter.

## Main definitions

* `Markdown.CodeBlock`: A block with its language.
* `Markdown.Tip`, `Markdown.State`: The state of the reading.
* `Markdown.State.feed`: Read one line.
* `Markdown.codeBlocks`: The code blocks of a text.
-/

namespace Replatform

namespace Markdown

/-- A code block. An indented one has no language. -/
structure CodeBlock where
  language : Option String
  code : String
deriving DecidableEq, Repr

/-- The fence of a code block. -/
structure Fence where
  mark : Char
  length : Nat
  /-- How far the fence is indented, and its content with it. -/
  indent : Nat
  language : Option String
deriving DecidableEq, Repr

/-- The block at the tip of the containers. -/
inductive Tip where
  | none
  | paragraph
  /-- A fenced code block with the lines read so far, latest first. -/
  | fenced (fence : Fence) (code : List (List Char))
  /-- An indented code block with the lines read so far, and blank lines that belong to it
      only if it goes on, all latest first. -/
  | indented (code blanks : List (List Char))
  | html (ending : HtmlEnd)
deriving DecidableEq, Repr

/-- The state of the reading between two lines. -/
structure State where
  containers : List Container := []
  tip : Tip := .none
  /-- The innermost container is a list item that has only its marker. -/
  bare : Bool := false
  /-- The code blocks that are complete. -/
  blocks : List CodeBlock := []
deriving DecidableEq, Repr

/-- A fence that closes a code block: enough marks with only spaces behind them. The end of the
    text closes it too. -/
def Fence.isClosedBy (fence : Fence) (cs : List Char) : Bool :=
  let marks := (cs.takeWhile (· == fence.mark)).length
  cs.isEmpty || (fence.length ≤ marks && isLineEnd ((cs.drop marks).dropWhile (· == ' ')))

/-- A line of code as it is kept. A carriage return in front of the last character is taken for
    the first half of a line ending if that character takes one byte. -/
def dropReturn (cs : List Char) : List Char :=
  match cs.reverse with
  | c :: '\r' :: before => if c.toNat < 0x80 then (c :: before).reverse else cs
  | _ => cs

/-- The line of code at a place in a text, where unused columns of a tab count as spaces, and
    what follows. -/
def codeLine (c : Cursor) : List Char × List Char :=
  let (line, rest) := splitCode c.rest
  (List.replicate c.spare ' ' ++ dropReturn line, rest)

namespace State

/-- Complete the block at the tip. -/
def close (s : State) : State :=
  let text (code : List (List Char)) : String := String.ofList code.reverse.flatten
  match s.tip with
  | .fenced fence code =>
    { s with tip := .none, blocks := s.blocks ++ [⟨fence.language, text code⟩] }
  | .indented code _ => { s with tip := .none, blocks := s.blocks ++ [⟨none, text code⟩] }
  | _ => { s with tip := .none }

/-- Begin a paragraph, unless it has nothing but definitions and something else follows them.
    Every definition takes a character, so the length of the text is fuel enough. -/
def beginParagraph (s : State) : Nat → List Char → State × List Char
  | 0, cs => (s, afterLine cs)
  | fuel + 1, cs =>
    match definition? s.containers cs with
    | some after =>
      let next := afterLine after
      let sequel := sequelIn s.containers next
      if sequel.breaks then (s, next)
      -- Definitions cannot be underlined, so the paragraph may begin with the underline itself.
      else beginParagraph s fuel (sequel.rest.dropWhile isGap)
    | none => ({ s with tip := .paragraph }, afterLine cs)

/-- Begin a block at a place behind which the line is not blank. -/
def begin (s : State) (c : Cursor) : State × List Char :=
  let (indent, start) := c.takeSpace 4
  if 4 ≤ indent then
    let (line, rest) := codeLine start
    ({ s with tip := .indented [line] [] }, rest)
  else
    let html := match lineOf start.rest with
      | '<' :: tag => (htmlStart? tag).or (if isLoneTag tag then some .blankLine else none)
      | _ => none
    match html with
    | some ending =>
      let (line, rest) := splitCode start.rest
      ({ s with tip := if ending.isMetBy line then .none else .html ending }, rest)
    | none =>
      if isRule start.rest || isHeading start.rest then (s, afterLine start.rest)
      else
        match openingFence? start.rest with
        | some (mark, length, info) =>
          ({ s with tip := .fenced { mark, length, indent, language := language? info } [] },
            (splitCode start.rest).2)
        | none => s.beginParagraph (start.rest.length + 1) start.rest

/-- Read a line behind the starts of the `kept` containers that it continues, as a line that
    opens new containers or a new block. -/
def openLine (s : State) (kept : Nat) (c : Cursor) : State × List Char :=
  let bare := s.bare && kept == s.containers.length
  let s := { s.close with containers := s.containers.take kept }
  let (fresh, c, nowBare) := openContainers ((lineOf c.rest).length + 1) c
  let s := { s with containers := s.containers ++ fresh, bare := nowBare }
  if isBlankLine c.rest then
    -- A list item may begin with one blank line but not with two.
    let s := if fresh = [] && bare then
        { s with containers := s.containers.dropLast, bare := false }
      else s
    (s, afterLine c.rest)
  else s.begin c

/-- Read a line: the new state, and the text that is left. -/
def feed (s : State) (cs : List Char) : State × List Char :=
  let (kept, c) := matchContainers s.containers (Cursor.ofLine cs)
  let inside := kept == s.containers.length
  match s.tip with
  | .none => s.openLine kept c
  | .fenced fence code =>
    if inside then
      let (indent, start) := c.takeSpace 4
      let (_, content) := c.takeSpace fence.indent
      if indent < 4 && fence.isClosedBy start.rest then (s.close, afterLine start.rest)
      else
        let (line, rest) := codeLine content
        ({ s with tip := .fenced fence (line :: code) }, rest)
    else s.openLine kept c
  | .indented code blanks =>
    let (indent, content) := c.takeSpace 4
    if inside && (4 ≤ indent || isLineEnd content.rest) then
      let (line, rest) := codeLine content
      if isBlankLine content.rest then
        ({ s with tip := .indented code (line :: blanks) }, rest)
      else ({ s with tip := .indented (line :: (blanks ++ code)) [] }, rest)
    else s.openLine kept c
  | .html ending =>
    if inside && !(ending == .blankLine && isBlankLine c.rest) then
      let (line, rest) := splitCode c.rest
      ({ s with tip := if ending.isMetBy line then .none else .html ending }, rest)
    else s.openLine kept c
  | .paragraph =>
    let next := sequel inside c
    if next.underlines then ({ s with tip := .none }, afterLine next.rest)
    else if next.breaks then s.openLine kept c
    else (s, afterLine next.rest)

/-- Read a text to its end. Every line takes a character, so the length of the text is fuel
    enough. -/
def feedAll (s : State) : Nat → List Char → State
  | 0, _ => s
  | _ + 1, [] => s
  | fuel + 1, cs =>
    let (next, rest) := s.feed cs
    next.feedAll fuel rest

end State

/-- The code blocks of a text, in the order in which they begin. -/
def codeBlocks (text : String) : List CodeBlock :=
  (State.feedAll {} (text.toList.length + 1) text.toList).close.blocks

end Markdown

end Replatform
