/-!
# Lines and Columns

Markdown is read from the start of a line, and the structure of a document hangs on
how far its lines are indented. A tab reaches to the next column that is a multiple
of four, and a container may take some of those columns and leave the rest, which
then count as spaces.

What ends a line depends on what the line is part of. A line feed, a carriage return
or both end a line of running text, while a line of code goes on to a line feed. So a
text is not cut into lines beforehand. A place in it is given by all that follows, and
whoever reads there takes as much as belongs to the line.

## Main definitions

* `Markdown.afterLine`: What follows a line of running text.
* `Markdown.splitCode`: The line and what follows, where only a line feed ends a line.
* `Markdown.Cursor`: A place in a text.
* `Markdown.Cursor.takeSpace`: Move over blank columns.
-/

namespace Replatform

namespace Markdown

/-- A blank that indents. -/
def isGap (c : Char) : Bool :=
  c == ' ' || c == '\t'

/-- A blank inside a line: an indenting one, a vertical tab or a form feed. -/
def isBlank (c : Char) : Bool :=
  isGap c || c.toNat == 0x0B || c.toNat == 0x0C

/-- The characters up to the end of the line. -/
def lineOf (cs : List Char) : List Char :=
  cs.takeWhile fun c => c != '\n' && c != '\r'

/-- What follows the end of the line, where a carriage return and a line feed end it together. -/
def afterLine : List Char → List Char
  | [] => []
  | '\n' :: cs => cs
  | '\r' :: '\n' :: cs => cs
  | '\r' :: cs => cs
  | _ :: cs => afterLine cs

/-- The line with its line feed, and what follows. A carriage return is part of the line. -/
def splitCode (cs : List Char) : List Char × List Char :=
  let line := cs.takeWhile (· != '\n')
  match cs.dropWhile (· != '\n') with
  | [] => (line, [])
  | c :: rest => (line ++ [c], rest)

/-- The line ends here. -/
def isLineEnd (cs : List Char) : Bool :=
  cs.head?.all fun c => c == '\n' || c == '\r'

/-- The characters behind any blanks. -/
def skipBlanks (cs : List Char) : List Char :=
  cs.dropWhile isBlank

/-- Nothing but blanks up to the end of the line. -/
def isBlankLine (cs : List Char) : Bool :=
  isLineEnd (skipBlanks cs)

/-- A place in a text: what follows, the column, and the columns of a tab in front of it
    that have not been used. -/
structure Cursor where
  rest : List Char
  column : Nat := 0
  spare : Nat := 0
deriving DecidableEq, Repr

namespace Cursor

/-- The start of a line. -/
def ofLine (cs : List Char) : Cursor :=
  { rest := cs }

/-- Move over at most `n` blank columns: how many there were, and the place behind them. -/
def takeSpace : Nat → Cursor → Nat × Cursor
  | 0, c => (0, c)
  | n + 1, ⟨rest, column, spare + 1⟩ =>
    let (k, c) := takeSpace n ⟨rest, column, spare⟩
    (k + 1, c)
  | n + 1, ⟨' ' :: rest, column, 0⟩ =>
    let (k, c) := takeSpace n ⟨rest, column + 1, 0⟩
    (k + 1, c)
  | n + 1, ⟨'\t' :: rest, column, 0⟩ =>
    let width := 4 - column % 4
    let (k, c) := takeSpace n ⟨rest, column + width, width - 1⟩
    (k + 1, c)
  | _ + 1, c => (0, c)

/-- Move over `n` characters that are not tabs. -/
def advance (n : Nat) (c : Cursor) : Cursor :=
  ⟨c.rest.drop n, c.column + n, 0⟩

end Cursor

end Markdown

end Replatform
