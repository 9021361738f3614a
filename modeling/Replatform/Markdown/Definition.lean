import Replatform.Markdown.Container
import Replatform.Markdown.Info

/-!
# Link Reference Definitions

A paragraph may begin with definitions, each a label in brackets, a colon, a destination
and perhaps a title. They are not part of its text. This matters for the code that
follows, because a line of equals signs makes a heading of text but not of definitions.

A definition may go on over several lines, and what begins in the containers around it
breaks it off as it would break off the paragraph.

## Main definitions

* `Markdown.label?`, `Markdown.destination?`, `Markdown.title?`: What follows each part.
* `Markdown.definition?`: What follows a definition.
-/

namespace Replatform

namespace Markdown

/-- What the next line adds to a definition, unless it ends the paragraph. -/
def nextLine? (containers : List Container) (cs : List Char) : Option (List Char) :=
  let next := sequelIn containers (afterLine cs)
  if next.underlines || next.breaks then none else some next.rest

/-- What follows the bracket that closes a label, where `room` characters may still come.
    A label holds no other bracket, unless it is escaped, and something besides blanks
    (`filled`). Only one line may end among the blanks between two words (`broken`). -/
def label? (containers : List Container) (filled broken : Bool) :
    Nat → List Char → Option (List Char)
  | 0, _ => none
  | _ + 1, [] => none
  | room + 1, c :: cs =>
    if c == ']' then if filled then some cs else none
    else if c == '[' then none
    else if c == '\\' then label? containers true false room cs.tail
    else if isLineEnd (c :: cs) then
      if broken then none
      else
        match nextLine? containers (c :: cs) with
        | some next => label? containers filled true room next
        | none => none
    else if isBlank c then label? containers filled broken room cs
    else label? containers true false room cs

/-- What follows the blanks between two parts of a definition, among which one line may end, and
    whether one does. -/
def partGap? (containers : List Container) (cs : List Char) : Option (List Char × Bool) :=
  let after := skipBlanks cs
  if isLineEnd after then
    match nextLine? containers after with
    | some next =>
      let start := skipBlanks next
      if isLineEnd start then none else some (start, true)
    | none => none
  else some (after, false)

/-- What follows a destination in angle brackets, behind the first of them. -/
def bracketed? : List Char → Option (List Char)
  | [] => none
  | '>' :: cs => some cs
  | '\\' :: c :: cs => if isPunctuation c then bracketed? cs else bracketed? (c :: cs)
  | c :: cs => if c == '<' || c == '\n' || c == '\r' then none else bracketed? cs

/-- What follows a destination without brackets, inside `depth` open parentheses of which there
    may be two. It goes on to a blank, a control character or a parenthesis too many. -/
def plain? (depth : Nat) : List Char → Option (List Char)
  | [] => if depth = 0 then some [] else none
  | '\\' :: c :: cs => if isPunctuation c then plain? depth cs else plain? depth (c :: cs)
  | c :: cs =>
    if c.toNat ≤ 0x20 then if depth = 0 then some (c :: cs) else none
    else if c == '(' then if 2 ≤ depth then none else plain? (depth + 1) cs
    else if c == ')' then if depth = 0 then some (c :: cs) else plain? (depth - 1) cs
    else plain? depth cs

/-- What follows a destination, which is not empty unless it stands in angle brackets. -/
def destination? : List Char → Option (List Char)
  | '<' :: cs => bracketed? cs
  | cs =>
    match plain? 0 cs with
    | some after => if after.length < cs.length then some after else none
    | none => none

/-- What follows a title that ends with the character `mark`. A title holds no blank line, and
    one in parentheses no other opening parenthesis. Every step takes a character. -/
def titleRest? (containers : List Container) (mark : Char) : Nat → List Char → Option (List Char)
  | 0, _ => none
  | _ + 1, [] => none
  | fuel + 1, c :: cs =>
    if c == mark then some cs
    else if c == '(' && mark == ')' then none
    else if c == '\\' then
      titleRest? containers mark fuel (if isLineEnd cs then cs else cs.tail)
    else if isLineEnd (c :: cs) then
      match nextLine? containers (c :: cs) with
      | some next => if isBlankLine next then none else titleRest? containers mark fuel next
      | none => none
    else titleRest? containers mark fuel cs

/-- What follows a title. -/
def title? (containers : List Container) : List Char → Option (List Char)
  | '(' :: cs => titleRest? containers ')' (cs.length + 1) cs
  | c :: cs => if c == '"' || c == '\'' then titleRest? containers c (cs.length + 1) cs else none
  | [] => none

/-- What follows a definition in the line in which it ends. -/
def definition? (containers : List Container) (cs : List Char) : Option (List Char) := do
  let '[' :: cs := cs | none
  let ':' :: cs ← label? containers false false 1000 cs | none
  let (target, _) ← partGap? containers cs
  let after ← destination? target
  match partGap? containers after with
  | none => some after
  | some (next, isBelow) =>
    -- What stands below the destination and is no title begins the paragraph.
    let titled := (title? containers next).filter isBlankLine
    if isBelow then some (titled.getD after)
    else if after.head?.any isBlank then titled else none

end Markdown

end Replatform
