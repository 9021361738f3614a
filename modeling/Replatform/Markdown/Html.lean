import Replatform.Markdown.Cursor
import Replatform.Text.Search

/-!
# HTML in Markdown

A line that begins with certain tags opens a block of HTML, inside which nothing is
code. There are seven ways to open one. The first five name their own end; the
others last up to the next blank line. The last, any complete tag alone on its line,
cannot break into a paragraph.

## Main definitions

* `Markdown.HtmlEnd`: What ends a block.
* `Markdown.htmlStart?`: The end of the block that a line opens, except for the last way.
* `Markdown.isLoneTag`: The last way.
* `Markdown.HtmlEnd.isMetBy`: The line ends the block.
-/

namespace Replatform

namespace Markdown

/-- What ends a block of HTML. -/
inductive HtmlEnd where
  /-- A line with this text in it. -/
  | containing (text : List Char)
  /-- A blank line. -/
  | blankLine
deriving DecidableEq, Repr

/-- The characters with ASCII letters in lower case. -/
def foldCase (cs : List Char) : List Char :=
  cs.map Char.toLower

/-- A line of the block is its last. The blank line that ends a block is not part of it. -/
def HtmlEnd.isMetBy (e : HtmlEnd) (line : List Char) : Bool :=
  match e with
  | .containing text => Text.occurs text line
  | .blankLine => false

/-- Tags whose content is taken literally. -/
def literalTags : List String := ["script", "pre", "style", "textarea"]

/-- Tags that make up the structure of a page. -/
def blockTags : List String :=
  ["address", "article", "aside", "base", "basefont", "blockquote", "body", "caption", "center",
    "col", "colgroup", "dd", "details", "dialog", "dir", "div", "dl", "dt", "fieldset",
    "figcaption", "figure", "footer", "form", "frame", "frameset", "h1", "h2", "h3", "h4", "h5",
    "h6", "head", "header", "hr", "html", "iframe", "legend", "li", "link", "main", "menu",
    "menuitem", "nav", "noframes", "ol", "optgroup", "option", "p", "param", "search", "section",
    "summary", "table", "tbody", "td", "tfoot", "th", "thead", "title", "tr", "track", "ul"]

/-- A letter of the ASCII alphabet. -/
def isLetter (c : Char) : Bool :=
  c.isAlpha

/-- The letters and digits at the start of a text, in lower case, and what follows. -/
def tagWord (cs : List Char) : String × List Char :=
  (String.ofList (foldCase (cs.takeWhile Char.isAlphanum)), cs.dropWhile Char.isAlphanum)

/-- The end of the block that a line opens, given what follows `<` at its start. A tag whose
    content is literal is ended by its own closing tag in lower case, however it was written. -/
def htmlStart? (cs : List Char) : Option HtmlEnd :=
  let (word, after) := tagWord cs
  if literalTags.contains word && after.head?.all (fun c => isBlank c || c == '>') then
    some (.containing ("</" ++ word ++ ">").toList)
  else if ['!', '-', '-'].isPrefixOf cs then some (.containing ['-', '-', '>'])
  else if ['?'].isPrefixOf cs then some (.containing ['?', '>'])
  else if "![CDATA[".toList.isPrefixOf cs then some (.containing [']', ']', '>'])
  else
    match cs with
    | '!' :: c :: _ => if isLetter c then some (.containing ['>']) else none
    | _ =>
      let (word, after) := tagWord (match cs with | '/' :: rest => rest | _ => cs)
      if blockTags.contains word && (match after with
          | [] => true
          | '/' :: '>' :: _ => true
          | c :: _ => isGap c || c == '>') then some .blankLine
      else none

/-- The character may stand in the name of an attribute. -/
def isAttributeChar (c : Char) : Bool :=
  c.isAlphanum || c == '_' || c == '.' || c == ':' || c == '-'

/-- The character may stand in the value of an attribute that is not quoted. Of the blanks only
    the space ends such a value. -/
def isValueChar (c : Char) : Bool :=
  !(c == ' ' || c == '"' || c == '\'' || c == '=' || c == '<' || c == '>' || c.toNat == 0x60)

/-- What follows the value of an attribute. -/
def attributeValue? : List Char → Option (List Char)
  | [] => none
  | c :: rest =>
    if c == '\'' || c == '"' then
      match rest.dropWhile (· != c) with
      | [] => none
      | _ :: after => some after
    else if isValueChar c then some (rest.dropWhile isValueChar)
    else none

/-- What follows the attributes of a tag, each after a blank. Each attribute takes two
    characters or more, so `fuel` of the length of the text is enough. -/
def attributes? : Nat → List Char → Option (List Char)
  | 0, _ => none
  | fuel + 1, cs =>
    match skipBlanks cs with
    | c :: rest =>
      if (isLetter c || c == '_' || c == ':') && cs.head?.any isBlank then
        let after := rest.dropWhile isAttributeChar
        match skipBlanks after with
        | '=' :: value =>
          match attributeValue? (skipBlanks value) with
          | some next => attributes? fuel next
          | none => none
        | _ => attributes? fuel after
      else some (c :: rest)
    | [] => some []

/-- The line is one complete tag with nothing but blanks behind it, given what follows `<`. -/
def isLoneTag (cs : List Char) : Bool :=
  let closing := cs.head? == some '/'
  let cs := if closing then cs.tail else cs
  match cs with
  | [] => false
  | c :: rest =>
    let isNameChar (d : Char) : Bool := d.isAlphanum || d == '-'
    let after := rest.dropWhile isNameChar
    if !isLetter c then false
    else if closing then
      match skipBlanks after with
      | '>' :: tail => (skipBlanks tail).isEmpty
      | _ => false
    else
      match attributes? (after.length + 1) after with
      | some ('>' :: tail) => (skipBlanks tail).isEmpty
      | some ('/' :: '>' :: tail) => (skipBlanks tail).isEmpty
      | _ => false

end Markdown

end Replatform
