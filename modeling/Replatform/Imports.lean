import Replatform.Path
import Replatform.Sort
import Replatform.Text.Blank
import Replatform.Text.Word

/-!
# Import Statements

Finding the specifiers that a source file imports, without parsing its language.
Five forms are recognised wherever they stand, comments and strings included:

* `import … from 'a'` and `import 'a'`
* `export … from 'a'`
* `require('a')`
* `import('a')`
* `@import 'a'` and `@import url('a'`

What stands between a keyword and the opening quote may run over lines but holds
neither quote nor semicolon, so the opening quote is the first one after the
keyword and a form matches in at most one way. Each form is looked for on its own
from left to right, its matches not overlapping, and the specifiers are listed in
the order in which they stand.

## Main definitions

* `Imports.Form`: The forms.
* `Imports.Form.match?`: A form at the start of a text.
* `Imports.scan`: The specifiers of a text, each once.
* `Imports.relative`: Those that are relative paths.
-/

namespace Replatform

namespace Imports

/-- A form of import statement. -/
inductive Form where
  /-- A keyword, a clause that ends in `from`, and a specifier. If `bare`, the clause may be
      missing. -/
  | clause (keyword : String) (bare : Bool)
  /-- A keyword and a specifier in parentheses. -/
  | call (keyword : String)
  /-- An import in a style sheet. -/
  | style
deriving DecidableEq, Repr

/-- The forms, in the order in which they take precedence. -/
def forms : List Form :=
  [.clause "import" true, .clause "export" false, .call "require", .call "import", .style]

/-- The word that a form begins with. -/
def Form.keyword : Form → String
  | .clause keyword _ => keyword
  | .call keyword => keyword
  | .style => "@import"

/-- The keyword is a word of its own and must not continue another one. -/
def Form.isWord : Form → Bool
  | .style => false
  | _ => true

/-- Either kind of quote. -/
def isQuote (c : Char) : Bool :=
  c == '\'' || c == '"'

/-- The specifier between an opening quote that has been read and the next quote, and what
    follows. It is not empty and stays on one line; the quotes need not be of one kind. -/
def specifier? (cs : List Char) : Option (List Char × List Char) :=
  let body := cs.takeWhile fun c => !isQuote c && c != '\n'
  match cs.drop body.length with
  | q :: rest => if isQuote q && body ≠ [] then some (body, rest) else none
  | [] => none

/-- What follows the opening quote at the start of a text. -/
def afterQuote? : List Char → Option (List Char)
  | q :: rest => if isQuote q then some rest else none
  | [] => none

/-- The text between a keyword and an opening quote makes the two an import clause. -/
def isClause (bare : Bool) (gap : List Char) : Bool :=
  let words := Text.dropBlanksEnd gap
  gap.head?.any Text.isBlank &&
    ((bare && words = []) || (5 ≤ words.length && "from".toList.isSuffixOf words))

/-- What follows the opening quote of a form, given what follows its keyword. -/
def Form.body? : Form → List Char → Option (List Char)
  | .clause _ bare, cs =>
    let gap := cs.takeWhile fun c => !isQuote c && c != ';'
    if isClause bare gap then afterQuote? (cs.drop gap.length) else none
  | .call _, cs =>
    match Text.dropBlanks cs with
    | '(' :: rest => afterQuote? (Text.dropBlanks rest)
    | _ => none
  | .style, cs =>
    if cs.head?.any Text.isBlank then
      match Text.dropBlanks cs with
      | 'u' :: 'r' :: 'l' :: '(' :: rest => afterQuote? (Text.dropBlanks rest)
      | rest => afterQuote? rest
    else none

/-- What a form needs after its closing quote. -/
def Form.close? : Form → List Char → Option (List Char)
  | .call _, cs =>
    match Text.dropBlanks cs with
    | ')' :: rest => some rest
    | _ => none
  | _, cs => some cs

/-- A form at the start of a text: the specifier, the text from the specifier on, and the
    text after the match. -/
def Form.match? (form : Form) (cs : List Char) :
    Option (List Char × List Char × List Char) :=
  if form.keyword.toList.isPrefixOf cs then do
    let inside ← form.body? (cs.drop form.keyword.length)
    let (specifier, rest) ← specifier? inside
    let rest ← form.close? rest
    return (specifier, inside, rest)
  else none

/-- The matches of a form, with the number of characters in front of each specifier.
    `position` characters have been read, the last of them is `before`, and the next
    `skip` characters belong to a match. -/
def Form.matchesFrom (form : Form) (position skip : Nat) (before : Option Char) :
    List Char → List (Nat × List Char)
  | [] => []
  | c :: cs =>
    match skip with
    | skip + 1 => matchesFrom form (position + 1) skip (some c) cs
    | 0 =>
      -- A keyword inside of a longer word is none.
      let free := !form.isWord || !before.any Text.isWord
      match if free then form.match? (c :: cs) else none with
      | some (specifier, inside, rest) =>
        let length := cs.length + 1
        (position + (length - inside.length), specifier) ::
          matchesFrom form (position + 1) (cs.length - rest.length) (some c) cs
      | none => matchesFrom form (position + 1) 0 (some c) cs

/-- All matches, by form. -/
def found (cs : List Char) : List (Nat × List Char) :=
  forms.flatMap fun form => form.matchesFrom 0 0 none cs

/-- The specifiers of a text, each once, in the order of their first occurrence. -/
def scan (text : String) : List String :=
  ((((sortBy (fun a b => a.1 ≤ b.1) (found text.toList)).map fun m => Text.strip m.2).filter
    (· ≠ [])).map String.ofList).eraseDups

/-- The specifiers that are relative paths. -/
def relative (text : String) : List String :=
  (scan text).filter Path.isRelative

end Imports

end Replatform
