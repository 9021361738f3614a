import Replatform.Path
import Replatform.Text.Blank

/-!
# Path Patterns

Hints name files loosely: `app.js`, `src/app`, `pages/*.jsx`. A pattern with a star
is a glob: it matches the whole path, every star stands for any text on one line,
and every other character for itself. Any other pattern is a path, and it matches a
path that is the same, ends in it (with or without the extensions), or has the same
last segment up to the extension.

## Main definitions

* `Pattern`: Globs and literal paths.
* `Pattern.parse`: The pattern that a text stands for.
* `Pattern.accepts`: The pattern matches a path.
-/

namespace Replatform

/-- A loose description of paths. -/
inductive Pattern where
  /-- The pieces between the stars. -/
  | glob (pieces : List (List Char))
  | literal (path : String)
deriving DecidableEq, Repr

namespace Pattern

/-- The pattern that a text stands for. -/
def parse (raw : String) : Pattern :=
  let text := Text.strip raw.toList
  if '*' ∈ text then .glob (text.splitOn '*')
  else .literal (Path.normalize (String.ofList text))

/-- Some characters on one line are followed by `piece`, and what comes then is accepted. This is
    decided for the text and all its tails at once, `accepted` saying it of the same tails, so
    that no tail is looked at again for every way to reach it. -/
def afterGap (piece : List Char) : List Char → List Bool → List Bool
  | [], accepted => [piece.isEmpty && accepted.headD false]
  | c :: cs, accepted =>
    let later := afterGap piece cs accepted.tail
    let here := piece.isPrefixOf (c :: cs) && (accepted.drop piece.length).headD false
    (here || (c != '\n' && later.headD false)) :: later

/-- For the text and all its tails, from the longest on: it consists of the pieces in order, each
    after some characters on one line. -/
def matchesPieces (pieces : List (List Char)) (cs : List Char) : List Bool :=
  pieces.foldr (fun piece accepted => afterGap piece cs accepted) (cs.map (fun _ => false) ++ [true])

/-- The pieces of a glob match a whole text. -/
def matchesGlob (pieces : List (List Char)) (cs : List Char) : Bool :=
  match pieces with
  | [] => cs.isEmpty
  | first :: rest =>
    first.isPrefixOf cs && (matchesPieces rest (cs.drop first.length)).headD false

/-- A literal path matches a path. -/
def matchesLiteral (path candidate : String) : Bool :=
  path != "" && (path == candidate ||
    Path.endsWith (Path.stripExtension candidate) (Path.stripExtension path) ||
    Path.endsWith candidate path ||
    Path.fileStem path == Path.fileStem candidate)

/-- The pattern matches a path. -/
def accepts : Pattern → String → Bool
  | .glob pieces, candidate => matchesGlob pieces candidate.toList
  | .literal path, candidate => matchesLiteral path candidate

/-- The paths that the pattern matches, in the order given. -/
def resolve (p : Pattern) (paths : List String) : List String :=
  paths.filter p.accepts

end Pattern

end Replatform
