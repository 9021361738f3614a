import Replatform.Markdown.Blocks
import Replatform.Text.Search

/-!
# Code in Answers

A service answers with text that is usually, but not always, wrapped: code stands
in a fenced block with some prose around it. What is wanted is the content of the
file, also while an answer is still arriving and its fence has not been closed.

## Main definitions

* `Answer.fenceMarks`: What an answer with a fence contains.
* `Answer.stripFences`: The content of a file in an answer.
-/

namespace Replatform

namespace Answer

/-- The beginnings of fences. -/
def fenceMarks : List (List Char) :=
  [List.replicate 3 Markdown.backtick, List.replicate 3 '~']

/-- A code block worth taking: it has a language, or something in it. -/
def isSubstantial (block : Markdown.CodeBlock) : Bool :=
  block.language.isSome || !Text.isBlankText block.code

/-- Code with its trailing blanks replaced by one line ending, nothing if it is blank. -/
def tidy (code : String) : String :=
  let body := Text.trimEnd code
  if body = "" then "" else body ++ "\n"

/-- The content of a file in an answer: the first substantial code block, or the whole answer
    if there is none. An answer without any fence is taken as it is, even if parts of it are
    indented. -/
def stripFences (text : String) : String :=
  if fenceMarks.any fun mark => Text.occurs mark text.toList then
    match (Markdown.codeBlocks text).find? isSubstantial with
    | some block => tidy block.code
    | none => Text.trim text
  else Text.trim text

end Answer

end Replatform
