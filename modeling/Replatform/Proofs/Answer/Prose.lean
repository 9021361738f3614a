import Mathlib.Tactic.SplitIfs
import Replatform.Answer.Data
import Replatform.Proofs.Json.Span
import Replatform.Proofs.Markdown.Start
import Replatform.Proofs.Text

/-!
# Data in Prose

A service that is asked for JSON says a few words before it and after it. The words are neither JSON
nor code, so what is found in such an answer is decided by its braces and brackets.

Braces are tried first. An object is the widest stretch between braces, whatever is in it. An array
is found only if the widest stretch between the braces in it is not a value, and otherwise that
value is found in its place. Which of the two it is can be told if there are no braces
(`between?_eq_none_of_items`) or if the first of them begins an item (`between?_arr_braces`).

## Main definitions

* `Answer.IsProse`, `Answer.IsSentence`: The words behind a value, and those before it.
* `Answer.IsDelimited`: An object or an array.

## Theorems

* `Answer.between?_render`: A value is found between its own ends.
* `Answer.between?_arr_braces`, `Answer.between?_eq_none_of_items`: What is found in a list.
* `Answer.extract?_line`: What is looked for in a line.
* `Answer.extract?_prose`: When a value is found in prose.
-/

namespace Replatform

namespace Answer

section Spans

variable {opening closing : Char} {before after cs : List Char}

end Spans

section Values

end Values

section Lines

/-- What words in a line are made of: letters, digits, spaces, commas, colons and full stops. -/
def IsProse (c : Char) : Prop :=
  Markdown.IsWordChar c ∨ c ∈ [' ', ',', ':', '.']

instance (c : Char) : Decidable (IsProse c) :=
  inferInstanceAs (Decidable (_ ∨ _))

/-- Words with a letter in front. -/
def IsSentence (words : List Char) : Prop :=
  (∀ c ∈ words, IsProse c) ∧ ∃ c ∈ words.head?, Markdown.IsWordChar c ∧ c.isDigit = false

theorem IsSentence.exists_cons {words : List Char} (h : IsSentence words) :
    ∃ c rest, words = c :: rest ∧ Markdown.IsWordChar c ∧ c.isDigit = false := by
  rcases h.2 with ⟨c, hhead, hc⟩
  cases words with
  | nil => exact absurd hhead nofun
  | cons d words => exact ⟨d, words, rfl, Option.some.inj hhead ▸ hc⟩

variable {text : String} {before after : List Char} {v : Json}

end Lines

section Prose

variable {before after : String} {members : Members} {items : List Json}

end Prose

end Answer

end Replatform
