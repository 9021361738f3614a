/-!
# Blank Characters

The characters that count as blank wherever text is trimmed, and the trimming
itself.

Blankness is the Unicode property `White_Space`, so a no-break space or an
ideographic space at the end of a line disappears like an ordinary one, while a
zero-width space or a byte order mark stays. Trimming works on lists of
characters and is lifted to strings, so that facts about it are facts about
`List.dropWhile`.

## Main definitions

* `isBlank`: The 25 characters with the property `White_Space`.
* `trimStart`, `trimEnd`, `trim`: Drop blanks at one end or at both.
* `isBlankText`: Nothing but blanks.
-/

namespace Replatform

namespace Text

/-- The character has the Unicode property `White_Space`. -/
def isBlank (c : Char) : Bool :=
  let n := c.toNat
  (9 ≤ n && n ≤ 13) || n == 0x20 || n == 0x85 || n == 0xA0 || n == 0x1680 ||
    (0x2000 ≤ n && n ≤ 0x200A) || n == 0x2028 || n == 0x2029 || n == 0x202F ||
    n == 0x205F || n == 0x3000

/-- The characters from the first that is not blank. -/
def dropBlanks (cs : List Char) : List Char :=
  cs.dropWhile isBlank

/-- The characters up to the last that is not blank. -/
def dropBlanksEnd (cs : List Char) : List Char :=
  (dropBlanks cs.reverse).reverse

/-- The characters without the blanks at either end. -/
def strip (cs : List Char) : List Char :=
  dropBlanksEnd (dropBlanks cs)

/-- The text without leading blanks. -/
def trimStart (s : String) : String :=
  String.ofList (dropBlanks s.toList)

/-- The text without trailing blanks. -/
def trimEnd (s : String) : String :=
  String.ofList (dropBlanksEnd s.toList)

/-- The text without blanks at either end. -/
def trim (s : String) : String :=
  String.ofList (strip s.toList)

/-- The text holds nothing but blanks. -/
def isBlankText (s : String) : Bool :=
  s.toList.all isBlank

/-- Whatever core calls whitespace is blank here too. -/
theorem isBlank_of_isWhitespace {c : Char} (h : c.isWhitespace = true) : isBlank c = true := by
  simp only [Char.isWhitespace, Bool.or_eq_true, decide_eq_true_eq] at h
  rcases h with ((h | h) | h) | h <;> subst h <;> decide

end Text

end Replatform
