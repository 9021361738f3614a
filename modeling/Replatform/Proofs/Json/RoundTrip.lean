import Mathlib.Data.List.Induction
import Replatform.Proofs.Json.Numerals
import Replatform.Proofs.Json.Strings

/-!
# Values Written and Read

The compact text of a value is read back as the value. The two stages of reading are two stages of
the argument. What the first one finds in the text is known beforehand, since `source` builds the
same tree from the value: `read?_render` holds of every value, whether a text can mean it or not.
The second stage gives the value back if it is one that a text can mean. `IsValue` says which these
are: their integers have 64 bits, their doubles are finite and are told apart by their numerals, the
members of their objects are in order, and they do not nest too deep.

A value is read up to its last character and no further, so that something may stand behind it, and
nothing has to be known about what does, except that it does not continue a numeral. The fuel of the
readers is counted in characters, and the text of a value has enough of them.

## Main definitions

* `source`: The tree of the compact text of a value.
* `IsValue`: What a text can mean.

## Theorems

* `readsBack`: A written value is read up to its end.
* `read?_render`: The tree of a written value.
* `value?_source`: What the tree of a written value means.
* `parse?_render`: A written value is read back.
-/

namespace Replatform

namespace Json

/-- What holds of all values without parts, of an array if it holds of its items, and of an object
    if it holds of the values of its members, holds of every value. -/
theorem induction {motive : Json → Prop} (null : motive .null) (bool : ∀ b, motive (.bool b))
    (int : ∀ n, motive (.int n)) (float : ∀ x, motive (.float x)) (str : ∀ s, motive (.str s))
    (arr : ∀ items, (∀ item ∈ items, motive item) → motive (.arr items))
    (obj : ∀ members, (∀ m ∈ members, motive m.2) → motive (.obj members)) (v : Json) :
    motive v :=
  Json.rec (motive_1 := motive) (motive_2 := fun items => ∀ item ∈ items, motive item)
    (motive_3 := fun members => ∀ m ∈ members, motive m.2) (motive_4 := fun m => motive m.2)
    null bool int float str arr obj
    nofun (fun _ _ hitem hitems => List.forall_mem_cons.mpr ⟨hitem, hitems⟩)
    nofun (fun _ _ hm hms => List.forall_mem_cons.mpr ⟨hm, hms⟩) (fun _ _ h => h) v

mutual

/-- The tree of the compact text of a value. A double that is not finite is written as `null`. -/
def source : Json → Source
  | .null => .null
  | .bool b => .bool b
  | .int n => .number (integral n)
  | .float x => if x.isFinite then .number (floating x) else .null
  | .str s => .string (s.toList.flatMap escapeChar)
  | .arr items => .array (sources items)
  | .obj members => .object (memberSources members)

/-- The trees of some values. -/
def sources : List Json → List Source
  | [] => []
  | item :: items => source item :: sources items

/-- The trees of some members. -/
def memberSources : List (String × Json) → List (List Char × Source)
  | [] => []
  | (key, value) :: members =>
    (key.toList.flatMap escapeChar, source value) :: memberSources members

end

theorem source_float {x : Float} (h : x.isFinite = true) :
    source (.float x) = .number (floating x) := by
  rw [source, if_pos h]

/-- A written value is read up to its end, whatever follows it. -/
def ReadsBack (v : Json) : Prop :=
  ∀ fuel rest, (renderChars v).length ≤ fuel → EndsNumeral rest →
    Source.readValue? fuel (renderChars v ++ rest) = some (source v, rest)

section Beginnings

theorem skipSpace_cons {c : Char} (h : isSpace c = false) (cs : List Char) :
    skipSpace (c :: cs) = c :: cs :=
  List.dropWhile_cons_of_neg (by rw [h]; exact Bool.false_ne_true)

/-- What a value begins with is not a blank, and does not end an array or an object. -/
def BeginsValue (cs : List Char) : Prop :=
  ∃ c rest, cs = c :: rest ∧ isSpace c = false ∧ c ≠ ']' ∧ c ≠ '\x7d'

theorem ne_of_numeral {c d : Char} (h : c = '-' ∨ c.isDigit = true)
    (hd : d ≠ '-' ∧ d.isDigit = false) : c ≠ d := by
  rintro rfl
  rcases h with h | h
  · exact hd.1 h
  · rw [hd.2] at h
    exact Bool.false_ne_true h

theorem isSpace_of_numeral {c : Char} (h : c = '-' ∨ c.isDigit = true) : isSpace c = false := by
  simp only [isSpace, Bool.or_eq_false_iff, beq_eq_false_iff_ne]
  exact ⟨⟨⟨ne_of_numeral h (by decide), ne_of_numeral h (by decide)⟩,
    ne_of_numeral h (by decide)⟩, ne_of_numeral h (by decide)⟩

theorem beginsValue_numeral {n : Numeral} (hn : n.IsProper) : BeginsValue n.chars := by
  rcases hn.exists_chars_eq_cons with ⟨c, cs, hchars, hc⟩
  exact ⟨c, cs, hchars, isSpace_of_numeral hc, ne_of_numeral hc (by decide),
    ne_of_numeral hc (by decide)⟩

theorem renderChars_float (x : Float) :
    renderChars (.float x) = if x.isFinite then (floating x).chars else "null".toList := by
  rw [renderChars]
  split
  · next h => rw [chars_floating h]
  · next h => rw [floatText, if_neg h]

theorem beginsValue_renderChars (v : Json) : BeginsValue (renderChars v) := by
  have hchar : ∀ (c : Char) rest, isSpace c = false ∧ c ≠ ']' ∧ c ≠ '\x7d' →
      BeginsValue (c :: rest) :=
    fun c rest h => ⟨c, rest, rfl, h⟩
  cases v with
  | null => exact hchar 'n' _ (by decide)
  | bool b =>
      cases b with
      | true => exact hchar 't' _ (by decide)
      | false => exact hchar 'f' _ (by decide)
  | int n =>
      rw [renderChars, ← chars_integral]
      exact beginsValue_numeral (isProper_integral n)
  | float x =>
      rw [renderChars_float]
      split
      · exact beginsValue_numeral (isProper_floating x)
      · exact hchar 'n' _ (by decide)
  | str s => exact hchar '"' _ (by decide)
  | arr items => cases items <;> exact hchar '[' _ (by decide)
  | obj members =>
      rcases members with _ | ⟨⟨key, value⟩, members⟩ <;> exact hchar '\x7b' _ (by decide)

end Beginnings

section Reading

variable {rest : List Char}

/-- What begins with a sign or a digit is read as a numeral. -/
theorem readValue?_of_numeral {fuel : ℕ} {c : Char} {cs : List Char}
    (h : c = '-' ∨ c.isDigit = true) :
    Source.readValue? (fuel + 1) (c :: cs) =
      (readNumeral? (c :: cs)).map fun r => (.number r.1, r.2) := by
  have hne : ∀ {d : Char} {rest : List Char}, c :: cs = d :: rest →
      d ≠ '-' ∧ d.isDigit = false → False :=
    fun heq hd => ne_of_numeral h hd (List.cons.inj heq).1
  rw [Source.readValue?, skipSpace_cons (isSpace_of_numeral h)]
  split
  · next heq => exact absurd (by decide) (hne heq)
  · next heq => exact absurd (by decide) (hne heq)
  · next heq => exact absurd (by decide) (hne heq)
  · next heq => exact absurd (by decide) (hne heq)
  · next heq => exact absurd (by decide) (hne heq)
  · next heq => exact absurd (by decide) (hne heq)
  · rfl

/-- A written numeral is read as a value. -/
theorem readValue?_chars {fuel : ℕ} {n : Numeral} (hn : n.IsProper) (hfuel : n.chars.length ≤ fuel)
    (hrest : EndsNumeral rest) :
    Source.readValue? fuel (n.chars ++ rest) = some (.number n, rest) := by
  have hread := readNumeral?_chars n hn hrest
  rcases hn.exists_chars_eq_cons with ⟨c, cs, hchars, hc⟩
  rw [hchars] at hfuel hread ⊢
  cases fuel with
  | zero => exact absurd hfuel (Nat.not_succ_le_zero _)
  | succ fuel =>
      rw [List.cons_append] at hread ⊢
      rw [readValue?_of_numeral hc, hread, Option.map_some]

/-- Written items are read up to the end of their array. -/
theorem readItems?_append {item : Json} {items : List Json} (hitem : ReadsBack item)
    (hitems : ∀ i ∈ items, ReadsBack i) {fuel : ℕ}
    (hfuel : (renderChars item ++ renderItems items).length ≤ fuel) :
    Source.readItems? fuel (renderChars item ++ renderItems items ++ rest) =
      some (source item :: sources items, rest) := by
  induction items generalizing item fuel with
  | nil =>
      rw [renderItems, List.length_append, List.length_singleton] at hfuel
      cases fuel with
      | zero => exact absurd hfuel (Nat.not_succ_le_zero _)
      | succ fuel =>
          have hread := hitem fuel (']' :: rest) (by omega) (endsNumeral_cons rest (by decide))
          rw [renderItems, List.append_assoc, List.singleton_append, Source.readItems?, hread]
          rfl
  | cons next items ih =>
      rw [renderItems, List.cons_append, List.length_append, List.length_cons] at hfuel
      rw [List.forall_mem_cons] at hitems
      cases fuel with
      | zero => exact absurd hfuel (Nat.not_succ_le_zero _)
      | succ fuel =>
          have hread := hitem fuel (',' :: (renderChars next ++ renderItems items ++ rest))
            (by omega)
            (endsNumeral_cons _ (by decide))
          have hbehind : Source.readItems? fuel (renderChars next ++ renderItems items ++ rest) =
              some (source next :: sources items, rest) := ih hitems.1 hitems.2 (by omega)
          rw [renderItems, List.append_assoc, List.cons_append, List.cons_append,
            Source.readItems?, hread]
          simp only [skipSpace_cons (show isSpace ',' = false from rfl), hbehind, Option.map_some,
            sources]

section Members

variable {fuel : ℕ} {key : String} {cs : List Char} {value : Source}

/-- The last member of an object is read up to the closing brace. -/
theorem readMembers?_last (hvalue : Source.readValue? fuel cs = some (value, '\x7d' :: rest)) :
    Source.readMembers? (fuel + 1) (quote key ++ ':' :: cs) =
      some ([(key.toList.flatMap escapeChar, value)], rest) := by
  have hkey := readString?_escaped key.toList (':' :: cs)
  rw [quote, List.cons_append, List.cons_append, List.append_assoc, List.singleton_append,
    Source.readMembers?, skipSpace_cons (by rfl)]
  simp only [hkey, skipSpace_cons (show isSpace ':' = false from rfl), hvalue]
  rfl

/-- A member is read up to the comma, and then the members behind it. -/
theorem readMembers?_next {behind : List Char} {members : List (List Char × Source)}
    (hvalue : Source.readValue? fuel cs = some (value, ',' :: behind))
    (hbehind : Source.readMembers? fuel behind = some (members, rest)) :
    Source.readMembers? (fuel + 1) (quote key ++ ':' :: cs) =
      some ((key.toList.flatMap escapeChar, value) :: members, rest) := by
  have hkey := readString?_escaped key.toList (':' :: cs)
  rw [quote, List.cons_append, List.cons_append, List.append_assoc, List.singleton_append,
    Source.readMembers?, skipSpace_cons (by rfl)]
  simp only [hkey, skipSpace_cons (show isSpace ':' = false from rfl), hvalue,
    skipSpace_cons (show isSpace ',' = false from rfl), hbehind, Option.map_some]

end Members

/-- Written members are read up to the end of their object. -/
theorem readMembers?_append {key : String} {value : Json} {members : List (String × Json)}
    (hvalue : ReadsBack value) (hmembers : ∀ m ∈ members, ReadsBack m.2) {fuel : ℕ}
    (hfuel : (quote key ++ ':' :: renderChars value ++ renderMembers members).length ≤ fuel) :
    Source.readMembers? fuel
        (quote key ++ ':' :: renderChars value ++ renderMembers members ++ rest) =
      some (memberSources ((key, value) :: members), rest) := by
  induction members generalizing key value fuel with
  | nil =>
      simp only [renderMembers, List.length_append, List.length_cons, List.length_nil] at hfuel
      cases fuel with
      | zero => omega
      | succ fuel =>
          have hread := hvalue fuel ('\x7d' :: rest) (by omega) (endsNumeral_cons rest (by decide))
          simp only [renderMembers, List.append_assoc, List.cons_append, List.nil_append]
          exact readMembers?_last hread
  | cons next members ih =>
      rcases next with ⟨nextKey, nextValue⟩
      rw [List.forall_mem_cons] at hmembers
      simp only [renderMembers, List.length_append, List.length_cons] at hfuel
      cases fuel with
      | zero => omega
      | succ fuel =>
          have hread := hvalue fuel (',' :: (quote nextKey ++ ':' :: renderChars nextValue ++
            renderMembers members ++ rest)) (by omega) (endsNumeral_cons _ (by decide))
          have hbehind : Source.readMembers? fuel
              (quote nextKey ++ ':' :: renderChars nextValue ++ renderMembers members ++ rest) =
              some (memberSources ((nextKey, nextValue) :: members), rest) := by
            refine ih hmembers.1 hmembers.2 ?_
            simp only [List.length_append, List.length_cons]
            omega
          simp only [renderMembers, List.append_assoc, List.cons_append] at hread hbehind ⊢
          exact readMembers?_next hread hbehind

section Words

theorem readWord?_append (word : String) (rest : List Char) :
    readWord? word (word.toList ++ rest) = some rest := by
  rw [readWord?, if_pos (List.isPrefixOf_iff_prefix.mpr (List.prefix_append _ _)),
    ← String.length_toList, List.drop_left]

theorem readValue?_null (fuel : ℕ) (rest : List Char) :
    Source.readValue? (fuel + 1) ("null".toList ++ rest) = some (.null, rest) := by
  have htext : "null".toList ++ rest = 'n' :: ("ull".toList ++ rest) := rfl
  rw [htext, Source.readValue?, skipSpace_cons (by rfl)]
  simp only [readWord?_append, Option.map_some]

theorem readValue?_true (fuel : ℕ) (rest : List Char) :
    Source.readValue? (fuel + 1) ("true".toList ++ rest) = some (.bool true, rest) := by
  have htext : "true".toList ++ rest = 't' :: ("rue".toList ++ rest) := rfl
  rw [htext, Source.readValue?, skipSpace_cons (by rfl)]
  simp only [readWord?_append, Option.map_some]

theorem readValue?_false (fuel : ℕ) (rest : List Char) :
    Source.readValue? (fuel + 1) ("false".toList ++ rest) = some (.bool false, rest) := by
  have htext : "false".toList ++ rest = 'f' :: ("alse".toList ++ rest) := rfl
  rw [htext, Source.readValue?, skipSpace_cons (by rfl)]
  simp only [readWord?_append, Option.map_some]

end Words

/-- A written value is read up to its end, whatever follows it. -/
theorem readsBack (v : Json) : ReadsBack v := by
  induction v using induction with
  | null =>
      rintro (_ | fuel) rest hfuel -
      · exact absurd hfuel (Nat.not_succ_le_zero _)
      · exact readValue?_null fuel rest
  | bool b =>
      rintro (_ | fuel) rest hfuel -
      · cases b <;> exact absurd hfuel (Nat.not_succ_le_zero _)
      · cases b with
        | true => exact readValue?_true fuel rest
        | false => exact readValue?_false fuel rest
  | int n =>
      intro fuel rest hfuel hrest
      rw [renderChars, ← chars_integral] at hfuel ⊢
      exact readValue?_chars (isProper_integral n) hfuel hrest
  | float x =>
      intro fuel rest hfuel hrest
      rw [renderChars_float] at hfuel ⊢
      by_cases hfinite : x.isFinite = true
      · rw [if_pos hfinite] at hfuel ⊢
        rw [source_float hfinite]
        exact readValue?_chars (isProper_floating x) hfuel hrest
      · rw [if_neg hfinite] at hfuel ⊢
        rw [source, if_neg hfinite]
        cases fuel with
        | zero => exact absurd hfuel (Nat.not_succ_le_zero _)
        | succ fuel => exact readValue?_null fuel rest
  | str s =>
      rintro (_ | fuel) rest hfuel -
      · exact absurd hfuel (Nat.not_succ_le_zero _)
      · rw [renderChars, quote, List.cons_append, List.cons_append, List.append_assoc,
          List.singleton_append, Source.readValue?, skipSpace_cons (by rfl)]
        simp only [readString?_escaped, Option.map_some, source]
  | arr items ih =>
      rintro (_ | fuel) rest hfuel -
      · cases items <;> exact absurd hfuel (Nat.not_succ_le_zero _)
      · cases items with
        | nil => rfl
        | cons item items =>
            rw [List.forall_mem_cons] at ih
            rw [renderChars, List.cons_append, List.length_cons] at hfuel
            have hread : Source.readItems? fuel (renderChars item ++ renderItems items ++ rest) =
                some (source item :: sources items, rest) :=
              readItems?_append ih.1 ih.2 (Nat.le_of_succ_le_succ hfuel)
            rcases beginsValue_renderChars item with ⟨c, cs, hchars, hspace, hend, -⟩
            rw [renderChars, List.cons_append, List.cons_append, Source.readValue?,
              skipSpace_cons (by rfl)]
            rw [hchars, List.cons_append, List.cons_append] at hread ⊢
            simp only [skipSpace_cons hspace]
            split
            · next h => exact absurd (List.cons.inj h).1 hend
            · rw [hread]
              rfl
  | obj members ih =>
      rintro (_ | fuel) rest hfuel -
      · rcases members with _ | ⟨⟨key, value⟩, members⟩ <;>
          exact absurd hfuel (Nat.not_succ_le_zero _)
      · rcases members with _ | ⟨⟨key, value⟩, members⟩
        · rfl
        · rw [List.forall_mem_cons] at ih
          have hread : Source.readMembers? fuel
              (quote key ++ ':' :: renderChars value ++ renderMembers members ++ rest) =
              some (memberSources ((key, value) :: members), rest) := by
            refine readMembers?_append ih.1 ih.2 ?_
            simp only [renderChars, List.length_append, List.length_cons] at hfuel ⊢
            omega
          rw [renderChars, List.cons_append, List.cons_append, List.cons_append, Source.readValue?,
            skipSpace_cons (by rfl)]
          simp only [quote, List.cons_append] at hread ⊢
          simp only [skipSpace_cons (show isSpace '"' = false from rfl)]
          split
          · next h => exact absurd (List.cons.inj h).1 (by decide)
          · rw [hread]
            rfl

end Reading

/-- The tree of a written value, whatever the value is. -/
theorem read?_render (v : Json) : Source.read? (render v) = some (source v) := by
  have hread := readsBack v _ [] (Nat.le_succ (renderChars v).length) endsNumeral_nil
  rw [List.append_nil] at hread
  rw [Source.read?, render, String.toList_ofList, Source.readLeading?, hread]
  rfl

/-- What a text can mean, with arrays and objects that nest at most `depth` deep. -/
inductive IsValue : ℕ → Json → Prop where
  | null (depth : ℕ) : IsValue depth .null
  | bool (depth : ℕ) (b : Bool) : IsValue depth (.bool b)
  | int (depth : ℕ) {n : ℤ} (hlow : -(UInt64.size / 2 : ℕ) ≤ n) (hhigh : n < UInt64.size) :
      IsValue depth (.int n)
  | float (depth : ℕ) {x : Float} (hfinite : x.isFinite = true)
      (hexact : (floating x).value? = some (.float x)) : IsValue depth (.float x)
  | str (depth : ℕ) (s : String) : IsValue depth (.str s)
  | arr {depth : ℕ} {items : List Json} (hitems : ∀ item ∈ items, IsValue depth item) :
      IsValue (depth + 1) (.arr items)
  | obj {depth : ℕ} {members : List (String × Json)}
      (hascending : (members.map Prod.fst).Pairwise (· < ·))
      (hmembers : ∀ m ∈ members, IsValue depth m.2) : IsValue (depth + 1) (.obj members)

/-- A value that may be somewhere may be less deep as well. -/
theorem IsValue.succ {depth : ℕ} {v : Json} (h : IsValue depth v) : IsValue (depth + 1) v := by
  induction h with
  | null depth => exact .null _
  | bool depth b => exact .bool _ b
  | int depth hlow hhigh => exact .int _ hlow hhigh
  | float depth hfinite hexact => exact .float _ hfinite hexact
  | str depth s => exact .str _ s
  | arr hitems ih => exact .arr ih
  | obj hascending hmembers ih => exact .obj hascending ih

theorem IsValue.item {depth : ℕ} {items : List Json} (h : IsValue depth (.arr items)) {item : Json}
    (hmem : item ∈ items) : IsValue depth item := by
  cases h with
  | arr hitems => exact (hitems item hmem).succ

/-- An object with a single text in it. -/
theorem IsValue.entry (depth : ℕ) (key s : String) : IsValue (depth + 1) (.obj [(key, .str s)]) :=
  .obj (List.pairwise_singleton _ _) fun _ hm => List.mem_singleton.mp hm ▸ .str depth s

section Meaning

/-- A member behind all others is put at the end. -/
theorem placeMember_of_lt {key : String} {value : Json} {members : List (String × Json)}
    (h : ∀ m ∈ members, m.1 < key) : placeMember key value members = members ++ [(key, value)] := by
  induction members with
  | nil => rfl
  | cons m members ih =>
      rw [List.forall_mem_cons] at h
      have hne : key ≠ m.1 := fun heq => String.lt_irrefl _ (heq ▸ h.1)
      rw [placeMember, if_neg (String.lt_asymm h.1), if_neg hne, ih h.2, List.cons_append]

/-- Members that are in order are kept as they are. -/
theorem ofMembers_of_ascending {members : List (String × Json)}
    (h : (members.map Prod.fst).Pairwise (· < ·)) : ofMembers members = .obj members := by
  have hfold : members.foldl (fun acc m => placeMember m.1 m.2 acc) [] = members := by
    induction members using List.reverseRecOn with
    | nil => rfl
    | append_singleton members m ih =>
        rw [List.map_append, List.pairwise_append] at h
        rw [List.foldl_append, ih h.1, List.foldl_cons, List.foldl_nil]
        refine placeMember_of_lt fun m' hm' => ?_
        exact h.2.2 m'.1 (List.mem_map_of_mem hm') m.1 List.mem_cons_self
  rw [ofMembers, hfold]

theorem values?_sources {depth : ℕ} {items : List Json}
    (h : ∀ item ∈ items, Source.value? depth (source item) = some item) :
    Source.values? depth (sources items) = some items := by
  induction items with
  | nil => rfl
  | cons item items ih =>
      rw [List.forall_mem_cons] at h
      simp only [sources, Source.values?, h.1, ih h.2]

theorem memberValues?_memberSources {depth : ℕ} {members : List (String × Json)}
    (h : ∀ m ∈ members, Source.value? depth (source m.2) = some m.2) :
    Source.memberValues? depth (memberSources members) = some members := by
  induction members with
  | nil => rfl
  | cons m members ih =>
      rw [List.forall_mem_cons] at h
      simp only [memberSources, Source.memberValues?, text?_escaped, h.1, ih h.2]

/-- The tree of a written value means the value, if a text can mean it. -/
theorem value?_source {depth : ℕ} {v : Json} (h : IsValue depth v) :
    Source.value? depth (source v) = some v := by
  induction h with
  | null depth => rfl
  | bool depth b => rfl
  | int depth hlow hhigh => exact value?_integral hlow hhigh
  | float depth hfinite hexact =>
      rw [source_float hfinite]
      exact hexact
  | str depth s => rw [source, Source.value?, text?_escaped, Option.map_some]
  | arr hitems ih => rw [source, Source.value?, values?_sources ih, Option.map_some]
  | obj hascending hmembers ih =>
      rw [source, Source.value?, memberValues?_memberSources ih, Option.map_some,
        ofMembers_of_ascending hascending]

/-- A written value is read back. -/
theorem parse?_render {v : Json} (h : IsValue maxDepth v) : parse? (render v) = some v := by
  rw [parse?, read?_render, Option.bind_some, value?_source h]

end Meaning

end Json

end Replatform
