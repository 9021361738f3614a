import Replatform.Proofs.Answer.Encoded
import Replatform.Proofs.Json.Records
import Replatform.Proofs.Json.Span
import Replatform.Wire.Event

/-!
# What Is Told and Read Again

The nodes, reports and events that are written as JSON are read as what they were. This does not depend
on the order in which the members are written, nor on how a text is escaped or how a numeral looks,
since `ReadsAs` takes all that together: what is left to show of a type is that each of its fields is
found under the name that it was written with, and read as it was written.

Two things are not left to the fields. Children are two levels below their node, so that a tree is read
as long as it does not nest too deep, by induction on how deep it may nest. An event names its kind in
one of its members, which is taken out of the others wherever it stands, and before that all of them
have to mean something.

Counts have to fit the words that they are read as, and moments the form that they are written in: a
year has four digits, and a leap second is not told from the one before it.

## Main definitions

* `Timestamp.IsPlain`: A moment that is read as it was written.
* `Progress.Fits`, `Verdict.Fits`, `Report.Fits`, `Event.Fits`: Counts and times fit.
* `RoundTrips`: What is written is read again, with members in any order.

## Theorems

* `FileNode.readsAs`: Nodes are read.
* `Timestamp.read?_text`: Moments are read.
* `Report.readsAs`: Reports are read.
* `Event.split?_arranged`: The kind of an event is found wherever it stands.
* `Event.readsAs`: Events are read.
* `wire_roundTrips`: Nodes, trees, reports and events are read from what is written of them.
-/

namespace Replatform

open Json (Arranges Decoder Fields ReadsAs)

/-- What comes after a part that can be read. -/
theorem bind_of_some {α β : Type} {o : Option α} {a : α} {next : α → Option β} (h : o = some a) :
    (o >>= next) = next a := by
  rw [h]
  rfl

section Names

theorem NodeKind.readsAs (depth : ℕ) (k : NodeKind) : ReadsAs decoder depth (.str k.label) k :=
  Json.readsAs_choiceWith _ (by cases k <;> rfl)

theorem FileStatus.readsAs (isVoid : Json.Source → Bool) (depth : ℕ) (s : FileStatus) :
    ReadsAs (.choiceWith isVoid alternatives) depth s.toJson s :=
  Json.readsAs_choiceWith _ (by cases s <;> rfl)

theorem Severity.readsAs (isVoid : Json.Source → Bool) (depth : ℕ) (s : Severity) :
    ReadsAs (.choiceWith isVoid alternatives) depth s.toJson s :=
  Json.readsAs_choiceWith _ (by cases s <;> rfl)

theorem Phase.readsAs (isVoid : Json.Source → Bool) (depth : ℕ) (p : Phase) :
    ReadsAs (.choiceWith isVoid alternatives) depth p.toJson p :=
  Json.readsAs_choiceWith _ (by cases p <;> rfl)

theorem Complexity.readsAs (depth : ℕ) (c : Complexity) : ReadsAs decoder depth c.toJson c :=
  Json.readsAs_choiceWith _ (by cases c <;> rfl)

end Names

namespace FileNode

theorem nodup_jsonMembers (node : FileNode) : (node.jsonMembers.map Prod.fst).Nodup := by
  rw [jsonMembers_eq]
  rcases node with ⟨path, name, kind, status, _ | content, _ | children⟩ <;>
    simp [membersWith, textMembers]

/-- The names that a node is read by. -/
def fieldNames : List Json.FieldName :=
  ["path", "name", "type", "status", "content", "children"]

section Fields

variable {f : Fields} {depth : ℕ} {node : FileNode}
  (h : f.Holds fieldNames depth (node.membersWith toJson))

include h

theorem content_read :
    f.withDefault? "content" (Decoder.nullable .string) none = some node.content := by
  rcases node with ⟨path, name, kind, status, _ | content, children⟩
  · refine h.withDefault?_missing none ?_
    cases children <;> simp [membersWith, textMembers]
  · refine h.withDefault? none (v := .str content) (by simp [membersWith, textMembers]) rfl ?_
    exact Json.readsAs_nullable (Json.readsAs_string depth content) (by rintro doc ⟨⟩ ⟨⟩)

/-- A node without children has no member for them. -/
theorem children_missing (hnone : node.children = none) : List.lookup "children" f.found = none := by
  refine h.missing _ ?_
  rcases node with ⟨path, name, kind, status, _ | content, children⟩ <;>
    simp_all [membersWith, textMembers]

theorem children_found {nodes : List FileNode} (hsome : node.children = some nodes) :
    ∃ docs, List.Forall₂ Arranges docs (nodes.map toJson) ∧
      List.lookup "children" f.found = some (.array (Json.sources docs)) := by
  rcases h.found ("children", .arr (nodes.map toJson)) (by simp [membersWith, hsome]) rfl with
    ⟨doc, hdoc, hlookup⟩
  cases hdoc with
  | arr hdocs => exact ⟨_, hdocs, hlookup.trans (by rw [Json.source])⟩

end Fields

/-- A node is read from any arrangement of its members that does not nest too deep. -/
theorem readsAs {depth : ℕ} {node : FileNode} (h : node.toJson.height ≤ depth) :
    ReadsAs decoder depth node.toJson node := by
  -- Not on the node: the decoder counts the depth down, two for every level of children.
  induction depth using Nat.strong_induction_on generalizing node with
  | _ depth ih =>
      cases depth with
      | zero => exact absurd h (Nat.not_succ_le_zero _)
      | succ depth =>
          intro doc hdoc
          rcases Fields.of?_arranged fieldNames depth rfl node.nodup_jsonMembers
            hdoc with ⟨f, hf, hholds⟩
          rw [toJson, Json.height_ofMembers_le_iff node.nodup_jsonMembers] at h
          rw [jsonMembers_eq] at hholds h
          have hpath : f.required? "path" .string = some node.path :=
            hholds.required? (by simp [membersWith, textMembers]) rfl (Json.readsAs_string depth _)
          have hname : f.required? "name" .string = some node.name :=
            hholds.required? (by simp [membersWith, textMembers]) rfl (Json.readsAs_string depth _)
          have hkind : f.required? "type" NodeKind.decoder = some node.kind :=
            hholds.required? (by simp [membersWith, textMembers]) rfl (node.kind.readsAs depth)
          have hstatus : f.withDefault? "status" FileStatus.decoder .pending = some node.status :=
            hholds.withDefault? _ (by simp [membersWith, textMembers]) rfl (node.status.readsAs _ depth)
          rw [fieldNames] at hf
          rw [decoder, hf]
          simp only [Option.bind_eq_bind, Option.bind_some, hpath, hname, hkind, hstatus,
            content_read hholds]
          cases hnodes : node.children with
          | none =>
              simp only [children_missing hholds hnodes]
              rw [← hnodes]
              cases node with
              | mk => rfl
          | some nodes =>
              rcases children_found hholds hnodes with ⟨docs, hdocs, hlookup⟩
              have harr := h ("children", .arr (nodes.map toJson)) (by simp [membersWith, hnodes])
              -- The list of children is one level below the node, and the children are two.
              cases depth with
              | zero => exact absurd harr (Nat.not_succ_le_zero _)
              | succ d =>
                  rw [Json.height_arr_le_iff] at harr
                  have hread := Json.mapM_sources hdocs fun child hchild =>
                    ih d (by omega) (harr _ (List.mem_map_of_mem hchild))
                  simp only [hlookup, hread, Option.map_some, Option.bind_some]
                  rw [← hnodes]
                  cases node with
                  | mk => rfl

end FileNode

namespace Timestamp

/-- A moment that can be told with four digits for the year and is in no leap second. -/
structure IsPlain (t : Timestamp) : Prop where
  date : t.date.IsValid
  year : 0 ≤ t.date.year ∧ t.date.year ≤ 9999
  hour : t.hour < 24
  minute : t.minute < 60
  second : t.second < 60
  nanos : t.nanos < 1000000000

section Pieces

variable {width n : ℕ}

theorem isDigit_of_mem_padded {c : Char} (h : c ∈ padded width n) : c.isDigit = true := by
  rcases List.mem_append.mp h with h | h
  · rw [List.eq_of_mem_replicate h]
    rfl
  · exact (Json.areDigits_toDigits n).2 c h

theorem length_padded (hpos : 0 < width) (h : n < 10 ^ width) : (padded width n).length = width := by
  have hlen := (Nat.length_toDigits_le_iff (by decide) hpos).mpr h
  rw [padded, List.length_append, List.length_replicate, Nat.sub_add_cancel hlen]

/-- Zeros in front of a number make no difference to it. -/
theorem digitsValue_padded (width n : ℕ) : Json.digitsValue (padded width n) = n := by
  have hzeros : ∀ k, List.foldl (fun n d => 10 * n + (d.toNat - '0'.toNat)) 0
      (List.replicate k '0') = 0 := by
    intro k
    induction k with
    | zero => rfl
    | succ k ih => exact ih
  rw [Json.digitsValue, padded, List.foldl_append, hzeros]
  exact Json.digitsValue_toDigits n

theorem isBlank_of_isDigit {c : Char} (h : c.isDigit = true) : Text.isBlank c = false := by
  simp only [Char.isDigit, Bool.and_eq_true, decide_eq_true_eq, ge_iff_le,
    UInt32.le_iff_toNat_le, Char.reduceVal, UInt32.reduceToNat] at h
  have htoNat : c.val.toNat = c.toNat := rfl
  rw [Text.isBlank, Bool.eq_false_iff]
  simp only [Bool.or_eq_true, Bool.and_eq_true, decide_eq_true_eq, beq_iff_eq, ne_eq]
  omega

theorem dropBlanks_padded (hpos : 0 < width) (h : n < 10 ^ width) (rest : List Char) :
    Text.dropBlanks (padded width n ++ rest) = padded width n ++ rest := by
  rcases hpadded : padded width n with _ | ⟨c, cs⟩
  · rw [← length_padded hpos h, hpadded] at hpos
    exact absurd hpos (Nat.lt_irrefl 0)
  · have hc : c.isDigit = true := isDigit_of_mem_padded (hpadded ▸ List.mem_cons_self)
    exact List.dropWhile_cons_of_neg (by rw [isBlank_of_isDigit hc]; exact Bool.false_ne_true)

/-- A number is read as far as it was padded. -/
theorem readNumber?_padded (hpos : 0 < width) (h : n < 10 ^ width) (rest : List Char) :
    readNumber? width (padded width n ++ rest) = some (n, rest) := by
  have hlen := length_padded hpos h
  have htake : ((padded width n ++ rest).take width).takeWhile Char.isDigit = padded width n := by
    rw [List.take_left' hlen]
    exact List.takeWhile_eq_self_iff.mpr fun c => isDigit_of_mem_padded
  have hne : padded width n ≠ [] := fun hnil => by
    rw [hnil, List.length_nil] at hlen
    exact Nat.lt_irrefl 0 (hlen ▸ hpos)
  rw [readNumber?, dropBlanks_padded hpos h]
  simp only [htake, if_neg hne, List.drop_left]
  exact congrArg (fun n => some (n, rest)) (digitsValue_padded width n)

theorem readYear?_padded {year : ℕ} (h : year < 10 ^ 4) (rest : List Char) :
    readYear? (padded 4 year ++ rest) = some ((year : ℤ), rest) := by
  have hread := readNumber?_padded (by decide) h rest
  rw [readYear?, dropBlanks_padded (by decide) h]
  -- The year starts with a digit, so it is not taken for one with a sign.
  rcases hpadded : padded 4 year with _ | ⟨c, cs⟩
  · have hlen := length_padded (by decide) h
    rw [hpadded] at hlen
    exact absurd hlen (by decide)
  · have hc : c.isDigit = true := isDigit_of_mem_padded (hpadded ▸ List.mem_cons_self)
    rw [hpadded] at hread
    rw [List.cons_append] at hread ⊢
    split
    · next heq => exact absurd ((List.cons.inj heq).1 ▸ hc) (by decide)
    · next heq => exact absurd ((List.cons.inj heq).1 ▸ hc) (by decide)
    · rw [hread, Option.map_some]

theorem readMark?_cons {mark : Char} (h : Text.isBlank mark = false) (rest : List Char) :
    readMark? mark (mark :: rest) = some rest := by
  rw [readMark?, Text.dropBlanks,
    List.dropWhile_cons_of_neg (by rw [h]; exact Bool.false_ne_true)]
  exact if_pos rfl

theorem readFraction?_point (hpos : 0 < width) (h : n < 10 ^ width) (hwidth : width ≤ 9)
    {rest : List Char} (hrest : ∀ c ∈ rest.head?, c.isDigit = false) :
    readFraction? ('.' :: (padded width n ++ rest)) = some (n * 10 ^ (9 - width), rest) := by
  have hlen := length_padded hpos h
  have hdigits : ∀ c ∈ padded width n, c.isDigit = true := fun _ => isDigit_of_mem_padded
  have htake := (Json.takeWhile_digits hdigits hrest).1
  have hne : padded width n ≠ [] := fun hnil => by
    rw [hnil, List.length_nil] at hlen
    exact Nat.lt_irrefl 0 (hlen ▸ hpos)
  have hkept : (padded width n).take 9 = padded width n := List.take_of_length_le (hlen.le.trans hwidth)
  rw [readFraction?]
  simp only [htake, if_neg hne, hkept, hlen, List.drop_left' hlen]
  exact congrArg (fun n => some (n * 10 ^ (9 - width), rest)) (digitsValue_padded width n)

/-- Of a fraction only groups of zeros are left out. -/
theorem readFraction?_fractionChars {nanos : ℕ} (h : nanos < 1000000000) {rest : List Char}
    (hpoint : rest.head? ≠ some '.') (hrest : ∀ c ∈ rest.head?, c.isDigit = false) :
    readFraction? (fractionChars nanos ++ rest) = some (nanos, rest) := by
  rw [fractionChars]
  split_ifs with hzero hmillis hmicros
  · rw [List.nil_append, hzero, readFraction?]
    rintro tail rfl
    exact hpoint rfl
  · rw [List.cons_append, readFraction?_point (by decide) (by omega) (by decide) hrest]
    exact congrArg (fun n => some (n, rest)) (by omega)
  · rw [List.cons_append, readFraction?_point (by decide) (by omega) (by decide) hrest]
    exact congrArg (fun n => some (n, rest)) (by omega)
  · rw [List.cons_append, readFraction?_point (by decide) (by omega) (by decide) hrest]
    exact congrArg (fun n => some (n, rest)) (by omega)

end Pieces

theorem toUniversal_zero {t : Timestamp} (h : t.hour < 24 ∧ t.minute < 60) : t.toUniversal 0 = t := by
  rcases t with ⟨date, hour, minute, second, nanos⟩
  obtain ⟨hhour, hminute⟩ : hour < 24 ∧ minute < 60 := h
  have hminutes : ((hour * 60 + minute : ℕ) : ℤ) - 0 = ((hour * 60 + minute : ℕ) : ℤ) := sub_zero _
  have hday : (((hour * 60 + minute : ℕ) : ℤ) % 1440).toNat = hour * 60 + minute := by omega
  simp only [toUniversal, hminutes, hday]
  rw [if_neg (by omega), if_neg (by omega)]
  congr 1 <;> omega

/-- A moment is read from the text that it is told as. -/
theorem read?_text {t : Timestamp} (h : t.IsPlain) : read? t.text = some t := by
  rcases t with ⟨⟨year, month, day⟩, hour, minute, second, nanos⟩
  rcases Int.eq_ofNat_of_zero_le h.year.1 with ⟨y, rfl⟩
  have hy : y < 10 ^ 4 := by have := h.year.2; simp only at this; omega
  have hmonth : month < 10 ^ 2 := by have := h.date.2.2.2.1; simp only at this; omega
  have hday : day < 10 ^ 2 := by
    have hlast : Date.daysInMonth y month ≤ 31 := by
      rw [Date.daysInMonth]
      split_ifs <;> decide
    have := h.date.2.2.2.2.2
    simp only at this
    omega
  have hlocal : readLocal? (chars ['Z'] ⟨⟨y, month, day⟩, hour, minute, second, nanos⟩) =
      some (⟨⟨y, month, day⟩, hour, minute, second, nanos⟩, 0, []) := by
    have hyear : yearChars y = padded 4 y := if_pos h.year
    have hhour : hour < 10 ^ 2 := lt_trans h.hour (by decide)
    have hminute : minute < 10 ^ 2 := lt_trans h.minute (by decide)
    have hsecond : second < 10 ^ 2 := lt_trans h.second (by decide)
    have hpoint : (['Z'] : List Char).head? ≠ some '.' := fun h => absurd (Option.some.inj h) (by decide)
    have hdigit : ∀ c ∈ (['Z'] : List Char).head?, c.isDigit = false :=
      fun _ hc => Option.some.inj hc ▸ rfl
    rw [chars, hyear]
    simp only [List.append_assoc, List.cons_append]
    -- Each piece is read off the front of the text, and what follows is left for the next.
    refine (bind_of_some (readYear?_padded hy _)).trans ?_
    refine (bind_of_some (readMark?_cons rfl _)).trans ?_
    refine (bind_of_some (readNumber?_padded (by decide) hmonth _)).trans ?_
    refine (bind_of_some (readMark?_cons rfl _)).trans ?_
    refine (bind_of_some (readNumber?_padded (by decide) hday _)).trans ?_
    refine (bind_of_some (readNumber?_padded (by decide) hhour _)).trans ?_
    refine (bind_of_some (readMark?_cons rfl _)).trans ?_
    refine (bind_of_some (readNumber?_padded (by decide) hminute _)).trans ?_
    refine (bind_of_some (readMark?_cons rfl _)).trans ?_
    refine (bind_of_some (readNumber?_padded (by decide) hsecond _)).trans ?_
    refine (bind_of_some (readFraction?_fractionChars h.nanos hpoint hdigit)).trans ?_
    rfl
  rw [read?, text, String.toList_ofList, hlocal]
  simp only [toUniversal_zero ⟨h.hour, h.minute⟩]
  exact if_pos ⟨rfl, h.date, h.hour, h.minute, h.second.le, by decide, h.date⟩

end Timestamp

namespace Timestamp

theorem readsAs (depth : ℕ) {t : Timestamp} (h : t.IsPlain) : ReadsAs decoder depth t.toJson t := by
  intro doc hdoc
  rw [decoder, Json.readsAs_string depth t.text doc hdoc, Option.bind_some, read?_text h]

end Timestamp

section Records

variable {f : Fields} {depth : ℕ}

/-- The counts of a counter fit what they are read as. -/
def Progress.Fits (p : Progress) : Prop :=
  p.current < UInt64.size ∧ p.total < UInt64.size

theorem Progress.ofFields?_eq {p : Progress} (h : p.Fits)
    (hf : f.Holds ["current", "total", "currentFile"] depth p.jsonMembers) : ofFields? f = some p := by
  refine (bind_of_some (hf.required? (v := .ofNat p.current) (by simp [jsonMembers]) rfl
    (Json.readsAs_nat depth le_rfl h.1))).trans ?_
  refine (bind_of_some (hf.required? (v := .ofNat p.total) (by simp [jsonMembers]) rfl
    (Json.readsAs_nat depth le_rfl h.2))).trans ?_
  exact bind_of_some (hf.required? (by simp [jsonMembers]) rfl (Json.readsAs_string depth p.currentFile))

theorem Progress.readsAs {p : Progress} (h : p.Fits) : ReadsAs decoder (depth + 1) p.toJson p :=
  Fields.readsAs_record rfl (by simp [jsonMembers]) fun _ => ofFields?_eq h

/-- The counts of a verdict fit what they are read as. -/
def Verdict.Fits (v : Verdict) : Prop :=
  v.fixesApplied < UInt64.size ∧ v.passes < UInt64.size

theorem readsAs_texts (depth : ℕ) (l : List String) :
    ReadsAs (.list .string) (depth + 1) (.ofTexts l) l :=
  Json.readsAs_list fun s _ => Json.readsAs_string depth s

theorem Verdict.ofFields?_eq {v : Verdict} (h : v.Fits)
    (hf : f.Holds ["passed", "issues", "unresolved", "fixedFilesApplied", "passes"] (depth + 1)
      v.jsonMembers) : ofFields? f = some v := by
  refine (bind_of_some (hf.required? (by simp [jsonMembers]) rfl (Json.readsAs_bool _ v.passed))).trans ?_
  refine (bind_of_some (hf.required? (by simp [jsonMembers]) rfl (readsAs_texts depth v.issues))).trans ?_
  refine (bind_of_some (hf.required? (by simp [jsonMembers]) rfl
    (readsAs_texts depth v.unresolved))).trans ?_
  refine (bind_of_some (hf.required? (v := .ofNat v.fixesApplied) (by simp [jsonMembers]) rfl
    (Json.readsAs_nat _ le_rfl h.1))).trans ?_
  exact bind_of_some (hf.required? (v := .ofNat v.passes) (by simp [jsonMembers]) rfl
    (Json.readsAs_nat _ le_rfl h.2))

theorem Verdict.readsAs {v : Verdict} (h : v.Fits) : ReadsAs decoder (depth + 2) v.toJson v :=
  Fields.readsAs_record rfl (by simp [jsonMembers]) fun _ => ofFields?_eq h

/-- What a span is written as has no members but its fields. -/
theorem Duration.isPlain_source {doc : Json} {d : Duration} (h : Arranges doc d.toJson) :
    isPlain (Json.source doc) = true := by
  rcases h.of_ofMembers (by simp) with ⟨docs, placed, rfl, heach, hperm⟩
  have hkeys := heach.keys_eq ▸ hperm.map Prod.fst
  rw [Json.source, isPlain, Json.memberSources_eq_map, List.all_map, List.all_eq_true]
  intro d hd
  have hkey : d.1 ∈ ["secs", "nanos"] := hkeys.mem_iff.mp (List.mem_map_of_mem hd)
  rw [List.mem_pair] at hkey
  simp only [Function.comp_apply, Json.text?_escaped]
  rcases hkey with hkey | hkey <;> rw [hkey] <;> rfl

theorem Duration.readsAs {d : Duration} (h : d.Fits) : ReadsAs decoder (depth + 1) d.toJson d := by
  intro doc hdoc
  have hnodup : (([("secs", .ofNat d.secs), ("nanos", .ofNat d.nanos)] : List (String × Json)).map
      Prod.fst).Nodup := by simp
  rcases Fields.of?_arranged ["secs", "nanos"] depth rfl hnodup hdoc with
    ⟨f, hf, hholds⟩
  have hnanos : d.nanos < 1000000000 := Nat.mod_lt _ (by decide)
  have hparts : ofParts d.secs d.nanos = d := by
    rw [ofParts, secs, nanos, Nat.mul_comm, Nat.div_add_mod]
  refine (bind_of_some hf).trans ?_
  refine (bind_of_some (hholds.required? (v := .ofNat d.secs) (by simp) rfl
    (Json.readsAs_nat depth le_rfl h))).trans ?_
  refine (bind_of_some (hholds.required? (v := .ofNat d.nanos) (by simp) rfl
    (Json.readsAs_nat depth (by decide) (hnanos.trans (by decide))))).trans ?_
  rw [hparts]
  -- Unlike other records, a span with members that are no fields would be refused.
  exact if_pos ⟨isPlain_source hdoc, h⟩

theorem PhaseTiming.readsAs {t : PhaseTiming} (h : t.elapsed.Fits) :
    ReadsAs decoder (depth + 2) t.toJson t := by
  refine Fields.readsAs_record rfl (by simp) fun f hf => ?_
  refine (bind_of_some (hf.required? (by simp) rfl (t.phase.readsAs _ _))).trans ?_
  exact bind_of_some (hf.required? (by simp) rfl (Duration.readsAs h))

/-- The counts and times of a report fit what they are read as. -/
structure Report.Fits (r : Report) : Prop where
  totalFiles : r.totalFiles < UInt64.size
  generated : r.generated < UInt64.size
  timings : ∀ t ∈ r.timings, t.elapsed.Fits
  verification : ∀ v ∈ r.verification, v.Fits

theorem readsAs_text? (depth : ℕ) (s : Option String) :
    ReadsAs (Decoder.nullable .string) depth (.ofText? s) s := by
  cases s with
  | none => exact Json.readsAs_nullable_null _ depth
  | some s => exact Json.readsAs_nullable (Json.readsAs_string depth s) (by rintro doc ⟨⟩ ⟨⟩)

theorem Verdict.readsAs_nullable {v : Option Verdict} (h : ∀ v' ∈ v, v'.Fits) :
    ReadsAs decoder.nullable (depth + 2) ((v.map toJson).getD .null) v := by
  cases v with
  | none => exact Json.readsAs_nullable_null _ _
  | some v => exact Json.readsAs_nullable (readsAs (h v rfl)) (by rintro doc ⟨⟩ ⟨⟩)

theorem Report.readsAs {r : Report} (h : r.Fits) : ReadsAs decoder (depth + 4) r.toJson r := by
  refine Fields.readsAs_record rfl (by simp) fun f hf => ?_
  refine (bind_of_some (hf.nullable? (by simp) rfl (readsAs_text? _ r.runId))).trans ?_
  refine (bind_of_some (hf.required? (by simp) rfl (Json.readsAs_string _ r.repoUrl))).trans ?_
  refine (bind_of_some (hf.required? (by simp) rfl (Json.readsAs_string _ r.sourceFramework))).trans ?_
  refine (bind_of_some (hf.required? (by simp) rfl (Json.readsAs_string _ r.recommendedTarget))).trans ?_
  refine (bind_of_some (hf.required? (by simp) rfl (r.complexity.readsAs _))).trans ?_
  refine (bind_of_some (hf.required? (v := .ofNat r.totalFiles) (by simp) rfl
    (Json.readsAs_nat _ le_rfl h.totalFiles))).trans ?_
  refine (bind_of_some (hf.required? (v := .ofNat r.generated) (by simp) rfl
    (Json.readsAs_nat _ le_rfl h.generated))).trans ?_
  refine (bind_of_some (hf.required? (by simp) rfl (readsAs_texts _ r.failed))).trans ?_
  refine (bind_of_some (hf.required? (by simp) rfl
    (Json.readsAs_list fun t ht => PhaseTiming.readsAs (h.timings t ht)))).trans ?_
  exact bind_of_some (hf.nullable? (by simp) rfl (Verdict.readsAs_nullable h.verification))

theorem LogEntry.readsAs_late {e : LogEntry} (h : e.timestamp.IsPlain) :
    ReadsAs lateDecoder (depth + 1) (Json.ofMembers e.jsonMembers) e := by
  refine Fields.readsAs_record rfl (by simp [jsonMembers]) fun f hf => ?_
  refine (bind_of_some (hf.required? (by simp [jsonMembers]) rfl (Timestamp.readsAs _ h))).trans ?_
  refine (bind_of_some (hf.required? (by simp [jsonMembers]) rfl (Json.readsAs_string _ e.message))).trans ?_
  refine (bind_of_some (hf.required? (by simp [jsonMembers]) rfl (e.severity.readsAs _ _))).trans ?_
  exact bind_of_some (hf.required? (by simp [jsonMembers]) rfl (e.phase.readsAs _ _))

end Records

namespace Event

section Split

variable {kind : String} {members : List (String × Json)} {doc : Json}

theorem mapM_keys (docs : List (String × Json)) :
    ((Json.memberSources docs).mapM fun m => Json.text? m.1) = some (docs.map Prod.fst) := by
  induction docs with
  | nil => rfl
  | cons d docs ih =>
      rw [Json.memberSources, List.mapM_cons, Json.text?_escaped, ih]
      rfl

/-- The members of an event are parted by whether they name its kind. -/
theorem split?_source {docs : List (String × Json)}
    (h : docs.filter (fun d => d.1 == "type") = [("type", .str kind)]) :
    split? (Json.source (.obj docs)) =
      some (kind, Json.source (.obj (docs.filter fun d => d.1 != "type"))) := by
  rw [Json.source]
  refine (bind_of_some (mapM_keys docs)).trans ?_
  simp only [Json.memberSources_eq_map, List.zip_map', List.filter_map, Function.comp_def, h,
    List.map_map, List.map_cons, List.map_nil, Json.source, Json.text?_escaped]
  rfl

/-- The kind of an event is found wherever it stands, and what is left is the rest of the event. -/
theorem split?_arranged (hnodup : ("type" :: members.map Prod.fst).Nodup)
    (hdoc : Arranges doc (toJson.tagged kind members)) :
    ∃ rest, split? (Json.source doc) = some (kind, Json.source rest) ∧
      Arranges rest (Json.ofMembers members) := by
  rcases hdoc.of_ofMembers hnodup with ⟨docs, placed, rfl, heach, hperm⟩
  rcases List.append_of_mem (hperm.mem_iff.mpr List.mem_cons_self) with ⟨before, after, rfl⟩
  rcases heach.split with ⟨before', tag, after', rfl, htag, hrest⟩
  have hothers := (List.perm_middle.symm.trans hperm).cons_inv
  cases htag
  -- No other member has the name of the tag.
  have hkeys : ∀ d, d ∈ before' ∨ d ∈ after' → d.1 ≠ "type" := by
    intro d hd heq
    have hkey := (hrest.keys_eq ▸ hothers.map Prod.fst).mem_iff.mp
      (List.mem_map_of_mem (List.mem_append.mpr hd))
    exact (List.nodup_cons.mp hnodup).1 (heq ▸ hkey)
  have htagged : (before' ++ ("type", Json.str kind) :: after').filter (fun d => d.1 == "type") =
      [("type", .str kind)] := by
    rw [List.filter_append, List.filter_cons_of_pos (by exact beq_self_eq_true _),
      List.filter_eq_nil_iff.mpr fun d hd => fun h => hkeys d (.inl hd) (beq_iff_eq.mp h),
      List.filter_eq_nil_iff.mpr fun d hd => fun h => hkeys d (.inr hd) (beq_iff_eq.mp h),
      List.nil_append]
  have huntagged : (before' ++ ("type", Json.str kind) :: after').filter (fun d => d.1 != "type") =
      before' ++ after' := by
    rw [List.filter_append, List.filter_cons_of_neg (by exact Bool.false_ne_true),
      List.filter_eq_self.mpr fun d hd => bne_iff_ne.mpr (hkeys d (.inl hd)),
      List.filter_eq_self.mpr fun d hd => bne_iff_ne.mpr (hkeys d (.inr hd))]
  have hsplit := split?_source htagged
  rw [huntagged] at hsplit
  exact ⟨_, hsplit, Json.arranges_ofMembers hrest hothers (List.nodup_cons.mp hnodup).2⟩

end Split

/-- The parts of an event are what they are read as. -/
def Fits : Event → Prop
  | .log e => e.timestamp.IsPlain
  | .progress p => p.Fits
  | .fixApplied _ pass => pass < UInt64.size
  | .verification v => v.Fits
  | .fileStatus _ _ | .fileContent _ _ _ => True

section Values

variable {depth : ℕ}

theorem isValue_ofNat {n : ℕ} (h : n < UInt64.size) : Json.IsValue depth (.ofNat n) :=
  .int depth (by omega) (by omega)

theorem isValue_texts (l : List String) : Json.IsValue (depth + 1) (.ofTexts l) := by
  refine .arr fun item hitem => ?_
  rcases List.mem_map.mp hitem with ⟨s, -, rfl⟩
  exact .str depth s

/-- Every part of an event means something. -/
theorem isValue_toJson {e : Event} (h : e.Fits) : Json.IsValue (depth + 2) e.toJson := by
  have htagged : ∀ kind members, (∀ m ∈ members, Json.IsValue (depth + 1) m.2) →
      Json.IsValue (depth + 2) (toJson.tagged kind members) := fun kind members hmembers =>
    Json.isValue_ofMembers (List.forall_mem_cons.mpr ⟨.str _ kind, hmembers⟩)
  cases e with
  | log e =>
      refine htagged _ _ ?_
      simp only [LogEntry.jsonMembers, List.forall_mem_cons]
      exact ⟨.str _ _, .str _ _, .str _ _, .str _ _, nofun⟩
  | fileStatus path status =>
      refine htagged _ _ ?_
      simp only [List.forall_mem_cons]
      exact ⟨.str _ _, .str _ _, nofun⟩
  | fileContent path content isPartial =>
      refine htagged _ _ ?_
      simp only [List.forall_mem_cons]
      exact ⟨.str _ _, .str _ _, .bool _ _, nofun⟩
  | progress p =>
      refine htagged _ _ ?_
      simp only [Progress.jsonMembers, List.forall_mem_cons]
      exact ⟨isValue_ofNat h.1, isValue_ofNat h.2, .str _ _, nofun⟩
  | fixApplied path pass =>
      refine htagged _ _ ?_
      simp only [List.forall_mem_cons]
      exact ⟨.str _ _, isValue_ofNat h, nofun⟩
  | verification v =>
      refine htagged _ _ ?_
      simp only [Verdict.jsonMembers, List.forall_mem_cons]
      exact ⟨.bool _ _, isValue_texts _, isValue_texts _, isValue_ofNat h.1, isValue_ofNat h.2, nofun⟩

/-- An event is read from any arrangement of its members. -/
theorem readsAs {e : Event} (h : e.Fits) : ReadsAs decoder (depth + 2) e.toJson e := by
  intro doc hdoc
  -- An event is read as a value of any kind before its members are parted.
  rcases hdoc.exists_means (isValue_toJson h) with ⟨value, hvalue⟩
  refine (bind_of_some hvalue).trans ?_
  cases e with
  | log e =>
      rcases split?_arranged (by simp [LogEntry.jsonMembers]) hdoc with ⟨rest, hsplit, hrest⟩
      refine (bind_of_some hsplit).trans ?_
      exact bind_of_some (LogEntry.readsAs_late h rest hrest)
  | fileStatus path status =>
      rcases split?_arranged (by simp) hdoc with ⟨rest, hsplit, hrest⟩
      rcases Fields.of?_arranged ["path", "status"] (depth + 1) rfl (by simp) hrest
        with ⟨f, hf, hholds⟩
      refine (bind_of_some hsplit).trans ((bind_of_some hf).trans ?_)
      refine (bind_of_some (hholds.required? (by simp) rfl (Json.readsAs_string _ path))).trans ?_
      exact bind_of_some (hholds.required? (by simp) rfl (status.readsAs _ _))
  | fileContent path content isPartial =>
      rcases split?_arranged (by simp) hdoc with ⟨rest, hsplit, hrest⟩
      rcases Fields.of?_arranged ["path", "content", "partial"] (depth + 1) rfl
        (by simp) hrest with ⟨f, hf, hholds⟩
      refine (bind_of_some hsplit).trans ((bind_of_some hf).trans ?_)
      refine (bind_of_some (hholds.required? (by simp) rfl (Json.readsAs_string _ path))).trans ?_
      refine (bind_of_some (hholds.required? (by simp) rfl (Json.readsAs_string _ content))).trans ?_
      exact bind_of_some (hholds.required? (by simp) rfl (Json.readsAs_bool _ isPartial))
  | progress p =>
      rcases split?_arranged (by simp [Progress.jsonMembers]) hdoc with ⟨rest, hsplit, hrest⟩
      refine (bind_of_some hsplit).trans ?_
      exact bind_of_some (Progress.readsAs h rest hrest)
  | fixApplied path pass =>
      rcases split?_arranged (by simp) hdoc with ⟨rest, hsplit, hrest⟩
      rcases Fields.of?_arranged ["path", "pass"] (depth + 1) rfl (by simp) hrest
        with ⟨f, hf, hholds⟩
      refine (bind_of_some hsplit).trans ((bind_of_some hf).trans ?_)
      refine (bind_of_some (hholds.required? (by simp) rfl (Json.readsAs_string _ path))).trans ?_
      exact bind_of_some (hholds.required? (v := .ofNat pass) (by simp) rfl
        (Json.readsAs_nat _ le_rfl h))
  | verification v =>
      rcases split?_arranged (by simp [Verdict.jsonMembers]) hdoc with ⟨rest, hsplit, hrest⟩
      refine (bind_of_some hsplit).trans ?_
      exact bind_of_some (Verdict.readsAs h rest hrest)

end Values

end Event

/-- What is written of a value that fits, with the members of its objects in any order, is read as the
    value. -/
def RoundTrips {α : Type} (decoder : Decoder α) (toJson : α → Json) (fits : α → Prop) : Prop :=
  ∀ a, fits a → ∀ doc, Arranges doc (toJson a) → Json.decode? decoder (Json.render doc) = some a

/-- A tree is read from any arrangement of its members that does not nest too deep. -/
theorem Tree.readsAs {depth : ℕ} {tree : Tree} (h : tree.toJson.height ≤ depth + 1) :
    ReadsAs decoder (depth + 1) tree.toJson tree :=
  Json.readsAs_list fun _ hnode =>
    FileNode.readsAs (Json.height_arr_le_iff.mp h _ (List.mem_map_of_mem hnode))

/-- To write the members of nodes in the order of their declaration is to arrange them. -/
theorem Tree.arranges_declared (tree : Tree) : Arranges tree.declared tree.toJson := by
  refine .arr ?_
  induction tree using Tree.induction with
  | nil => exact .nil
  | cons node nodes ihchildren ihnodes =>
      refine .cons ?_ ihnodes
      have heach : Json.ArrangesEach (node.membersWith FileNode.declared)
          (node.membersWith FileNode.toJson) := by
        refine List.rel_append (List.forall₂_same.mpr fun m _ => ⟨rfl, Arranges.refl m.2⟩) ?_
        rcases node with ⟨path, name, kind, status, content, _ | children⟩
        · exact .nil
        · exact .cons ⟨rfl, .arr ihchildren⟩ .nil
      have hnodup := node.nodup_jsonMembers
      rw [FileNode.jsonMembers_eq] at hnodup
      rw [FileNode.declared_eq, FileNode.toJson, FileNode.jsonMembers_eq]
      exact Json.arranges_ofMembers heach (List.Perm.refl _) hnodup

/-- Nodes and trees that do not nest too deep, reports and events are read from what is written of
    them. -/
theorem wire_roundTrips :
    RoundTrips FileNode.decoder FileNode.toJson (fun node => node.toJson.height ≤ Json.maxDepth) ∧
      RoundTrips Tree.decoder Tree.toJson (fun tree => tree.toJson.height ≤ Json.maxDepth) ∧
      RoundTrips Report.decoder Report.toJson Report.Fits ∧
      RoundTrips Event.decoder Event.toJson Event.Fits :=
  ⟨fun _ h _ hdoc => (FileNode.readsAs h).decode? hdoc, fun _ h _ hdoc => (Tree.readsAs h).decode? hdoc,
    fun _ h _ hdoc => (Report.readsAs h).decode? hdoc, fun _ h _ hdoc => (Event.readsAs h).decode? hdoc⟩

/-- A directory without files, and a file without text. -/
def hollow : Tree :=
  [⟨"a", "a", .directory, .pending, none, some []⟩, ⟨"b", "b", .file, .done, some "", none⟩]

/-- An empty list of children is not taken for none, and an empty content not for a missing one. -/
theorem wire_roundTrips_hollow :
    hollow.toJson.height ≤ Json.maxDepth ∧
      Json.decode? Tree.decoder (Json.render hollow.toJson) = some hollow := by
  have hfits : hollow.toJson.height ≤ Json.maxDepth := by decide +kernel
  exact ⟨hfits, wire_roundTrips.2.1 hollow hfits _ (Arranges.refl _)⟩

end Replatform
