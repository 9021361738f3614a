import Mathlib.Data.List.Perm.Basic
import Replatform.Json.Decode
import Replatform.Proofs.Json.Members

/-!
# Records Written and Read

Whoever writes a record chooses the order of its members, and whoever reads it looks for them by name.
So nothing is said here about one particular text: `Arranges` holds between a value and all those that
differ from it in the order of members, and `ReadsAs` asks of a decoder that it gets the same out of
every one of them.

The decoders of plain types are gone through once. A record is read as soon as its fields are: `Holds`
says of the fields that were found in an object where they come from, and the laws of `Holds` are all
that a reader of a record needs.

## Main definitions

* `Arranges`: The same value, with the members of its objects in any order.
* `height`: How deep arrays and objects nest.
* `ReadsAs`: A decoder reads a value, however its members are arranged.
* `Fields.Holds`: The fields of a record are those members.

## Theorems

* `arranges_ofMembers`: Members in any order are an arrangement of their object.
* `Arranges.value?`: What is arranged anew still means something.
* `readsAs_string`, `readsAs_nat`, `readsAs_list`, `readsAs_choice`: Plain types.
* `Fields.of?_arranged`: The fields of an object are found.
* `Fields.Holds.required?`, `withDefault?`, `nullable?`: What is read from them.
-/

namespace Replatform

namespace Json

/-- The same value, with the members of its objects in any order. -/
inductive Arranges : Json → Json → Prop where
  | null : Arranges .null .null
  | bool (b : Bool) : Arranges (.bool b) (.bool b)
  | int (n : ℤ) : Arranges (.int n) (.int n)
  | float (x : Float) : Arranges (.float x) (.float x)
  | str (s : String) : Arranges (.str s) (.str s)
  | arr {docs items : List Json} (h : List.Forall₂ Arranges docs items) :
    Arranges (.arr docs) (.arr items)
  | obj {docs placed members : List (String × Json)} (hkeys : docs.map Prod.fst = placed.map Prod.fst)
    (hvalues : List.Forall₂ Arranges (docs.map Prod.snd) (placed.map Prod.snd))
    (hperm : placed.Perm members) : Arranges (.obj docs) (.obj members)

theorem Arranges.refl (v : Json) : Arranges v v := by
  induction v using induction with
  | null => exact .null
  | bool b => exact .bool b
  | int n => exact .int n
  | float x => exact .float x
  | str s => exact .str s
  | arr items ih => exact .arr (List.forall₂_same.mpr ih)
  | obj members ih =>
      refine .obj rfl (List.forall₂_same.mpr fun v hv => ?_) (List.Perm.refl _)
      rcases List.mem_map.mp hv with ⟨m, hm, rfl⟩
      exact ih m hm

/-- The same members in the same order, with their values arranged anew. -/
def ArrangesEach (docs members : List (String × Json)) : Prop :=
  List.Forall₂ (fun d m => d.1 = m.1 ∧ Arranges d.2 m.2) docs members

theorem arrangesEach_iff {docs members : List (String × Json)} :
    ArrangesEach docs members ↔ docs.map Prod.fst = members.map Prod.fst ∧
      List.Forall₂ Arranges (docs.map Prod.snd) (members.map Prod.snd) := by
  refine ⟨fun h => ?_, fun h => ?_⟩
  · induction h with
    | nil => exact ⟨rfl, .nil⟩
    | cons hd _ ih => exact ⟨List.cons_eq_cons.mpr ⟨hd.1, ih.1⟩, .cons hd.2 ih.2⟩
  · induction docs generalizing members with
    | nil =>
        rw [List.map_eq_nil_iff.mp h.1.symm]
        exact .nil
    | cons d docs ih =>
        cases members with
        | nil => exact absurd h.1 (List.cons_ne_nil _ _)
        | cons m members =>
            rcases h with ⟨hkeys, hvalues⟩
            rw [List.map_cons, List.map_cons, List.cons_eq_cons] at hkeys
            cases hvalues with
            | cons hd hrest => exact .cons ⟨hkeys.1, hd⟩ (ih ⟨hkeys.2, hrest⟩)

section Members

variable {docs placed members : List (String × Json)}

theorem ArrangesEach.keys_eq (h : ArrangesEach docs members) :
    docs.map Prod.fst = members.map Prod.fst :=
  (arrangesEach_iff.mp h).1

theorem ArrangesEach.exists_doc (h : ArrangesEach docs members) {m : String × Json}
    (hm : m ∈ members) : ∃ doc, Arranges doc m.2 ∧ (m.1, doc) ∈ docs := by
  induction h with
  | nil => exact absurd hm List.not_mem_nil
  | @cons d m' docs members hd _ ih =>
      rcases List.mem_cons.mp hm with rfl | hm
      · exact ⟨d.2, hd.2, hd.1 ▸ List.mem_cons_self⟩
      · rcases ih hm with ⟨doc, hdoc, hmem⟩
        exact ⟨doc, hdoc, List.mem_cons_of_mem d hmem⟩

theorem perm_placeMember {key : String} {value : Json} (h : key ∉ members.map Prod.fst) :
    (placeMember key value members).Perm ((key, value) :: members) := by
  induction members with
  | nil => exact List.Perm.refl _
  | cons m members ih =>
      rw [List.map_cons, List.mem_cons, not_or] at h
      rw [placeMember, if_neg h.1]
      by_cases hlt : key < m.1
      · rw [if_pos hlt]
      · rw [if_neg hlt]
        exact ((ih h.2).cons m).trans (List.Perm.swap _ _ _)

/-- Members with keys of their own are all there, in some order. -/
theorem perm_foldl_placeMember (acc : List (String × Json))
    (h : ((acc ++ members).map Prod.fst).Nodup) :
    (members.foldl (fun acc m => placeMember m.1 m.2 acc) acc).Perm (acc ++ members) := by
  induction members generalizing acc with
  | nil => rw [List.foldl_nil, List.append_nil]
  | cons m members ih =>
      -- The keys of all the members differ, so the next one is new among those already placed.
      have hmiddle : (acc ++ m :: members).Perm (m :: acc ++ members) := List.perm_middle
      have hnodup := (hmiddle.map Prod.fst).nodup_iff.mp h
      have hplaced : (placeMember m.1 m.2 acc).Perm (m :: acc) := by
        refine perm_placeMember fun hkey => ?_
        rw [List.cons_append, List.map_cons, List.nodup_cons, List.map_append] at hnodup
        exact hnodup.1 (List.mem_append_left _ hkey)
      have hrest := hplaced.append_right members
      rw [List.foldl_cons]
      exact (ih _ ((hrest.map Prod.fst).nodup_iff.mpr hnodup)).trans (hrest.trans hmiddle.symm)

/-- Members in any order are an arrangement of the object that is made of them. -/
theorem arranges_ofMembers (h : ArrangesEach docs placed) (hperm : placed.Perm members)
    (hnodup : (members.map Prod.fst).Nodup) : Arranges (.obj docs) (ofMembers members) :=
  .obj (arrangesEach_iff.mp h).1 (arrangesEach_iff.mp h).2
    (hperm.trans (perm_foldl_placeMember [] hnodup).symm)

/-- Every arrangement of an object has its members, each once. -/
theorem Arranges.of_ofMembers {doc : Json} (h : Arranges doc (ofMembers members))
    (hnodup : (members.map Prod.fst).Nodup) :
    ∃ docs placed, doc = .obj docs ∧ ArrangesEach docs placed ∧ placed.Perm members := by
  cases h with
  | obj hkeys hvalues hperm =>
      exact ⟨_, _, rfl, arrangesEach_iff.mpr ⟨hkeys, hvalues⟩,
        hperm.trans (perm_foldl_placeMember [] hnodup)⟩

end Members

theorem memberSources_eq_map (members : List (String × Json)) :
    memberSources members =
      members.map fun m => (m.1.toList.flatMap escapeChar, source m.2) := by
  induction members with
  | nil => rfl
  | cons m members ih => rw [memberSources, ih, List.map_cons]

/-- A member of an arrangement, and the members around it. -/
theorem ArrangesEach.split {docs before after : List (String × Json)} {m : String × Json}
    (h : ArrangesEach docs (before ++ m :: after)) :
    ∃ before' doc after', docs = before' ++ (m.1, doc) :: after' ∧ Arranges doc m.2 ∧
      ArrangesEach (before' ++ after') (before ++ after) := by
  induction before generalizing docs with
  | nil =>
      cases h with
      | cons hd hafter => exact ⟨[], _, _, by rw [← hd.1]; rfl, hd.2, hafter⟩
  | cons m' before ih =>
      cases h with
      | cons hd hrest =>
          rcases ih hrest with ⟨before', doc, after', rfl, hdoc, heach⟩
          exact ⟨_ :: before', doc, after', rfl, hdoc, .cons hd heach⟩

section Height

mutual

/-- How deep arrays and objects nest. -/
def height : Json → ℕ
  | .arr items => heights items + 1
  | .obj members => memberHeights members + 1
  | _ => 0

/-- How deep some values nest. -/
def heights : List Json → ℕ
  | [] => 0
  | item :: items => max (height item) (heights items)

/-- How deep the values of some members nest. -/
def memberHeights : List (String × Json) → ℕ
  | [] => 0
  | (_, value) :: members => max (height value) (memberHeights members)

end

theorem heights_le_iff {items : List Json} {n : ℕ} :
    heights items ≤ n ↔ ∀ item ∈ items, item.height ≤ n := by
  induction items with
  | nil => simp only [heights, Nat.zero_le, List.not_mem_nil, false_implies, implies_true]
  | cons item items ih => rw [heights, Nat.max_le, List.forall_mem_cons, ih]

theorem memberHeights_le_iff {members : List (String × Json)} {n : ℕ} :
    memberHeights members ≤ n ↔ ∀ m ∈ members, m.2.height ≤ n := by
  induction members with
  | nil => simp only [memberHeights, Nat.zero_le, List.not_mem_nil, false_implies, implies_true]
  | cons m members ih =>
      rcases m with ⟨key, value⟩
      rw [memberHeights, Nat.max_le, List.forall_mem_cons, ih]

theorem height_arr_le_iff {items : List Json} {n : ℕ} :
    (Json.arr items).height ≤ n + 1 ↔ ∀ item ∈ items, item.height ≤ n := by
  rw [height, Nat.add_le_add_iff_right, heights_le_iff]

/-- The order of the members makes no difference to how deep an object nests. -/
theorem height_ofMembers_le_iff {members : List (String × Json)} {n : ℕ}
    (hnodup : (members.map Prod.fst).Nodup) :
    (ofMembers members).height ≤ n + 1 ↔ ∀ m ∈ members, m.2.height ≤ n := by
  rw [ofMembers, height, Nat.add_le_add_iff_right, memberHeights_le_iff]
  have hperm := perm_foldl_placeMember [] hnodup
  exact ⟨fun h m hm => h m (hperm.mem_iff.mpr hm), fun h m hm => h m (hperm.mem_iff.mp hm)⟩

end Height

section Means

variable {depth : ℕ}

theorem exists_values? {docs items : List Json} (h : List.Forall₂ Arranges docs items)
    (hitems : ∀ item ∈ items, ∀ doc, Arranges doc item → ∃ w, Means depth doc w) :
    ∃ ws, Source.values? depth (sources docs) = some ws := by
  induction h with
  | nil => exact ⟨[], rfl⟩
  | cons hdoc _ ih =>
      rw [List.forall_mem_cons] at hitems
      rcases hitems.1 _ hdoc with ⟨w, hw⟩
      rcases ih hitems.2 with ⟨ws, hws⟩
      exact ⟨w :: ws, by simp only [sources, Source.values?, show _ = some _ from hw, hws]⟩

theorem exists_memberValues? {docs members : List (String × Json)} (h : ArrangesEach docs members)
    (hmembers : ∀ m ∈ members, ∀ doc, Arranges doc m.2 → ∃ w, Means depth doc w) :
    ∃ ws, Source.memberValues? depth (memberSources docs) = some ws := by
  induction h with
  | nil => exact ⟨[], rfl⟩
  | @cons d m _ _ hd _ ih =>
      rw [List.forall_mem_cons] at hmembers
      rcases hmembers.1 _ hd.2 with ⟨w, hw⟩
      rcases ih hmembers.2 with ⟨ws, hws⟩
      refine ⟨(d.1, w) :: ws, ?_⟩
      simp only [memberSources, Source.memberValues?, text?_escaped, show _ = some _ from hw, hws]

/-- What is arranged anew still means something, if a text can mean it. -/
theorem Arranges.exists_means {doc v : Json} (h : Arranges doc v) (hv : IsValue depth v) :
    ∃ w, Means depth doc w := by
  induction hv generalizing doc with
  | arr _ ih =>
      cases h with
      | arr h =>
          rcases exists_values? h fun item hitem doc => ih item hitem with ⟨ws, hws⟩
          exact ⟨.arr ws, by rw [Means, source, Source.value?, hws, Option.map_some]⟩
  | obj _ _ ih =>
      cases h with
      | obj hkeys hvalues hperm =>
          -- What is written is in another order: the hypothesis is about the members as they are kept.
          have hmembers := fun m hm doc => @ih m (hperm.mem_iff.mp hm) doc
          rcases exists_memberValues? (arrangesEach_iff.mpr ⟨hkeys, hvalues⟩) hmembers with ⟨ws, hws⟩
          exact ⟨ofMembers ws, by rw [Means, source, Source.value?, hws, Option.map_some]⟩
  | null depth | bool depth b | int depth hlow hhigh | float depth hfinite hexact | str depth s =>
      cases h
      exact ⟨_, value?_source (by constructor <;> assumption)⟩

end Means

/-- A decoder reads a value, however its members are arranged. -/
def ReadsAs {α : Type} (d : Decoder α) (depth : ℕ) (v : Json) (a : α) : Prop :=
  ∀ doc : Json, Arranges doc v → d depth (source doc) = some a

section Plain

variable {α : Type} {d : Decoder α} {depth : ℕ} {v : Json} {a : α}

/-- A text that is written in any order is read as a whole. -/
theorem ReadsAs.decode? (h : ReadsAs d maxDepth v a) {doc : Json} (hdoc : Arranges doc v) :
    decode? d (render doc) = some a := by
  rw [Json.decode?, read?_render, Option.bind_some, h doc hdoc]

theorem readsAs_string (depth : ℕ) (s : String) : ReadsAs .string depth (.str s) s := by
  rintro doc ⟨⟩
  exact text?_escaped s

theorem readsAs_bool (depth : ℕ) (b : Bool) : ReadsAs .bool depth (.bool b) b := by
  rintro doc ⟨⟩
  rfl

/-- The numeral of a count is read where it fits. -/
theorem readsAs_nat (depth : ℕ) {bound n : ℕ} (hbound : bound ≤ UInt64.size) (h : n < bound) :
    ReadsAs (.nat bound) depth (.int n) n := by
  rintro doc ⟨⟩
  have hint : (integral n).int? = some (n : ℤ) := int?_integral (by omega) (by omega)
  rw [source, Decoder.nat, hint]
  exact if_pos ⟨Int.natCast_nonneg n, Int.ofNat_lt.mpr h⟩

/-- A name is read as what it stands for. -/
theorem readsAs_choiceWith (isVoid : Source → Bool) {alternatives : List (String × α)} {name : String}
    (h : List.lookup name alternatives = some a) :
    ReadsAs (.choiceWith isVoid alternatives) depth (.str name) a := by
  rintro doc ⟨⟩
  cases depth <;> simp only [source, Decoder.choiceWith, text?_escaped, Option.bind_some, h]

theorem mapM_sources {docs : List Json} {as : List α} {f : α → Json}
    (h : List.Forall₂ Arranges docs (as.map f)) (hitems : ∀ a ∈ as, ReadsAs d depth (f a) a) :
    (sources docs).mapM (d depth) = some as := by
  induction as generalizing docs with
  | nil =>
      cases h
      rfl
  | cons a as ih =>
      cases h with
      | cons hdoc hdocs =>
          rw [List.forall_mem_cons] at hitems
          rw [sources, List.mapM_cons, hitems.1 _ hdoc, ih hdocs hitems.2]
          rfl

theorem readsAs_list {as : List α} {f : α → Json} (h : ∀ a ∈ as, ReadsAs d depth (f a) a) :
    ReadsAs (.list d) (depth + 1) (.arr (as.map f)) as := by
  intro doc hdoc
  cases hdoc with
  | arr hdocs =>
      rw [source, Decoder.list]
      exact mapM_sources hdocs h

/-- What is read as something is not left out for being `null`. -/
theorem readsAs_nullable (h : ReadsAs d depth v a) (hnull : ∀ doc, Arranges doc v → source doc ≠ .null) :
    ReadsAs d.nullable depth v (some a) := by
  intro doc hdoc
  rw [Decoder.nullable]
  · rw [h doc hdoc, Option.map_some]
  · exact hnull doc hdoc

theorem readsAs_nullable_null (d : Decoder α) (depth : ℕ) : ReadsAs d.nullable depth .null none := by
  rintro doc ⟨⟩
  rfl

end Plain

namespace Fields

/-- The fields of a record that were found are those of some members, which nest less deep than the
    record by one. -/
structure Holds (f : Fields) (fields : List FieldName) (depth : ℕ) (members : List (String × Json)) :
    Prop where
  depth_eq : f.depth = depth
  positional_eq : f.positional = false
  /-- Where a member is a field, an arrangement of its value is found under its name. -/
  found : ∀ m ∈ members, (fields.any fun field => field.name == m.1) = true →
    ∃ doc, Arranges doc m.2 ∧ List.lookup m.1 f.found = some (source doc)
  /-- What is no member is not found. -/
  missing : ∀ name ∉ members.map Prod.fst, List.lookup name f.found = none

variable {fields : List FieldName} {depth : ℕ} {members : List (String × Json)}

/-- A name that is not found is the name of none that is. -/
theorem any_eq_false {found : List (String × Source)} {name : String}
    (h : List.lookup name found = none) : (found.any fun p => p.1 == name) = false := by
  rw [List.any_eq_false]
  intro p hp hname
  have hne := List.lookup_eq_none_iff.mp h p hp
  exact absurd (beq_iff_eq.mp hname).symm (bne_iff_ne.mp hne)

/-- The members of an object are sorted by field. -/
theorem ofMembers?_memberSources (hplain : (fields.all fun field => field.aliases.isEmpty) = true)
    (hnodup : (members.map Prod.fst).Nodup) :
    ∃ found, ofMembers? fields (memberSources members) = some found ∧
      (∀ m ∈ members, (fields.any fun field => field.name == m.1) = true →
        List.lookup m.1 found = some (source m.2)) ∧
      ∀ name ∉ members.map Prod.fst, List.lookup name found = none := by
  induction members with
  | nil => exact ⟨[], rfl, List.forall_mem_nil _, fun _ _ => rfl⟩
  | cons m members ih =>
      rcases m with ⟨key, value⟩
      rw [List.map_cons, List.nodup_cons] at hnodup
      rcases ih hnodup.2 with ⟨found, hfound, hpresent, hmissing⟩
      simp only [memberSources, ofMembers?, text?_escaped, hfound, Option.bind_eq_bind, Option.bind_some]
      cases hfield : fields.find? fun f => f.name == key || f.aliases.contains key with
      | none =>
          -- No field has this key: the member is passed over.
          refine ⟨found, rfl, List.forall_mem_cons.mpr ⟨?_, hpresent⟩, fun name hname => ?_⟩
          · intro hany
            rcases List.any_eq_true.mp hany with ⟨field, hmem, hname⟩
            have hnone := List.find?_eq_none.mp hfield field hmem
            rw [hname, Bool.true_or] at hnone
            exact absurd rfl hnone
          · exact hmissing name fun hmem => hname (List.mem_cons_of_mem key hmem)
      | some field =>
          have hmem := List.mem_of_find?_eq_some hfield
          obtain rfl : field.name = key := by
            have hsome := List.find?_some hfield
            have hnone := List.isEmpty_iff.mp (List.all_eq_true.mp hplain field hmem)
            rwa [hnone, List.contains_nil, Bool.or_false, beq_iff_eq] at hsome
          -- The field was not found among the members that follow, so it is not there twice.
          have hnew : (found.any fun p => p.1 == field.name) = false :=
            any_eq_false (hmissing field.name hnodup.1)
          refine ⟨(field.name, source value) :: found, if_neg (Bool.eq_false_iff.mp hnew), ?_, ?_⟩
          · refine List.forall_mem_cons.mpr ⟨fun _ => List.lookup_cons_self, fun m hm hfields => ?_⟩
            have hne : m.1 ≠ field.name := fun h => hnodup.1 (List.mem_map.mpr ⟨m, hm, h⟩)
            rw [lookup_cons, if_neg hne, hpresent m hm hfields]
          · intro name hname
            rw [List.map_cons, List.mem_cons, not_or] at hname
            rw [lookup_cons, if_neg hname.1, hmissing name hname.2]

variable (fields depth) in
/-- The fields of an object are found, in whatever order it was written. -/
theorem of?_arranged {doc : Json} (hplain : (fields.all fun field => field.aliases.isEmpty) = true)
    (hnodup : (members.map Prod.fst).Nodup) (hdoc : Arranges doc (ofMembers members)) :
    ∃ f, of? fields (depth + 1) (source doc) = some f ∧ f.Holds fields depth members := by
  rcases hdoc.of_ofMembers hnodup with ⟨docs, placed, rfl, heach, hperm⟩
  have hkeys : (docs.map Prod.fst).Perm (members.map Prod.fst) :=
    heach.keys_eq ▸ hperm.map Prod.fst
  rcases ofMembers?_memberSources hplain (hkeys.nodup_iff.mpr hnodup) with
    ⟨found, hfound, hpresent, hmissing⟩
  refine ⟨{ depth, positional := false, found }, ?_, rfl, rfl, fun m hm hfields => ?_, fun name h => ?_⟩
  · rw [source, of?, hfound, Option.map_some]
  · rcases heach.exists_doc (hperm.mem_iff.mpr hm) with ⟨doc, hdoc, hmem⟩
    exact ⟨doc, hdoc, hpresent _ hmem hfields⟩
  · exact hmissing name fun hmem => h (hkeys.mem_iff.mp hmem)

/-- A record is read if it is read from its fields. -/
theorem readsAs_record {α : Type} {a : α} {body : Fields → Option α}
    (hplain : (fields.all fun field => field.aliases.isEmpty) = true)
    (hnodup : (members.map Prod.fst).Nodup)
    (hbody : ∀ f : Fields, f.Holds fields depth members → body f = some a) :
    ReadsAs (fun depth s => (of? fields depth s).bind body) (depth + 1) (ofMembers members) a := by
  intro doc hdoc
  rcases of?_arranged fields depth hplain hnodup hdoc with ⟨f, hf, hholds⟩
  simp only [hf, Option.bind_some, hbody f hholds]

namespace Holds

variable {α : Type} {f : Fields} {d : Decoder α} {name : String} {v : Json} {a : α}
  (h : f.Holds fields depth members)

include h

theorem required? (hmem : (name, v) ∈ members) (hfield : (fields.any fun field => field.name == name) = true)
    (hread : ReadsAs d depth v a) : f.required? name d = some a := by
  rcases h.found _ hmem hfield with ⟨doc, hdoc, hlookup⟩
  rw [Fields.required?, hlookup, Option.bind_some, h.depth_eq, hread doc hdoc]

theorem withDefault? (default : α) (hmem : (name, v) ∈ members)
    (hfield : (fields.any fun field => field.name == name) = true) (hread : ReadsAs d depth v a) :
    f.withDefault? name d default = some a := by
  rcases h.found _ hmem hfield with ⟨doc, hdoc, hlookup⟩
  simp only [Fields.withDefault?, hlookup]
  rw [h.depth_eq, hread doc hdoc]

theorem withDefault?_missing (default : α) (hmissing : name ∉ members.map Prod.fst) :
    f.withDefault? name d default = some default := by
  simp only [Fields.withDefault?, h.missing name hmissing]

theorem nullable? {a : Option α} (hmem : (name, v) ∈ members)
    (hfield : (fields.any fun field => field.name == name) = true) (hread : ReadsAs d.nullable depth v a) :
    f.nullable? name d = some a := by
  rcases h.found _ hmem hfield with ⟨doc, hdoc, hlookup⟩
  simp only [Fields.nullable?, hlookup]
  rw [h.depth_eq, hread doc hdoc]

end Holds

end Fields

end Json

end Replatform
