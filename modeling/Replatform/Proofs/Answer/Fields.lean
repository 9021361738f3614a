import Mathlib.Tactic.SplitIfs
import Replatform.Answer.Analysis
import Replatform.Answer.Review
import Replatform.Proofs.Answer.Plan
import Replatform.Proofs.Json.Members
import Replatform.Proofs.Json.Span

/-!
# Fields That Cannot Be Used

An answer may have a field of the wrong kind: a `null`, or a number where a list is expected. One would
like such a field to count as missing, so that another one is read which goes by the other name.

It does where a text is read, and wherever a field has one name only. Where a list is looked for under
several names, the first of them that is there is taken, whatever its value is. If that one cannot be
used, there is nothing, even if a list stands under the next name. `unusable_as_missing` says that this is
the only case in which a field that cannot be used makes a difference, and that it makes one exactly if
something is found in the answer without it.

An object with a field is written as the object without it, in which the field is put in its place.

## Main definitions

* `Json.Kind`: The kinds of values.
* `Answer.Fields`: The kinds of values that can be used, by the names of the fields.
* `Answer.firstKey?`: The first of several names that is there.

## Theorems

* `Answer.textField?_placed`, `Answer.firstField?_placed`: How fields are read when another one cannot be
  used.
* `Answer.analysis_eq_iff`, `Answer.review_eq_iff`, `Answer.plan_eq_iff`: When it makes no difference.
* `Answer.unusable_as_missing`: All of this together.
-/

namespace Replatform

namespace Json

/-- The kinds of values. -/
inductive Kind where
  | null
  | flag
  | number
  | text
  | list
  | object
deriving DecidableEq

/-- The kind of a value. -/
def kind : Json → Kind
  | .null => .null
  | .bool _ => .flag
  | .int _ => .number
  | .float _ => .number
  | .str _ => .text
  | .arr _ => .list
  | .obj _ => .object

/-- The items of a list. -/
def items? : Json → Option (List Json)
  | .arr items => some items
  | _ => none

variable {v : Json}

theorem str?_eq_none (h : v.kind ≠ .text) : v.str? = none := by
  cases v with
  | str s => exact absurd rfl h
  | _ => rfl

theorem bool?_eq_none (h : v.kind ≠ .flag) : v.bool? = none := by
  cases v with
  | bool b => exact absurd rfl h
  | _ => rfl

theorem number?_eq_none (h : v.kind ≠ .number) : v.number? = none := by
  cases v with
  | int n => exact absurd rfl h
  | float x => exact absurd rfl h
  | _ => rfl

theorem items?_eq_none (h : v.kind ≠ .list) : v.items? = none := by
  cases v with
  | arr items => exact absurd rfl h
  | _ => rfl

theorem bind_items?_eq_some_iff {found : Option Json} {items : List Json} :
    found.bind items? = some items ↔ found = some (.arr items) := by
  rcases found with _ | _ | _ | _ | _ | _ | _ | _ <;>
    simp only [Option.bind_none, Option.bind_some, items?, Option.some.injEq, reduceCtorEq,
      Json.arr.injEq]

end Json

namespace Answer

/-- The kinds of values that can be used, by the names of the fields. -/
abbrev Fields := List (String × List Json.Kind)

/-- The kinds of values that can be used under a name. -/
def Fields.kinds (fields : Fields) (key : String) : List Json.Kind :=
  (List.lookup key fields).getD []

/-- The fields of an analysis. -/
def analysisFields : Fields :=
  [("summary", [.text]), ("complexity", [.text]), ("dependencies", [.list]), ("patterns", [.list]),
    ("risks", [.list]), ("sourceFramework", [.text]), ("detectedFramework", [.text]),
    ("recommendedTarget", [.text]), ("targetStack", [.text]), ("architecture", [.text]),
    ("architectureDescription", [.text]), ("mappings", [.list]), ("fileMappings", [.list]),
    ("migrationNotes", [.text]), ("notes", [.text])]

/-- The fields of an entry of a list of texts. -/
def entryFields : Fields :=
  [("name", [.text]), ("title", [.text]), ("description", [.text]), ("message", [.text])]

/-- The fields of a mapping hint. -/
def hintFields : Fields :=
  [("sourcePath", [.text]), ("source", [.text]), ("targetPath", [.text]), ("target", [.text]),
    ("rationale", [.text]), ("reason", [.text]), ("confidence", [.number])]

/-- The fields of a review. -/
def reviewFields : Fields :=
  [("passed", [.flag]), ("issues", [.list]), ("fixes", [.list, .object]),
    ("fixedFiles", [.list, .object]), ("files", [.list, .object])]

/-- The fields of an issue. -/
def issueFields : Fields :=
  [("message", [.text]), ("description", [.text]), ("issue", [.text]), ("file", [.text]),
    ("path", [.text])]

/-- The fields of a fix. -/
def fixFields : Fields :=
  [("path", [.text]), ("file", [.text]), ("content", [.text])]

/-- The fields of a plan. What is below a name in a wrapper can be a plan of any form. -/
def planFields : Fields :=
  [("files", [.text, .list, .object]), ("structure", [.text, .list, .object]),
    ("paths", [.text, .list, .object]), ("path", [.text]), ("name", [.text]), ("children", [.list]),
    ("type", [.text])]

/-- It makes no difference to the reader of an object whether a field cannot be used or is missing. -/
def Tolerates {α : Type} (fields : Fields) (read : String → α) : Prop :=
  ∀ {key text text' : String} {v : Json} {rest : Members}, List.lookup key rest = none →
    extract? text = some (.obj (Json.placeMember key v rest)) → extract? text' = some (.obj rest) →
      v.kind ∉ fields.kinds key → read text = read text'

/-- The names under which mapping hints are looked for. -/
def hintKeys : List String := ["mappings", "fileMappings"]

/-- The names under which fixes are looked for. -/
def fixKeys : List String := ["fixes", "fixedFiles", "files"]

/-- The first of several names that is there. -/
def firstKey? (keys : List String) (o : Members) : Option String :=
  keys.find? fun k => (List.lookup k o).isSome

section Placed

variable {key : String} {v : Json} {rest : Members}

/-- A field that is read in a certain way is not changed by one that is put in its place, if that one
    has another name or cannot be read in this way. -/
theorem bind_lookup_placed {α : Type} {read : Json → Option α} {k : String}
    (hnone : List.lookup key rest = none) (h : k = key → read v = none) :
    (List.lookup k (Json.placeMember key v rest)).bind read = (List.lookup k rest).bind read := by
  rw [Json.lookup_placeMember]
  split_ifs with hk
  · rw [Option.bind_some, h hk, hk, hnone, Option.bind_none]
  · rfl

variable {fields : Fields}

/-- A text is read as if a field were missing that is no text. -/
theorem textField?_placed (hnone : List.lookup key rest = none) (hunusable : v.kind ∉ fields.kinds key)
    {keys : List String} (hkeys : ∀ k ∈ keys, .text ∈ fields.kinds k) :
    textField? (Json.placeMember key v rest) keys = textField? rest keys := by
  unfold textField?
  refine congrArg (Option.map Text.trim) ?_
  induction keys with
  | nil => rfl
  | cons k keys ih =>
      rw [List.forall_mem_cons] at hkeys
      have hread : k = key → v.str? = none := by
        rintro rfl
        exact Json.str?_eq_none fun hkind => hunusable (hkind ▸ hkeys.1)
      rw [List.findSome?_cons, List.findSome?_cons, bind_lookup_placed hnone hread, ih hkeys.2]

theorem firstField?_eq (o : Members) (keys : List String) :
    firstField? o keys = (firstKey? keys o).bind fun k => List.lookup k o := by
  unfold firstField? firstKey?
  induction keys with
  | nil => rfl
  | cons k keys ih =>
      rw [List.findSome?_cons, List.find?_cons, ih]
      cases hk : List.lookup k o with
      | none => rfl
      | some w => exact hk.symm

/-- A field that does not come first does not decide which one does. -/
theorem firstKey?_placed {keys : List String}
    (hfirst : firstKey? keys (Json.placeMember key v rest) ≠ some key) :
    firstKey? keys (Json.placeMember key v rest) = firstKey? keys rest := by
  unfold firstKey? at hfirst ⊢
  induction keys with
  | nil => rfl
  | cons k keys ih =>
      rw [List.find?_cons, Json.lookup_placeMember] at hfirst ⊢
      rw [List.find?_cons]
      by_cases hk : k = key
      · rw [if_pos hk] at hfirst
        exact absurd (congrArg some hk) hfirst
      · rw [if_neg hk] at hfirst ⊢
        cases hlookup : List.lookup k rest with
        | none =>
            rw [hlookup] at hfirst
            exact ih hfirst
        | some w => rfl

/-- What comes first is what is put in its place, or what would come first without it. -/
theorem firstField?_placed (hnone : List.lookup key rest = none) (keys : List String) :
    firstField? (Json.placeMember key v rest) keys =
      if firstKey? keys (Json.placeMember key v rest) = some key then some v
      else firstField? rest keys := by
  rw [firstField?_eq]
  split_ifs with hfirst
  · rw [hfirst, Option.bind_some, Json.lookup_placeMember, if_pos rfl]
  · rw [firstField?_eq, firstKey?_placed hfirst]
    cases hkey : firstKey? keys rest with
    | none => rfl
    | some k =>
        have hk : k ≠ key := by
          rintro rfl
          have hthere := List.find?_some hkey
          rw [hnone] at hthere
          exact Bool.false_ne_true hthere
        rw [Option.bind_some, Option.bind_some, Json.lookup_placeMember, if_neg hk]

end Placed

section Lists

variable {key : String} {v : Json} {rest : Members} {fields : Fields}

theorem textList_eq (o : Members) (k : String) :
    textList o k =
      ((((List.lookup k o).bind Json.items?).getD []).filterMap entryText?).filter (· ≠ "") := by
  unfold textList
  rcases List.lookup k o with _ | _ | _ | _ | _ | _ | _ | _ <;> rfl

theorem issues_eq (o : Members) :
    issues o = ((((List.lookup "issues" o).bind Json.items?).getD []).filterMap issueText?).filter
      (· ≠ "") := by
  unfold issues
  rcases List.lookup "issues" o with _ | _ | _ | _ | _ | _ | _ | _ <;> rfl

/-- A list of texts is read as if a field were missing that is no list. -/
theorem textList_placed (hnone : List.lookup key rest = none) (hunusable : v.kind ∉ fields.kinds key)
    {k : String} (hk : .list ∈ fields.kinds k) :
    textList (Json.placeMember key v rest) k = textList rest k := by
  have hread : k = key → v.items? = none := by
    rintro rfl
    exact Json.items?_eq_none fun hkind => hunusable (hkind ▸ hk)
  rw [textList_eq, textList_eq, bind_lookup_placed hnone hread]

/-- The hints are what is found under the first name that is there. -/
theorem hints_eq (o : Members) :
    hints o = (((firstField? o hintKeys).bind Json.items?).getD []).filterMap hint? := by
  unfold hints hintKeys
  rcases firstField? o _ with _ | _ | _ | _ | _ | _ | _ | _ <;> rfl

theorem hints_placed (hnone : List.lookup key rest = none)
    (hunusable : v.kind ∉ analysisFields.kinds key) :
    hints (Json.placeMember key v rest) =
      if firstKey? hintKeys (Json.placeMember key v rest) = some key then [] else hints rest := by
  rw [hints_eq, hints_eq, firstField?_placed hnone]
  split_ifs with hfirst
  · have hlists : ∀ k ∈ hintKeys, .list ∈ analysisFields.kinds k := by decide
    have hitems : v.items? = none := Json.items?_eq_none fun hkind =>
      hunusable (hkind ▸ hlists key (List.mem_of_find?_eq_some hfirst))
    rw [Option.bind_some, hitems]
    rfl
  · rfl

theorem fixes_placed (hnone : List.lookup key rest = none)
    (hunusable : v.kind ∉ reviewFields.kinds key) :
    fixes (Json.placeMember key v rest) =
      if firstKey? fixKeys (Json.placeMember key v rest) = some key then [] else fixes rest := by
  have hplaced := firstField?_placed (v := v) hnone fixKeys
  unfold fixKeys at hplaced ⊢
  unfold fixes
  rw [hplaced]
  split_ifs with hfirst
  · have hlists : ∀ k ∈ ["fixes", "fixedFiles", "files"],
        reviewFields.kinds k = [.list, .object] := by decide
    rw [hlists key (List.mem_of_find?_eq_some hfirst)] at hunusable
    cases v with
    | arr items => exact absurd List.mem_cons_self hunusable
    | obj members => exact absurd (List.mem_cons_of_mem _ List.mem_cons_self) hunusable
    | _ => rfl
  · rfl

end Lists

section Entries

variable {key : String} {v : Json} {rest : Members}

/-- A field of an entry that cannot be used counts as missing. -/
theorem entryText?_placed (hnone : List.lookup key rest = none)
    (hunusable : v.kind ∉ entryFields.kinds key) :
    entryText? (.obj (Json.placeMember key v rest)) = entryText? (.obj rest) :=
  textField?_placed hnone hunusable (by decide)

theorem hint?_placed (hnone : List.lookup key rest = none)
    (hunusable : v.kind ∉ hintFields.kinds key) :
    hint? (.obj (Json.placeMember key v rest)) = hint? (.obj rest) := by
  have htext := fun keys (hkeys : ∀ k ∈ keys, Json.Kind.text ∈ hintFields.kinds k) =>
    textField?_placed hnone hunusable hkeys
  have hnumber : "confidence" = key → v.number? = none := by
    rintro rfl
    exact Json.number?_eq_none fun hkind => hunusable (hkind ▸ by decide)
  simp only [hint?, htext ["sourcePath", "source"] (by decide),
    htext ["targetPath", "target"] (by decide), htext ["rationale", "reason"] (by decide),
    bind_lookup_placed hnone hnumber]

theorem issueText?_placed (hnone : List.lookup key rest = none)
    (hunusable : v.kind ∉ issueFields.kinds key) :
    issueText? (.obj (Json.placeMember key v rest)) = issueText? (.obj rest) := by
  have htext := fun keys (hkeys : ∀ k ∈ keys, Json.Kind.text ∈ issueFields.kinds k) =>
    textField?_placed hnone hunusable hkeys
  simp only [issueText?, htext ["message", "description", "issue"] (by decide),
    htext ["file", "path"] (by decide)]

theorem listedFix?_placed (hnone : List.lookup key rest = none)
    (hunusable : v.kind ∉ fixFields.kinds key) :
    listedFix? (.obj (Json.placeMember key v rest)) = listedFix? (.obj rest) := by
  have hcontent : "content" = key → v.str? = none := by
    rintro rfl
    exact Json.str?_eq_none fun hkind => hunusable (hkind ▸ by decide)
  have hpath : textField? (Json.placeMember key v rest) ["path", "file"] =
      textField? rest ["path", "file"] := textField?_placed hnone hunusable (by decide)
  simp only [listedFix?, hpath, bind_lookup_placed hnone hcontent]

end Entries

section Answers

variable {key text text' : String} {v : Json} {rest : Members}

/-- What is read from an object does not depend on the text it was found in. -/
theorem analysis_of_extract? {o : Members} (h : extract? text = some (.obj o)) :
    analysis text =
      { summary := (textField? o ["summary"]).getD ""
        complexity := ((textField? o ["complexity"]).map Complexity.ofLabel).getD .medium
        dependencies := textList o "dependencies"
        patterns := textList o "patterns"
        risks := textList o "risks"
        sourceFramework := (textField? o ["sourceFramework", "detectedFramework"]).getD ""
        recommendedTarget := (textField? o ["recommendedTarget", "targetStack"]).getD ""
        architecture := (textField? o ["architecture", "architectureDescription"]).getD ""
        mappings := hints o
        migrationNotes := (textField? o ["migrationNotes", "notes"]).filter (· ≠ "") } := by
  unfold analysis
  generalize extract? text = found at h
  rw [h]

/-- A field of an analysis that cannot be used counts as missing, unless it comes first where hints
    are looked for and hides some. -/
theorem analysis_eq_iff (hnone : List.lookup key rest = none)
    (hunusable : v.kind ∉ analysisFields.kinds key)
    (h : extract? text = some (.obj (Json.placeMember key v rest)))
    (h' : extract? text' = some (.obj rest)) :
    analysis text = analysis text' ↔
      (firstKey? hintKeys (Json.placeMember key v rest) = some key → hints rest = []) := by
  have htext := fun keys (hkeys : ∀ k ∈ keys, Json.Kind.text ∈ analysisFields.kinds k) =>
    textField?_placed hnone hunusable hkeys
  have hlist := fun k (hk : Json.Kind.list ∈ analysisFields.kinds k) =>
    textList_placed hnone hunusable hk
  rw [analysis_of_extract? h, analysis_of_extract? h', Analysis.mk.injEq, hints_placed hnone hunusable,
    htext ["summary"] (by decide), htext ["complexity"] (by decide),
    htext ["sourceFramework", "detectedFramework"] (by decide),
    htext ["recommendedTarget", "targetStack"] (by decide),
    htext ["architecture", "architectureDescription"] (by decide),
    htext ["migrationNotes", "notes"] (by decide), hlist "dependencies" (by decide),
    hlist "patterns" (by decide), hlist "risks" (by decide)]
  split_ifs with hfirst
  · simp only [hfirst, true_and, and_true, forall_const, eq_comm]
  · simp only [hfirst, and_self, false_imp_iff]

theorem review_of_extract? {o : Members} (h : extract? text = some (.obj o)) :
    review text =
      { passed := ((List.lookup "passed" o).bind Json.bool?).getD false
        issues := issues o
        fixes := fixes o
        malformed := false } := by
  unfold review
  generalize extract? text = found at h
  rw [h]

/-- A field of a review that cannot be used counts as missing, unless it comes first where fixes are
    looked for and hides some. -/
theorem review_eq_iff (hnone : List.lookup key rest = none)
    (hunusable : v.kind ∉ reviewFields.kinds key)
    (h : extract? text = some (.obj (Json.placeMember key v rest)))
    (h' : extract? text' = some (.obj rest)) :
    review text = review text' ↔
      (firstKey? fixKeys (Json.placeMember key v rest) = some key → fixes rest = []) := by
  have hpassed : "passed" = key → v.bool? = none := by
    rintro rfl
    exact Json.bool?_eq_none fun hkind => hunusable (hkind ▸ by decide)
  have hissues : "issues" = key → v.items? = none := by
    rintro rfl
    exact Json.items?_eq_none fun hkind => hunusable (hkind ▸ by decide)
  rw [review_of_extract? h, review_of_extract? h', Review.mk.injEq, fixes_placed hnone hunusable,
    issues_eq, issues_eq, bind_lookup_placed hnone hpassed, bind_lookup_placed hnone hissues]
  split_ifs with hfirst
  · simp only [hfirst, true_and, and_true, forall_const, eq_comm]
  · simp only [hfirst, and_self, false_imp_iff]

/-- A plan is not found in a value of any other kind. -/
theorem collect_eq_nil (base : String) (h : v.kind ∉ [.text, .list, .object]) :
    collect base v = [] := by
  cases v with
  | str s => exact absurd List.mem_cons_self h
  | arr items => exact absurd (List.mem_cons_of_mem _ List.mem_cons_self) h
  | obj members =>
      exact absurd (List.mem_cons_of_mem _ (List.mem_cons_of_mem _ List.mem_cons_self)) h
  | _ => rfl

/-- What is collected from an object depends on a few of its fields only. -/
theorem collect_congr (base : String) {o o' : Members} (hwrapper : wrapperKey? o = wrapperKey? o')
    (hwrapped : ∀ k, wrapperKey? o' = some k → List.lookup k o = List.lookup k o')
    (hpath : textField? o ["path"] = textField? o' ["path"]) (hlabel : label? o = label? o')
    (hchildren : (List.lookup "children" o).bind Json.items? =
      (List.lookup "children" o').bind Json.items?)
    (htype : (List.lookup "type" o).bind Json.str? = (List.lookup "type" o').bind Json.str?) :
    collect base (.obj o) = collect base (.obj o') := by
  have hleaf : ∀ {o : Members}, (List.lookup "children" o).bind Json.items? = none →
      ∀ items, List.lookup "children" o ≠ some (.arr items) := by
    intro o ho items hsome
    rw [Json.bind_items?_eq_some_iff.mpr hsome] at ho
    exact Option.some_ne_none items ho
  cases hkey : wrapperKey? o' with
  | some k =>
      rw [collect_wrapper (hwrapper.trans hkey), collect_wrapper hkey, hwrapped k hkey]
  | none =>
      cases hlast : label? o' with
      | none =>
          rw [collect_unlabelled (hwrapper.trans hkey) (hlabel.trans hlast),
            collect_unlabelled hkey hlast]
      | some last =>
          cases hitems : (List.lookup "children" o').bind Json.items? with
          | some items =>
              rw [hitems, Json.bind_items?_eq_some_iff] at hchildren
              rw [Json.bind_items?_eq_some_iff] at hitems
              rw [collect_directory (hwrapper.trans hkey) (hlabel.trans hlast) hchildren,
                collect_directory hkey hlast hitems, hpath]
          | none =>
              rw [collect_leaf (hwrapper.trans hkey) (hlabel.trans hlast)
                  (hleaf (hchildren.trans hitems)),
                collect_leaf hkey hlast (hleaf hitems), htype]

/-- A field that cannot be used hides what is below other names in a wrapper, if it comes first
    there. Otherwise it counts as missing. -/
theorem collect_placed (base : String) (hnone : List.lookup key rest = none)
    (hunusable : v.kind ∉ planFields.kinds key) :
    collect base (.obj (Json.placeMember key v rest)) =
      if firstKey? wrapperKeys (Json.placeMember key v rest) = some key then []
      else collect base (.obj rest) := by
  split_ifs with hfirst
  · have hkinds : ∀ k ∈ wrapperKeys, planFields.kinds k = [.text, .list, .object] := by decide
    rw [hkinds key (List.mem_of_find?_eq_some hfirst)] at hunusable
    rw [collect_wrapper hfirst, Json.lookup_placeMember, if_pos rfl, Option.elim_some,
      collect_eq_nil base hunusable]
  · have hwrapper : wrapperKey? (Json.placeMember key v rest) = wrapperKey? rest :=
      firstKey?_placed hfirst
    have htext := fun keys (hkeys : ∀ k ∈ keys, Json.Kind.text ∈ planFields.kinds k) =>
      textField?_placed hnone hunusable hkeys
    have hpath := htext ["path"] (by decide)
    refine collect_congr base hwrapper (fun k hkey => ?_) hpath ?_ ?_ ?_
    · have hk : k ≠ key := fun he => hfirst ((hwrapper.trans hkey).trans (congrArg some he))
      rw [Json.lookup_placeMember, if_neg hk]
    · rw [label?, label?, hpath, htext ["name"] (by decide)]
    · exact bind_lookup_placed hnone fun he =>
        Json.items?_eq_none fun hkind => hunusable (he ▸ hkind ▸ by decide)
    · exact bind_lookup_placed hnone fun he =>
        Json.str?_eq_none fun hkind => hunusable (he ▸ hkind ▸ by decide)

/-- A field of a plan that cannot be used counts as missing, unless it comes first in a wrapper and
    hides some paths. -/
theorem plan_eq_iff (hnone : List.lookup key rest = none)
    (hunusable : v.kind ∉ planFields.kinds key)
    (h : extract? text = some (.obj (Json.placeMember key v rest)))
    (h' : extract? text' = some (.obj rest)) :
    plan text = plan text' ↔
      (firstKey? wrapperKeys (Json.placeMember key v rest) = some key → plan text' = []) := by
  rw [plan_of_extract? h, plan_of_extract? h', collect_placed "" hnone hunusable]
  split_ifs with hfirst
  · simp only [hfirst, forall_const, eq_comm]
    rfl
  · simp only [hfirst, false_imp_iff]

/-- A field that cannot be used counts as missing. The only exception are fields under one of several
    names, at the first of which a list or a plan is taken: if such a field comes first, what is under
    the other names is lost. -/
theorem unusable_as_missing (hnone : List.lookup key rest = none) :
    ((v.kind ∉ entryFields.kinds key →
        entryText? (.obj (Json.placeMember key v rest)) = entryText? (.obj rest)) ∧
      (v.kind ∉ hintFields.kinds key →
        hint? (.obj (Json.placeMember key v rest)) = hint? (.obj rest)) ∧
      (v.kind ∉ issueFields.kinds key →
        issueText? (.obj (Json.placeMember key v rest)) = issueText? (.obj rest)) ∧
      (v.kind ∉ fixFields.kinds key →
        listedFix? (.obj (Json.placeMember key v rest)) = listedFix? (.obj rest))) ∧
    ∀ text text', extract? text = some (.obj (Json.placeMember key v rest)) →
      extract? text' = some (.obj rest) →
        (v.kind ∉ analysisFields.kinds key → (analysis text = analysis text' ↔
          (firstKey? hintKeys (Json.placeMember key v rest) = some key → hints rest = []))) ∧
        (v.kind ∉ reviewFields.kinds key → (review text = review text' ↔
          (firstKey? fixKeys (Json.placeMember key v rest) = some key → fixes rest = []))) ∧
        (v.kind ∉ planFields.kinds key → (plan text = plan text' ↔
          (firstKey? wrapperKeys (Json.placeMember key v rest) = some key → plan text' = []))) :=
  ⟨⟨entryText?_placed hnone, hint?_placed hnone, issueText?_placed hnone, listedFix?_placed hnone⟩,
    fun _ _ h h' => ⟨fun hunusable => analysis_eq_iff hnone hunusable h h',
      fun hunusable => review_eq_iff hnone hunusable h h',
      fun hunusable => plan_eq_iff hnone hunusable h h'⟩⟩

end Answers

section Hidden

variable {members : Members}

theorem extract?_render_obj (h : Json.IsValue Json.maxDepth (.obj members)) :
    extract? (Json.render (.obj members)) = some (.obj members) :=
  extract?_of_parse? (by rw [Json.trim_render_obj, Json.parse?_render h])

/-- An object with a list of hints, some fixes and a list of paths, none of them under the first of
    its names. -/
def renamed : Members :=
  [("fileMappings", .arr [.obj [("source", .str "a"), ("target", .str "b")]]),
    ("fixedFiles", .obj [("a", .str "1")]), ("paths", .arr [.str "a"])]

theorem isValue_renamed : Json.IsValue Json.maxDepth (.obj renamed) := by
  have hhint : Json.IsValue 125 (.obj [("source", .str "a"), ("target", .str "b")]) := by
    refine .obj (by decide) fun m hm => ?_
    rcases List.mem_cons.mp hm with rfl | hm
    · exact .str 124 "a"
    · exact List.mem_singleton.mp hm ▸ .str 124 "b"
  refine .obj (by decide) fun m hm => ?_
  rcases List.mem_cons.mp hm with rfl | hm
  · exact .arr fun item hitem => List.mem_singleton.mp hitem ▸ hhint
  rcases List.mem_cons.mp hm with rfl | hm
  · exact .entry 125 "a" "1"
  · exact List.mem_singleton.mp hm ▸ .arr fun item hitem => List.mem_singleton.mp hitem ▸ .str 125 "a"

theorem extract?_renamed : extract? (Json.render (.obj renamed)) = some (.obj renamed) :=
  extract?_render_obj isValue_renamed

theorem extract?_renamed_placed (key : String) :
    extract? (Json.render (.obj (Json.placeMember key .null renamed))) =
      some (.obj (Json.placeMember key .null renamed)) :=
  extract?_render_obj (isValue_renamed.placed (.null 126))

/-- A `null` under the first name hides the paths under the last. -/
theorem unusable_as_missing_files :
    List.lookup "files" renamed = none ∧ Json.null.kind ∉ planFields.kinds "files" ∧
      plan (Json.render (.obj (Json.placeMember "files" .null renamed))) ≠
        plan (Json.render (.obj renamed)) := by
  have hnone : List.lookup "files" renamed = none := by decide
  have hplan := ((unusable_as_missing (v := .null) hnone).2 _ _ (extract?_renamed_placed "files")
    extract?_renamed).2.2 (by decide)
  refine ⟨hnone, by decide, fun hsame => ?_⟩
  have hnothing := hplan.mp hsame (by decide)
  rw [plan_of_extract? extract?_renamed] at hnothing
  exact absurd hnothing (by decide +kernel)

/-- Hints, fixes and paths are hidden by a `null`, so that none of the readers is tolerant. -/
theorem not_tolerates : ¬ Tolerates analysisFields analysis ∧ ¬ Tolerates reviewFields review ∧
    ¬ Tolerates planFields plan := by
  have hplaced := extract?_renamed_placed
  refine ⟨fun h => ?_, fun h => ?_, fun h => ?_⟩
  · have hnone : List.lookup "mappings" renamed = none := by decide
    have hsame := h hnone (hplaced "mappings") extract?_renamed (by decide)
    have hnothing := (analysis_eq_iff hnone (by decide) (hplaced "mappings") extract?_renamed).mp hsame
      (by decide)
    exact absurd (congrArg List.isEmpty hnothing) (by decide +kernel)
  · have hnone : List.lookup "fixes" renamed = none := by decide
    have hsame := h hnone (hplaced "fixes") extract?_renamed (by decide)
    have hnothing := (review_eq_iff hnone (by decide) (hplaced "fixes") extract?_renamed).mp hsame
      (by decide)
    exact absurd hnothing (by decide +kernel)
  · have hnone : List.lookup "files" renamed = none := by decide
    have hsame := h hnone (hplaced "files") extract?_renamed (by decide)
    have hnothing := (plan_eq_iff hnone (by decide) (hplaced "files") extract?_renamed).mp hsame
      (by decide)
    rw [plan_of_extract? extract?_renamed] at hnothing
    exact absurd hnothing (by decide +kernel)

end Hidden

end Answer

end Replatform
