import Replatform.Answer.Plan
import Replatform.Proofs.Json.Members
import Replatform.Proofs.Path.Normal
import Replatform.Proofs.Table
import Replatform.Proofs.Text

/-!
# Reading a Plan

The paths in a plan are collected object by object, and then cleaned.

An object is a wrapper, a directory with a list of children, or a leaf, and the equations here say
what is collected from each. They are all that has to be known about the traversal.

`IsClean` is what a path must be to come out of the cleaning as it is. The tests for directories and
for addresses of other sites need no clause of their own: A slash at the end and two slashes in a
row have nothing between or behind them, and a normal form has no empty segment.

## Main definitions

* `Answer.wrapperKey?`: The key under which a wrapper holds the plan.
* `Answer.label?`: What an object is called.
* `Answer.IsClean`: A path that cleaning leaves alone.

## Theorems

* `Answer.collect_arr`, `Answer.collect_wrapper`, `Answer.collect_unlabelled`,
  `Answer.collect_directory`, `Answer.collect_leaf`: What is collected from a value.
* `Answer.isClean_ofSegments`: Names that lead along a clean path.
* `Answer.cleanPath?_of_isClean`: A clean path is kept.
* `Answer.sanitize_of_isClean`: So are clean paths that differ.
-/

namespace Replatform

namespace Answer

/-- The key under which a wrapper holds the plan. -/
def wrapperKey? (members : Members) : Option String :=
  wrapperKeys.find? fun k => (List.lookup k members).isSome

/-- What an object is called: its path, or else its name. -/
def label? (members : Members) : Option String :=
  (textField? members ["path"]).or (textField? members ["name"])

/-- A text that is a value as a whole is taken as such. -/
theorem extract?_of_parse? {text : String} {v : Json} (h : Json.parse? (Text.trim text) = some v) :
    extract? text = some v := by
  rw [extract?, h]
  rfl

theorem plan_of_extract? {text : String} {v : Json} (h : extract? text = some v) :
    plan text = sanitize (collect "" v) := by
  unfold plan
  -- The search for the value is not to be run.
  generalize extract? text = found at h
  rw [h]

section Collect

variable {base key last : String} {members : Members} {items : List Json}

theorem collectAll_eq (base : String) (items : List Json) :
    collectAll base items = items.flatMap (collect base) := by
  induction items with
  | nil => rw [collectAll, List.flatMap_nil]
  | cons item items ih => rw [collectAll, ih, List.flatMap_cons]

theorem collectField_eq (base key : String) (members : Members) :
    collectField base key members = (List.lookup key members).elim [] (collect base) := by
  induction members with
  | nil => rw [collectField, List.lookup_nil, Option.elim_none]
  | cons m members ih =>
      rw [collectField, ih, Json.lookup_cons]
      by_cases hkey : m.1 = key
      · rw [if_pos hkey, if_pos hkey.symm, Option.elim_some]
      · rw [if_neg hkey, if_neg fun h => hkey h.symm]

theorem collect_str (base s : String) : collect base (.str s) = [under base s] := by
  rw [collect]

theorem collect_arr (base : String) (items : List Json) :
    collect base (.arr items) = items.flatMap (collect base) := by
  rw [collect, collectAll_eq]

/-- A wrapper is looked through. -/
theorem collect_wrapper (hkey : wrapperKey? members = some key) :
    collect base (.obj members) = (List.lookup key members).elim [] (collect base) := by
  unfold wrapperKey? at hkey
  rw [collect, hkey]
  exact collectField_eq base key members

/-- An object without a label holds nothing. -/
theorem collect_unlabelled (hkey : wrapperKey? members = none) (hlabel : label? members = none) :
    collect base (.obj members) = [] := by
  unfold wrapperKey? at hkey
  unfold label? at hlabel
  rw [collect, hkey]
  simp only [hlabel]

/-- Children stand below an object if it is called by its name, and below nothing if it has a
    path. -/
theorem collect_directory (hkey : wrapperKey? members = none) (hlabel : label? members = some last)
    (hchildren : List.lookup "children" members = some (.arr items)) :
    collect base (.obj members) = items.flatMap
      (collect (if (textField? members ["path"]).isSome then "" else under base last)) := by
  unfold wrapperKey? at hkey
  unfold label? at hlabel
  rw [collect, hkey]
  simp only [hlabel, hchildren, collectField_eq, Option.elim_some, collect_arr]

/-- An object without children is a leaf, unless it says that it is a directory. -/
theorem collect_leaf (hkey : wrapperKey? members = none) (hlabel : label? members = some last)
    (hchildren : ∀ items, List.lookup "children" members ≠ some (.arr items)) :
    collect base (.obj members) =
      if (List.lookup "type" members).bind Json.str? = some "directory" then []
      else [under base last] := by
  unfold wrapperKey? at hkey
  unfold label? at hlabel
  rw [collect, hkey]
  simp only [hlabel]

end Collect

/-- A path that cleaning leaves alone. -/
structure IsClean (path : String) : Prop where
  normal : Path.IsNormal path
  nonempty : path ≠ ""
  trimmed : Text.trim path = path
  slashes : '\\' ∉ path.toList

section Segments

variable {path : String}

/-- There is something between two slashes of a normal form, and at both of its ends. -/
theorem not_mem_segments_of_isNormal (h : Path.IsNormal path) (hne : path ≠ "") :
    "" ∉ Path.segments path :=
  fun hmem => (h.isName_of_mem_segments hne hmem).1.1 rfl

theorem endsWith_slash_eq_false (h : Path.IsNormal path) (hne : path ≠ "") :
    Text.endsWith path "/" = false := by
  rw [Bool.eq_false_iff, ne_eq, Text.endsWith, List.isSuffixOf_iff_suffix]
  rintro ⟨before, hbefore⟩
  refine not_mem_segments_of_isNormal h hne ?_
  have hpath : path = String.ofList before ++ "/" ++ "" := by
    rw [← String.toList_inj, ← hbefore]
    simp
  rw [hpath, Path.segments_slash]
  exact List.mem_append_right _ (by decide)

theorem contains_address_eq_false (h : Path.IsNormal path) (hne : path ≠ "") :
    Text.contains path "://" = false := by
  rw [Bool.eq_false_iff, ne_eq, Text.contains_iff]
  rintro ⟨before, after, hinfix⟩
  refine not_mem_segments_of_isNormal h hne ?_
  -- The segment between the two slashes is empty.
  have hpath : path =
      String.ofList (before ++ [':']) ++ "/" ++ ("" ++ "/" ++ String.ofList after) := by
    rw [← String.toList_inj, ← hinfix]
    simp
  rw [hpath, Path.segments_slash, Path.segments_slash]
  exact List.mem_append_right _ (List.mem_append_left _ (by decide))

end Segments

section Names

variable {names : List String}

/-- The path that names lead along is trimmed if they are. -/
theorem trim_ofSegments (h : ∀ name ∈ names, Text.trim name = name) :
    Text.trim (Path.ofSegments names) = Path.ofSegments names := by
  have hstrip : ∀ {s : String}, Text.trim s = s → Text.strip s.toList = s.toList := by
    intro s hs
    rw [← String.toList_inj, Text.trim, String.toList_ofList] at hs
    exact hs
  induction names using List.reverseRecOn with
  | nil => rfl
  | append_singleton names last ih =>
      rw [List.forall_mem_append, List.forall_mem_singleton] at h
      by_cases hnone : names = []
      · rw [hnone, List.nil_append, Path.ofSegments_singleton, h.2]
      · have hlist : (Path.ofSegments names ++ "/" ++ last).toList =
            (Path.ofSegments names).toList ++ '/' :: last.toList := by
          rw [String.toList_append, String.toList_append, List.append_assoc]
          rfl
        rw [Path.ofSegments_concat hnone, ← String.toList_inj, Text.trim, String.toList_ofList,
          hlist]
        exact Text.strip_append_cons (by decide) (hstrip (ih h.1)) (hstrip h.2)

theorem not_mem_ofSegments {c : Char} (hc : c ≠ '/') (h : ∀ name ∈ names, c ∉ name.toList) :
    c ∉ (Path.ofSegments names).toList := by
  rw [Path.ofSegments, String.toList_ofList]
  induction names with
  | nil => exact List.not_mem_nil
  | cons name names ih =>
      rw [List.forall_mem_cons] at h
      cases names with
      | nil =>
          rw [List.map_singleton, List.intercalate_singleton]
          exact h.1
      | cons next names =>
          rw [List.map_cons, List.map_cons, List.intercalate_cons_cons, List.append_assoc,
            List.mem_append, List.mem_append, List.mem_singleton]
          rintro (hmem | hmem | hmem)
          · exact h.1 hmem
          · exact hc hmem
          · exact ih h.2 hmem

/-- Names that are trimmed and have no backslashes lead along a clean path. -/
theorem isClean_ofSegments (hne : names ≠ []) (hnames : ∀ name ∈ names, Path.IsName name)
    (htrimmed : ∀ name ∈ names, Text.trim name = name)
    (hslashes : ∀ name ∈ names, '\\' ∉ name.toList) : IsClean (Path.ofSegments names) where
  normal := Path.isNormal_ofSegments hnames
  nonempty := (Path.ofSegments_eq_empty_iff hnames).not.mpr hne
  trimmed := trim_ofSegments htrimmed
  slashes := not_mem_ofSegments (by decide) hslashes

end Names

/-- A clean path is kept. -/
theorem cleanPath?_of_isClean {path : String} (h : IsClean path) : cleanPath? path = some path := by
  have hslashes : (Text.trim path).map (fun c => if c == '\\' then '/' else c) = path := by
    have hchar : ∀ c ∈ path.toList, (if c == '\\' then '/' else c) = c := by
      intro c hc
      rw [if_neg]
      rw [beq_iff_eq]
      exact fun heq => h.slashes (heq ▸ hc)
    rw [h.trimmed, ← String.toList_inj, String.toList_map, List.map_congr_left hchar, List.map_id']
  have hkept : ¬ (path = "" ∨ Text.endsWith path "/" = true ∨ Text.contains path "://" = true) := by
    rw [endsWith_slash_eq_false h.normal h.nonempty, contains_address_eq_false h.normal h.nonempty]
    simp [h.nonempty]
  have hnormal : Path.normalize path = path := h.normal
  simp only [cleanPath?, hslashes, if_neg hkept, hnormal, if_neg h.nonempty]

theorem filterMap_cleanPath? {paths : List String} (h : ∀ path ∈ paths, IsClean path) :
    paths.filterMap cleanPath? = paths := by
  induction paths with
  | nil => rfl
  | cons path paths ih =>
      rw [List.forall_mem_cons] at h
      rw [List.filterMap_cons_some (cleanPath?_of_isClean h.1), ih h.2]

/-- Clean paths that differ are kept in their order. -/
theorem sanitize_of_isClean {paths : List String} (h : ∀ path ∈ paths, IsClean path)
    (hnodup : paths.Nodup) : sanitize paths = paths := by
  rw [sanitize, filterMap_cleanPath? h, eraseDups_of_nodup hnodup]

end Answer

end Replatform
