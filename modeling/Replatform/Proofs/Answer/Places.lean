import Mathlib.Tactic.SplitIfs
import Replatform.Proofs.Answer.Plan
import Replatform.Proofs.Json.Span
import Replatform.Proofs.Text

/-!
# Places in Nested Plans

Where the leaves of a nested plan are planned. A leaf stands below some objects that have a list of
children, and each of them leads somewhere: an object without a path leads further down by its name,
and one with a path leads back to the root, because what is below it is taken to have paths of its
own. Whether it has is not looked at. A leaf with a name only is planned where the names since the
last path above it lead, and there are none of these if it is the parent that has a path.

## Main definitions

* `Answer.HasLeaf`: A value has a leaf below some objects.
* `Answer.enter`: Where an object leads.
* `Answer.place?`: Where a leaf is planned.
* `Answer.trail`: The names since the last path.

## Theorems

* `Answer.mem_plan_iff`: What is planned are the places of the leaves.
* `Answer.place?_of_name`: The place of a leaf with a name only.
* `Answer.plan_leaf_by_name`: Where such a leaf is planned.
-/

namespace Replatform

namespace Answer

/-- A value has a leaf below some objects, of which the outermost is the first. Lists and wrappers
    are looked through. -/
inductive HasLeaf : Json → List Members → Json → Prop where
  | text (s : String) : HasLeaf (.str s) [] (.str s)
  | file {members : Members} {last : String} (hkey : wrapperKey? members = none)
      (hlabel : label? members = some last)
      (hchildren : ∀ items, List.lookup "children" members ≠ some (.arr items))
      (htype : (List.lookup "type" members).bind Json.str? ≠ some "directory") :
      HasLeaf (.obj members) [] (.obj members)
  | item {items : List Json} {item leaf : Json} {dirs : List Members} (hitem : item ∈ items)
      (hleaf : HasLeaf item dirs leaf) : HasLeaf (.arr items) dirs leaf
  | wrapper {members : Members} {key : String} {value leaf : Json} {dirs : List Members}
      (hkey : wrapperKey? members = some key) (hvalue : List.lookup key members = some value)
      (hleaf : HasLeaf value dirs leaf) : HasLeaf (.obj members) dirs leaf
  | directory {members : Members} {last : String} {items : List Json} {leaf : Json}
      {dirs : List Members} (hkey : wrapperKey? members = none)
      (hlabel : label? members = some last)
      (hchildren : List.lookup "children" members = some (.arr items))
      (hleaf : HasLeaf (.arr items) dirs leaf) : HasLeaf (.obj members) (members :: dirs) leaf

/-- What a leaf is called. -/
def called? : Json → Option String
  | .str s => some s
  | .obj members => label? members
  | _ => none

/-- Where an object leads that has children. -/
def enter (base : String) (dir : Members) : String :=
  if (textField? dir ["path"]).isSome then "" else under base ((textField? dir ["name"]).getD "")

/-- Where a leaf below some objects is planned. -/
def place? (dirs : List Members) (leaf : Json) : Option String :=
  (called? leaf).bind fun last => cleanPath? (under (dirs.foldl enter "") last)

/-- The names by which objects lead away from the last of them that has a path. -/
def trail (dirs : List Members) : List String :=
  dirs.foldl (fun names dir =>
    if (textField? dir ["path"]).isSome then []
    else names ++ [(textField? dir ["name"]).getD ""]) []

section Leaves

variable {base raw last : String} {members : Members} {dirs : List Members} {v leaf : Json}

theorem enter_eq (h : label? members = some last) :
    (if (textField? members ["path"]).isSome then "" else under base last) =
      enter base members := by
  unfold label? at h
  unfold enter
  cases hpath : textField? members ["path"] with
  | some path => rfl
  | none =>
      rw [hpath, Option.none_or] at h
      rw [h]
      rfl

/-- A leaf is collected at the place to which the objects above it lead. -/
theorem mem_collect_of_hasLeaf (h : HasLeaf v dirs leaf) (hcalled : called? leaf = some last)
    (base : String) : under (dirs.foldl enter base) last ∈ collect base v := by
  induction h generalizing base with
  | text s =>
      rw [collect_str, Option.some.inj hcalled]
      exact List.mem_singleton_self _
  | file hkey hlabel hchildren htype =>
      rw [collect_leaf hkey hcalled hchildren, if_neg htype]
      exact List.mem_singleton_self _
  | item hitem _ ih =>
      rw [collect_arr]
      exact List.mem_flatMap_of_mem hitem (ih hcalled base)
  | wrapper hkey hvalue _ ih =>
      rw [collect_wrapper hkey, hvalue]
      exact ih hcalled base
  | directory hkey hlabel hchildren _ ih =>
      rw [collect_directory hkey hlabel hchildren, enter_eq hlabel, ← collect_arr, List.foldl_cons]
      exact ih hcalled _

/-- What is collected comes from a leaf. -/
theorem exists_hasLeaf_of_mem_collect (h : raw ∈ collect base v) :
    ∃ dirs leaf last, HasLeaf v dirs leaf ∧ called? leaf = some last ∧
      raw = under (dirs.foldl enter base) last := by
  induction v using Json.induction generalizing base with
  | null => exact absurd h List.not_mem_nil
  | bool b => exact absurd h List.not_mem_nil
  | int n => exact absurd h List.not_mem_nil
  | float x => exact absurd h List.not_mem_nil
  | str s =>
      rw [collect_str] at h
      exact ⟨[], .str s, s, .text s, rfl, List.mem_singleton.mp h⟩
  | arr items ih =>
      rw [collect_arr] at h
      rcases List.mem_flatMap.mp h with ⟨item, hitem, h⟩
      rcases ih item hitem h with ⟨dirs, leaf, last, hleaf, hlast⟩
      exact ⟨dirs, leaf, last, .item hitem hleaf, hlast⟩
  | obj members ih =>
      cases hkey : wrapperKey? members with
      | some key =>
          rw [collect_wrapper hkey] at h
          cases hlookup : List.lookup key members with
          | none =>
              rw [hlookup] at h
              exact absurd h List.not_mem_nil
          | some value =>
              rw [hlookup] at h
              rcases ih _ (Json.mem_of_lookup hlookup) h with ⟨dirs, leaf, last, hleaf, hlast⟩
              exact ⟨dirs, leaf, last, .wrapper hkey hlookup hleaf, hlast⟩
      | none =>
          cases hlabel : label? members with
          | none =>
              rw [collect_unlabelled hkey hlabel] at h
              exact absurd h List.not_mem_nil
          | some called =>
              by_cases hchildren : ∃ items, List.lookup "children" members = some (.arr items)
              · rcases hchildren with ⟨items, hchildren⟩
                rw [collect_directory hkey hlabel hchildren, enter_eq hlabel, ← collect_arr] at h
                rcases ih _ (Json.mem_of_lookup hchildren) h with ⟨dirs, leaf, last, hleaf, hlast⟩
                exact ⟨members :: dirs, leaf, last, .directory hkey hlabel hchildren hleaf, hlast⟩
              · have hnone := not_exists.mp hchildren
                rw [collect_leaf hkey hlabel hnone] at h
                split_ifs at h with htype
                · exact absurd h List.not_mem_nil
                · exact ⟨[], .obj members, called, .file hkey hlabel hnone htype, hlabel,
                    List.mem_singleton.mp h⟩

end Leaves

section Names

variable {base name : String} {dir leaf : Members} {dirs : List Members} {names : List String}

/-- A name that leads from one directory to another: no separator of any kind is in it. -/
def IsPlain (name : String) : Prop :=
  Path.IsName name ∧ '\\' ∉ name.toList

theorem trim_of_textField? {keys : List String} {text : String}
    (h : textField? dir keys = some text) : Text.trim text = text := by
  rcases Option.map_eq_some_iff.mp h with ⟨raw, -, rfl⟩
  exact Text.trim_trim raw

theorem trail_concat_of_path (hpath : (textField? dir ["path"]).isSome = true) :
    trail (dirs ++ [dir]) = [] := by
  rw [trail, List.foldl_append, List.foldl_cons, List.foldl_nil, if_pos hpath]

theorem trail_concat_of_name (hpath : ¬ (textField? dir ["path"]).isSome = true) :
    trail (dirs ++ [dir]) = trail dirs ++ [(textField? dir ["name"]).getD ""] := by
  rw [trail, List.foldl_append, List.foldl_cons, List.foldl_nil, if_neg hpath, trail]

theorem trim_of_mem_trail : ∀ name ∈ trail dirs, Text.trim name = name := by
  induction dirs using List.reverseRecOn with
  | nil => exact nofun
  | append_singleton dirs dir ih =>
      by_cases hpath : (textField? dir ["path"]).isSome = true
      · rw [trail_concat_of_path hpath]
        exact nofun
      · rw [trail_concat_of_name hpath, List.forall_mem_append, List.forall_mem_singleton]
        refine ⟨ih, ?_⟩
        cases hname : textField? dir ["name"] with
        | none => rfl
        | some name => exact trim_of_textField? hname

/-- The path of an entry, whose directory is given by names. -/
theorem under_ofSegments (h : ∀ name ∈ names, Path.IsName name) (last : String) :
    under (Path.ofSegments names) last = Path.ofSegments (names ++ [last]) := by
  unfold under
  by_cases hnone : names = []
  · rw [if_pos ((Path.ofSegments_eq_empty_iff h).mpr hnone), hnone, List.nil_append,
      Path.ofSegments_singleton]
  · rw [if_neg ((Path.ofSegments_eq_empty_iff h).not.mpr hnone), Path.ofSegments_concat hnone]

/-- Objects lead to where the names lead since the last path. -/
theorem foldl_enter (h : ∀ name ∈ trail dirs, Path.IsName name) :
    dirs.foldl enter "" = Path.ofSegments (trail dirs) := by
  induction dirs using List.reverseRecOn with
  | nil => rfl
  | append_singleton dirs dir ih =>
      rw [List.foldl_append, List.foldl_cons, List.foldl_nil]
      by_cases hpath : (textField? dir ["path"]).isSome = true
      · rw [enter, if_pos hpath, trail_concat_of_path hpath]
        rfl
      · rw [trail_concat_of_name hpath, List.forall_mem_append] at h
        rw [enter, if_neg hpath, trail_concat_of_name hpath, ih h.1, under_ofSegments h.1]

/-- A leaf with a name only is planned where the names since the last path above it lead. -/
theorem place?_of_name (hpath : textField? leaf ["path"] = none)
    (hname : textField? leaf ["name"] = some name) (hplain : IsPlain name)
    (htrail : ∀ name ∈ trail dirs, IsPlain name) :
    place? dirs (.obj leaf) = some (Path.ofSegments (trail dirs ++ [name])) := by
  have hcalled : called? (.obj leaf) = some name := by
    rw [called?, label?, hpath, hname, Option.none_or]
  have hall : ∀ n ∈ trail dirs ++ [name], IsPlain n := by
    rw [List.forall_mem_append, List.forall_mem_singleton]
    exact ⟨htrail, hplain⟩
  have htrimmed : ∀ n ∈ trail dirs ++ [name], Text.trim n = n := by
    rw [List.forall_mem_append, List.forall_mem_singleton]
    exact ⟨trim_of_mem_trail, trim_of_textField? hname⟩
  have hnames := fun n hn => (htrail n hn).1
  have hne : trail dirs ++ [name] ≠ [] :=
    List.append_ne_nil_of_right_ne_nil _ (List.cons_ne_nil name [])
  have hclean := isClean_ofSegments hne (fun n hn => (hall n hn).1) htrimmed fun n hn =>
    (hall n hn).2
  rw [place?, hcalled, Option.bind_some, foldl_enter hnames, under_ofSegments hnames,
    cleanPath?_of_isClean hclean]

/-- An entry has the path of its name alone if and only if its directory is the root. -/
theorem normalize_slash_eq_iff (hname : Path.IsName name) (path : String) :
    Path.normalize (path ++ "/" ++ name) = name ↔ Path.normalize path = "" := by
  have hname' : ∀ n ∈ [name], Path.IsName n := List.forall_mem_singleton.mpr hname
  have hsame := Path.ofSegments_singleton name
  have hnames : Path.normalSegments (path ++ "/" ++ name) = Path.normalSegments path ++ [name] := by
    rw [Path.normalSegments_eq_walk, Path.walk_slash, ← Path.normalSegments_eq_walk, Path.walk,
      Path.segments_of_isName hname]
    exact Path.foldl_move hname' _
  constructor
  · intro h
    have hlist := congrArg Path.normalSegments h
    rw [Path.normalSegments_normalize, hnames, ← hsame, Path.normalSegments_ofSegments hname',
      hsame] at hlist
    rw [Path.normalize, List.append_left_eq_self.mp hlist]
    rfl
  · intro h
    have hroot := (Path.isNormal_normalize path).names_eq_nil_iff.mpr h
    rw [Path.normalSegments_normalize] at hroot
    rw [Path.normalize, hnames, hroot, List.nil_append, hsame]

end Names

/-- What is planned from a value are the places of its leaves. -/
theorem mem_plan_iff {text path : String} {v : Json} (h : extract? text = some v) :
    path ∈ plan text ↔ ∃ dirs leaf, HasLeaf v dirs leaf ∧ place? dirs leaf = some path := by
  have hplan : path ∈ plan text ↔ ∃ raw ∈ collect "" v, cleanPath? raw = some path := by
    rw [plan_of_extract? h, sanitize, List.mem_eraseDups, List.mem_filterMap]
  rw [hplan]
  constructor
  · rintro ⟨raw, hraw, hclean⟩
    rcases exists_hasLeaf_of_mem_collect hraw with ⟨dirs, leaf, last, hleaf, hcalled, rfl⟩
    exact ⟨dirs, leaf, hleaf, by rw [place?, hcalled, Option.bind_some, hclean]⟩
  · rintro ⟨dirs, leaf, hleaf, hplace⟩
    rcases Option.bind_eq_some_iff.mp hplace with ⟨last, hcalled, hclean⟩
    exact ⟨_, mem_collect_of_hasLeaf hleaf hcalled "", hclean⟩

/-- A leaf with a name only is planned where the names since the last path above it lead. Below an
    object with a path this is the name alone, whatever the path, and thus the normal form of the
    path with the name behind it if and only if the path is that of the root. -/
theorem plan_leaf_by_name {text name : String} {v : Json} {dirs : List Members} {leaf : Members}
    (h : extract? text = some v) (hleaf : HasLeaf v dirs (.obj leaf))
    (hpath : textField? leaf ["path"] = none) (hname : textField? leaf ["name"] = some name)
    (hplain : IsPlain name) :
    ((∀ n ∈ trail dirs, IsPlain n) → Path.ofSegments (trail dirs ++ [name]) ∈ plan text) ∧
      ∀ above parent path, dirs = above ++ [parent] → textField? parent ["path"] = some path →
        place? dirs (.obj leaf) = some name ∧ name ∈ plan text ∧
          (Path.normalize (path ++ "/" ++ name) = name ↔ Path.normalize path = "") := by
  have hplanned : ∀ path, place? dirs (.obj leaf) = some path → path ∈ plan text :=
    fun path hplace => (mem_plan_iff h).mpr ⟨dirs, .obj leaf, hleaf, hplace⟩
  refine ⟨fun htrail => hplanned _ (place?_of_name hpath hname hplain htrail), ?_⟩
  rintro above parent path rfl hparent
  have htrail : trail (above ++ [parent]) = [] :=
    trail_concat_of_path (by rw [hparent, Option.isSome_some])
  have hplace : place? (above ++ [parent]) (.obj leaf) = some name := by
    rw [place?_of_name hpath hname hplain (by rw [htrail]; exact nofun), htrail, List.nil_append,
      Path.ofSegments_singleton]
  exact ⟨hplace, hplanned _ hplace, normalize_slash_eq_iff hplain.1 path⟩

section Mixed

/-- A plan of one file, which has a name only, in a directory with a path. -/
def mixed : String :=
  "[\x7b\"children\":[\x7b\"name\":\"a.ts\"\x7d],\"path\":\"src\"\x7d]"

/-- The members of the file. -/
def mixedLeaf : Members :=
  [("name", .str "a.ts")]

/-- The members of the directory. -/
def mixedParent : Members :=
  [("children", .arr [.obj mixedLeaf]), ("path", .str "src")]

theorem extract?_mixed : extract? mixed = some (.arr [.obj mixedParent]) := by
  have hleaf : Json.IsValue 124 (.obj mixedLeaf) := .entry 123 "name" "a.ts"
  have hparent : Json.IsValue 126 (.obj mixedParent) := by
    refine .obj (by decide) fun m hm => ?_
    rcases List.mem_cons.mp hm with rfl | hm
    · exact .arr fun item hitem => List.mem_singleton.mp hitem ▸ hleaf
    · exact List.mem_singleton.mp hm ▸ .str 125 "src"
  have hvalue : Json.IsValue Json.maxDepth (.arr [.obj mixedParent]) :=
    .arr fun item hitem => List.mem_singleton.mp hitem ▸ hparent
  have htext : mixed = Json.render (.arr [.obj mixedParent]) := by
    decide +kernel
  refine extract?_of_parse? ?_
  rw [htext, Json.trim_render_arr, Json.parse?_render hvalue]

theorem hasLeaf_mixed : HasLeaf (.arr [.obj mixedParent]) [mixedParent] (.obj mixedLeaf) := by
  have hfile : label? mixedLeaf = some "a.ts" := by decide
  have hdirectory : label? mixedParent = some "src" := by decide
  have hleaf : HasLeaf (.obj mixedLeaf) [] (.obj mixedLeaf) :=
    .file (by decide) hfile (fun items => (nofun : none ≠ some (Json.arr items))) (by decide)
  refine .item List.mem_cons_self ?_
  exact .directory (by decide) hdirectory rfl (.item List.mem_cons_self hleaf)

theorem isPlain_mixed : IsPlain "a.ts" :=
  ⟨⟨by decide, by decide⟩, by decide⟩

/-- The file is planned at the root. -/
theorem plan_leaf_by_name_mixed :
    place? [mixedParent] (.obj mixedLeaf) = some "a.ts" ∧ "a.ts" ∈ plan mixed ∧
      (Path.normalize ("src" ++ "/" ++ "a.ts") = "a.ts" ↔ Path.normalize "src" = "") :=
  (plan_leaf_by_name extract?_mixed hasLeaf_mixed (by decide) (by decide) isPlain_mixed).2 []
    mixedParent "src" rfl (by decide)

/-- The directory of a leaf is lost if it has a path. -/
theorem not_planned_below_path : ¬ ∀ (text name path : String) (v : Json) (above : List Members)
    (parent leaf : Members), extract? text = some v →
      HasLeaf v (above ++ [parent]) (.obj leaf) → textField? parent ["path"] = some path →
      textField? leaf ["path"] = none → textField? leaf ["name"] = some name → IsPlain name →
      Path.normalize (path ++ "/" ++ name) ∈ plan text := by
  intro h
  have hmem := h mixed "a.ts" "src" _ [] mixedParent mixedLeaf extract?_mixed hasLeaf_mixed
    (by decide) (by decide) (by decide) isPlain_mixed
  rw [plan_of_extract? extract?_mixed] at hmem
  exact absurd hmem (by decide +kernel)

end Mixed

end Answer

end Replatform
