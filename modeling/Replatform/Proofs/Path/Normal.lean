import Mathlib.Data.List.Induction
import Replatform.Proofs.Path

/-!
# Paths in Normal Form

Where one gets from a directory by going along a path. A directory is given by the names that
lead to it from the root. Going along a path takes one segment after the other: down into what
the segment names, up for `..`, nowhere for `.` and for what is between two slashes. There is
nothing above the root, so one who goes up from there stays.

Normalization does the same on a stack, which is the list of names from its other end
(`reverse_foldl_step`), and it starts at the root. Walks are the better form to reason about, since
they can be put together: to go along `a/b` is to go along `a` and from there along `b`
(`walk_slash`). What a specifier in a file denotes is then the path of the place where a walk
along it from the directory of the file ends (`resolve_eq`).

A path in normal form and the list of the names in it are two ways to write down one place. Either
can be had from the other: the names are the segments of the path (`normalSegments_ofSegments`),
and two normal forms with the same names are the same path (`IsNormal.eq_of_names_eq`).

With the names at hand, the ancestors of a path can be read off. What lies above a path in normal
form are the beginnings of its list of names, apart from the empty one and the whole list, and
nothing else does, whatever string one asks about (`isBelow_iff_extends`).

## Main definitions

* `Path.move`: One segment of a walk.
* `Path.walk`: Where one gets from a directory along a path.
* `Path.place`: Where a specifier in a file leads.
* `Path.Extends`: A list of names goes on behind another one.
* `Path.IsProper`, `Path.parts`: The segments that name something, and those of a path.
* `Path.normals`: The places that some paths denote, without the root.

## Theorems

* `normalSegments_eq_walk`: A normal form is the end of a walk from the root.
* `walk_slash`: Walks can be put together.
* `isName_of_mem_walk`: A walk among names ends among names.
* `resolve_eq`: What a specifier denotes.
* `ofSegments_eq_empty_iff`, `ofSegments_concat`: The path that names lead along.
* `normalSegments_ofSegments`: The names of the path that names lead along.
* `isNormal_normalize`: A normal form is in normal form.
* `IsNormal.segments_eq`: The segments of a path in normal form are its names.
* `isBelow_iff_extends`: What lies above a path in normal form.
* `isNormal_iff`: What a path in normal form is made of.
* `join_join`, `normalize_slash`: Paths that are joined one after the other.
* `normalize_join_laws`: What normalizing and joining do to any strings.
* `mem_normals_iff`: A path among the normal forms, by its names.
-/

namespace Replatform

namespace Path

/-- Where one gets from a directory by one segment. -/
def move (dir : List String) (segment : String) : List String :=
  if segment = "" ∨ segment = "." then dir
  else if segment = ".." then dir.dropLast
  else dir ++ [segment]

/-- Where one gets from a directory along a path. -/
def walk (dir : List String) (path : String) : List String :=
  (segments path).foldl move dir

theorem reverse_step (stack : List String) (segment : String) :
    (step stack segment).reverse = move stack.reverse segment := by
  unfold step move
  by_cases hskip : segment = "" ∨ segment = "."
  · rw [if_pos hskip, if_pos hskip]
  · rw [if_neg hskip, if_neg hskip]
    by_cases hup : segment = ".."
    · rw [if_pos hup, if_pos hup, List.dropLast_reverse]
    · rw [if_neg hup, if_neg hup, List.reverse_cons]

/-- The stack of a normalization is the walk read from its end. -/
theorem reverse_foldl_step (segs stack : List String) :
    (segs.foldl step stack).reverse = segs.foldl move stack.reverse := by
  induction segs generalizing stack with
  | nil => rfl
  | cons segment segs ih => rw [List.foldl_cons, List.foldl_cons, ih, reverse_step]

/-- A normal form is the end of a walk from the root. -/
theorem normalSegments_eq_walk (path : String) : normalSegments path = walk [] path := by
  rw [normalSegments, reverse_foldl_step, List.reverse_nil, walk]

theorem segments_slash (a b : String) : segments (a ++ "/" ++ b) = segments a ++ segments b := by
  have hslash : (a ++ "/" ++ b).toList = a.toList ++ '/' :: b.toList := by
    rw [String.toList_append, String.toList_append, List.append_assoc]
    rfl
  rw [segments, segments, segments, hslash, List.splitOn_append_cons_self, List.map_append]

/-- To go along two paths with a slash between them is to go along one and then the other. -/
theorem walk_slash (dir : List String) (a b : String) :
    walk dir (a ++ "/" ++ b) = walk (walk dir a) b := by
  rw [walk, segments_slash, List.foldl_append]
  rfl

/-- A walk among names ends among names. -/
theorem isName_of_mem_walk {dir : List String} (hdir : ∀ name ∈ dir, IsName name) {path name : String}
    (h : name ∈ walk dir path) : IsName name := by
  -- The names from the root are those on the stack of a normalization that starts with them.
  have hstack : ∀ name ∈ dir.reverse, IsName name := by
    intro name hname
    exact hdir name (List.mem_reverse.mp hname)
  rw [walk, ← List.reverse_reverse dir, ← reverse_foldl_step, List.mem_reverse] at h
  exact isName_of_mem_foldl_step (fun _ => not_mem_of_mem_segments) hstack h

/-- Where a specifier in a file leads: where one gets along it from the directory of the file. -/
def place (file specifier : String) : List String :=
  walk (normalSegments (dir file)) specifier

theorem isName_of_mem_place {file specifier name : String} (h : name ∈ place file specifier) :
    IsName name :=
  isName_of_mem_walk (fun _ => isName_of_mem_normalSegments) h

/-- A path that is joined to a directory leads where a walk along it from there ends. -/
theorem join_eq (base rel : String) : join base rel = ofSegments (walk (normalSegments base) rel) := by
  unfold join
  by_cases hroot : base = ""
  · have hnone : normalSegments "" = [] := rfl
    rw [if_pos hroot, hroot, hnone, normalize, normalSegments_eq_walk]
  · rw [if_neg hroot, normalize, normalSegments_eq_walk, walk_slash, ← normalSegments_eq_walk]

/-- What a specifier in a file denotes is the path of the place where it leads. -/
theorem resolve_eq (file specifier : String) :
    resolve file specifier = ofSegments (place file specifier) :=
  join_eq (dir file) specifier

/-- Only the root has the empty path. -/
theorem ofSegments_eq_empty_iff {names : List String} (h : ∀ name ∈ names, IsName name) :
    ofSegments names = "" ↔ names = [] := by
  constructor
  · intro hempty
    cases names with
    | nil => rfl
    | cons name names =>
        have hname := h name List.mem_cons_self
        have hlist := congrArg String.toList hempty
        rw [ofSegments, String.toList_ofList, String.toList_empty, List.map_cons] at hlist
        -- The path begins with the first name, which is not empty.
        cases names with
        | nil =>
            rw [List.map_nil, List.intercalate_singleton, String.toList_eq_nil_iff] at hlist
            exact absurd hlist hname.1.1
        | cons next names =>
            rw [List.map_cons, List.intercalate_cons_cons, List.append_assoc,
              List.append_eq_nil_iff, String.toList_eq_nil_iff] at hlist
            exact absurd hlist.1 hname.1.1
  · rintro rfl
    rfl

theorem ofSegments_singleton (name : String) : ofSegments [name] = name := by
  rw [ofSegments, List.map_singleton, List.intercalate_singleton, String.ofList_toList]

/-- The path of an entry of a directory other than the root. -/
theorem ofSegments_concat {names : List String} (h : names ≠ []) (last : String) :
    ofSegments (names ++ [last]) = ofSegments names ++ "/" ++ last := by
  have hparts : names.map String.toList ≠ [] := by
    rwa [ne_eq, List.map_eq_nil_iff]
  rw [← String.toList_inj, ofSegments, String.toList_ofList, List.map_append, List.map_singleton,
    intercalate_concat _ hparts, String.toList_append, String.toList_append, ofSegments,
    String.toList_ofList]
  rfl

/-- The segments of a path are names if it was made of names. -/
theorem segments_ofSegments {names : List String} (h : ∀ name ∈ names, IsName name)
    (hne : names ≠ []) : segments (ofSegments names) = names := by
  have hslash : ∀ part ∈ names.map String.toList, '/' ∉ part := by
    intro part hpart
    rcases List.mem_map.mp hpart with ⟨name, hname, rfl⟩
    exact (h name hname).2
  have hparts : names.map String.toList ≠ [] := by
    rwa [ne_eq, List.map_eq_nil_iff]
  rw [segments, ofSegments, String.toList_ofList, List.splitOn_intercalate '/' hslash hparts,
    List.map_map]
  exact (List.map_congr_left fun name _ => String.ofList_toList).trans (List.map_id names)

theorem ofSegments_segments (path : String) : ofSegments (segments path) = path := by
  have hparts : (segments path).map String.toList = path.toList.splitOn '/' := by
    rw [segments, List.map_map]
    exact (List.map_congr_left fun part _ => String.toList_ofList).trans (List.map_id _)
  rw [ofSegments, hparts, List.intercalate_splitOn, String.ofList_toList]

theorem segments_ne_nil (path : String) : segments path ≠ [] := by
  rw [segments, ne_eq, List.map_eq_nil_iff]
  exact List.splitOn_ne_nil '/' path.toList

/-- A walk along names goes down. -/
theorem foldl_move {names : List String} (h : ∀ name ∈ names, IsName name) (dir : List String) :
    names.foldl move dir = dir ++ names := by
  induction names generalizing dir with
  | nil => exact (List.append_nil dir).symm
  | cons name names ih =>
      rw [List.forall_mem_cons] at h
      rcases h.1 with ⟨⟨hempty, hdot, hup⟩, -⟩
      rw [List.foldl_cons, move, if_neg (not_or.mpr ⟨hempty, hdot⟩), if_neg hup, ih h.2,
        List.append_assoc, List.singleton_append]

/-- The names of the path that names lead along. -/
theorem normalSegments_ofSegments {names : List String} (h : ∀ name ∈ names, IsName name) :
    normalSegments (ofSegments names) = names := by
  by_cases hne : names = []
  · rw [hne]
    rfl
  · rw [normalSegments_eq_walk, walk, segments_ofSegments h hne, foldl_move h, List.nil_append]

theorem isNormal_ofSegments {names : List String} (h : ∀ name ∈ names, IsName name) :
    IsNormal (ofSegments names) := by
  rw [IsNormal, normalize, normalSegments_ofSegments h]

/-- A normal form is in normal form. -/
theorem isNormal_normalize (path : String) : IsNormal (normalize path) :=
  isNormal_ofSegments fun _ => isName_of_mem_normalSegments

theorem normalSegments_normalize (path : String) :
    normalSegments (normalize path) = normalSegments path :=
  normalSegments_ofSegments fun _ => isName_of_mem_normalSegments

variable {a b : String}

/-- Normal forms with the same names are the same path. -/
theorem IsNormal.eq_of_names_eq (ha : IsNormal a) (hb : IsNormal b)
    (h : normalSegments a = normalSegments b) : a = b := by
  calc a = ofSegments (normalSegments a) := ha.symm
    _ = ofSegments (normalSegments b) := congrArg ofSegments h
    _ = b := hb

theorem IsNormal.names_eq_nil_iff (ha : IsNormal a) : normalSegments a = [] ↔ a = "" := by
  have hpath : ofSegments (normalSegments a) = a := ha
  rw [← ofSegments_eq_empty_iff fun _ => isName_of_mem_normalSegments, hpath]

/-- The segments of a path in normal form are its names. -/
theorem IsNormal.segments_eq (ha : IsNormal a) (hne : a ≠ "") : segments a = normalSegments a := by
  have hpath : ofSegments (normalSegments a) = a := ha
  have hnames := ha.names_eq_nil_iff.not.mpr hne
  rw [← segments_ofSegments (fun _ => isName_of_mem_normalSegments) hnames, hpath]

theorem IsNormal.isName_of_mem_segments (ha : IsNormal a) (hne : a ≠ "") {segment : String}
    (h : segment ∈ segments a) : IsName segment := by
  rw [ha.segments_eq hne] at h
  exact isName_of_mem_normalSegments h

/-- A path in normal form is not at or below a directory that is called `.`. -/
theorem IsNormal.not_here (ha : IsNormal a) : a ≠ "." ∧ ¬ ['.', '/'] <+: a.toList := by
  -- Otherwise it would have a segment that is no name.
  have hdot : "." ∉ segments a := by
    by_cases hempty : a = ""
    · rw [hempty]
      decide
    · exact fun hmem => (ha.isName_of_mem_segments hempty hmem).1.2.1 rfl
  constructor
  · rintro rfl
    exact hdot (by decide)
  · rintro ⟨rest, hrest⟩
    have hpath : a = "." ++ "/" ++ String.ofList rest := by
      rw [← String.toList_inj, ← hrest, String.toList_append, String.toList_ofList]
      rfl
    rw [hpath, segments_slash] at hdot
    exact hdot (List.mem_append_left _ (by decide))

/-- A list of names goes on behind another one. -/
def Extends (names front : List String) : Prop :=
  front <+: names ∧ front ≠ names

instance (names front : List String) : Decidable (Extends names front) :=
  inferInstanceAs (Decidable (_ ∧ _))

theorem not_extends_self (names : List String) : ¬ Extends names names :=
  fun h => h.2 rfl

theorem extends_nil {names : List String} (h : names ≠ []) : Extends names [] :=
  ⟨List.nil_prefix, h.symm⟩

theorem not_nil_extends (front : List String) : ¬ Extends [] front :=
  fun h => h.2 (List.prefix_nil.mp h.1)

theorem cons_extends_cons {name name' : String} {names front : List String} :
    Extends (name :: names) (name' :: front) ↔ name' = name ∧ Extends names front := by
  unfold Extends
  rw [List.cons_prefix_cons, ne_eq, List.cons.injEq]
  constructor
  · rintro ⟨⟨hname, hfront⟩, hne⟩
    exact ⟨hname, hfront, fun h => hne ⟨hname, h⟩⟩
  · rintro ⟨hname, hfront, hne⟩
    exact ⟨⟨hname, hfront⟩, fun h => hne h.2⟩

/-- The path that names lead along lies below the one that the first of them lead along. -/
theorem isBelow_ofSegments_append {front back : List String} (hfront : front ≠ [])
    (hback : back ≠ []) : isBelow (ofSegments front) (ofSegments (front ++ back)) = true := by
  -- One name more leads one level further down.
  induction back using List.reverseRecOn with
  | nil => exact absurd rfl hback
  | append_singleton back last ih =>
      have hne : front ++ back ≠ [] := List.append_ne_nil_of_left_ne_nil hfront back
      have hlast : isBelow (ofSegments (front ++ back)) (ofSegments (front ++ back ++ [last])) =
          true := by
        rw [ofSegments_concat hne, isBelow_iff]
        exact ⟨last.toList, by rw [String.toList_append, String.toList_append, List.append_assoc]; rfl⟩
      rw [← List.append_assoc]
      by_cases hnone : back = []
      · rw [hnone, List.append_nil] at hlast ⊢
        exact hlast
      · exact isBelow_trans (ih hnone) hlast

/-- The segments of what lies above a path in normal form begin its list of names. -/
theorem exists_segments_of_isBelow (hb : IsNormal b) (h : isBelow a b = true) :
    ∃ back, back ≠ [] ∧ normalSegments b = segments a ++ back := by
  rcases (isBelow_iff a b).mp h with ⟨rest, hrest⟩
  have hlist : (String.ofList rest).toList = rest := String.toList_ofList
  have hpath : b = a ++ "/" ++ String.ofList rest := by
    rw [← String.toList_inj, hrest, String.toList_append, String.toList_append, hlist,
      List.append_assoc]
    rfl
  have hne : normalSegments b ≠ [] := by
    rw [ne_eq, hb.names_eq_nil_iff]
    rintro rfl
    exact absurd hrest.symm (List.append_ne_nil_of_right_ne_nil _ (List.cons_ne_nil _ _))
  refine ⟨segments (String.ofList rest), segments_ne_nil _, ?_⟩
  rw [← segments_slash, ← hpath,
    ← segments_ofSegments (fun _ => isName_of_mem_normalSegments) hne]
  exact congrArg segments hb

/-- What lies above a path in normal form are the beginnings of its names. -/
theorem isBelow_iff_extends (hb : IsNormal b) :
    isBelow a b = true ↔ IsNormal a ∧ a ≠ "" ∧ Extends (normalSegments b) (normalSegments a) := by
  constructor
  · intro hbelow
    rcases exists_segments_of_isBelow hb hbelow with ⟨back, hback, hnames⟩
    -- The segments of the ancestor are names, since those of the path are.
    have hfront : ∀ name ∈ segments a, IsName name := by
      intro name hname
      have hmem : name ∈ normalSegments b := hnames ▸ List.mem_append_left back hname
      exact isName_of_mem_normalSegments hmem
    have hsame : normalSegments a = segments a := by
      rw [← normalSegments_ofSegments hfront, ofSegments_segments]
    refine ⟨?_, ?_, ?_, ?_⟩
    · rw [← ofSegments_segments a]
      exact isNormal_ofSegments hfront
    · rw [← ofSegments_segments a, ne_eq, ofSegments_eq_empty_iff hfront]
      exact segments_ne_nil a
    · rw [hsame, hnames]
      exact List.prefix_append _ _
    · rw [hsame, hnames, ne_eq, List.self_eq_append_right]
      exact hback
  · rintro ⟨ha, hempty, ⟨back, hback⟩, hne⟩
    have hpatha : ofSegments (normalSegments a) = a := ha
    have hpathb : ofSegments (normalSegments b) = b := hb
    have hfront : normalSegments a ≠ [] := fun hnil => hempty (ha.names_eq_nil_iff.mp hnil)
    have hrest : back ≠ [] := by
      rintro rfl
      rw [List.append_nil] at hback
      exact hne hback
    have hbelow := isBelow_ofSegments_append hfront hrest
    rw [hback, hpatha, hpathb] at hbelow
    exact hbelow

section Laws

/-- The segment names something: it is not empty and neither `.` nor `..`. -/
def IsProper (segment : String) : Prop :=
  segment ≠ "" ∧ segment ≠ "." ∧ segment ≠ ".."

/-- The segments of a path, of which the root has none. -/
def parts (path : String) : List String :=
  if path = "" then [] else segments path

theorem parts_normalize (path : String) : parts (normalize path) = normalSegments path := by
  have hnormal := isNormal_normalize path
  rw [parts, ← normalSegments_normalize]
  by_cases hroot : normalize path = ""
  · rw [if_pos hroot, hnormal.names_eq_nil_iff.mpr hroot]
  · rw [if_neg hroot, hnormal.segments_eq hroot]

/-- A path is its own normal form if it is that of the root or made of proper segments only. -/
theorem isNormal_iff (path : String) :
    IsNormal path ↔ path = "" ∨ ∀ segment ∈ segments path, IsProper segment := by
  constructor
  · intro hnormal
    by_cases hroot : path = ""
    · exact Or.inl hroot
    · exact Or.inr fun segment hsegment => (hnormal.isName_of_mem_segments hroot hsegment).1
  · rintro (rfl | hproper)
    · rfl
    · rw [← ofSegments_segments path]
      exact isNormal_ofSegments fun segment hsegment =>
        ⟨hproper segment hsegment, not_mem_of_mem_segments hsegment⟩

theorem normalSegments_join (base rel : String) :
    normalSegments (join base rel) = walk (normalSegments base) rel := by
  rw [join_eq]
  exact normalSegments_ofSegments fun _ => isName_of_mem_walk fun _ => isName_of_mem_normalSegments

theorem join_normalize (base rel : String) : join (normalize base) rel = join base rel := by
  rw [join_eq, join_eq, normalSegments_normalize]

/-- To join one path after the other is to join them both at once. -/
theorem join_join (a b c : String) : join (join a b) c = join a (b ++ "/" ++ c) := by
  rw [join_eq (join a b) c, normalSegments_join, join_eq a (b ++ "/" ++ c), walk_slash]

/-- The normal form of two paths with a slash between them: the segments of the second are taken one
    after the other, from where the first one leads. -/
theorem normalize_slash (a b : String) :
    normalize (a ++ "/" ++ b) = ofSegments ((segments b).foldl move (parts (normalize a))) := by
  rw [normalize, normalSegments_eq_walk, walk_slash, ← normalSegments_eq_walk, parts_normalize]
  rfl

/-- What normalizing and joining do to any strings. -/
theorem normalize_join_laws (path a b c : String) :
    normalize (normalize path) = normalize path ∧
      (∀ segment ∈ parts (normalize path), IsProper segment) ∧
      (normalize path = path ↔ path = "" ∨ ∀ segment ∈ segments path, IsProper segment) ∧
      join a b = join (normalize a) b ∧
      join (join a b) c = join a (b ++ "/" ++ c) ∧
      normalize (a ++ "/" ++ b) = ofSegments ((segments b).foldl move (parts (normalize a))) := by
  refine ⟨isNormal_normalize path, fun segment hsegment => ?_, isNormal_iff path,
    (join_normalize a b).symm, join_join a b c, normalize_slash a b⟩
  rw [parts_normalize] at hsegment
  exact (isName_of_mem_normalSegments hsegment).1

/-- A right operand must not be normalized before it is joined: it may lead out of where it starts. -/
example : join "a" "../b" = "b" ∧ join "a" (normalize "../b") = "a/b" := by
  decide +kernel

end Laws

/-- The places that some paths denote, without the root. -/
def normals (paths : List String) : List String :=
  (paths.map normalize).filter (· ≠ "")

theorem normals_eq_self {paths : List String} (h : ∀ path ∈ paths, IsNormal path ∧ path ≠ "") :
    normals paths = paths := by
  have hsame : paths.map normalize = paths := by
    rw [List.map_congr_left fun path hpath => (h path hpath).1, List.map_id']
  rw [normals, hsame, List.filter_eq_self]
  exact fun path hpath => decide_eq_true (h path hpath).2

theorem mem_normals_iff {path : String} {paths : List String} :
    path ∈ normals paths ↔
      IsNormal path ∧ path ≠ "" ∧ normalSegments path ∈ paths.map normalSegments := by
  simp only [normals, List.mem_filter, List.mem_map, ne_eq, decide_eq_true_eq]
  constructor
  · rintro ⟨⟨raw, hraw, rfl⟩, hne⟩
    exact ⟨isNormal_normalize raw, hne, raw, hraw, (normalSegments_normalize raw).symm⟩
  · rintro ⟨hnormal, hne, raw, hraw, hnames⟩
    refine ⟨⟨raw, hraw, (isNormal_normalize raw).eq_of_names_eq hnormal ?_⟩, hne⟩
    rw [normalSegments_normalize, hnames]

/-- A path lies above one of the normal forms if the names of one of them go on behind its own. -/
theorem exists_isBelow_iff {path : String} {paths : List String} :
    (∃ q ∈ normals paths, isBelow path q = true) ↔
      IsNormal path ∧ path ≠ "" ∧
        ∃ names ∈ paths.map normalSegments, Extends names (normalSegments path) := by
  constructor
  · rintro ⟨q, hq, hbelow⟩
    rcases mem_normals_iff.mp hq with ⟨hnormal, -, hnames⟩
    rcases (isBelow_iff_extends hnormal).mp hbelow with ⟨hpath, hne, hextends⟩
    exact ⟨hpath, hne, _, hnames, hextends⟩
  · rintro ⟨hpath, hne, names, hmem, hextends⟩
    rcases List.mem_map.mp hmem with ⟨raw, hraw, rfl⟩
    have hnormal := isNormal_normalize raw
    rw [← normalSegments_normalize] at hmem hextends
    refine ⟨normalize raw, mem_normals_iff.mpr ⟨hnormal, fun hempty => ?_, hmem⟩, ?_⟩
    · -- Nothing lies above the root.
      rw [hnormal.names_eq_nil_iff.mpr hempty] at hextends
      exact not_nil_extends _ hextends
    · exact (isBelow_iff_extends hnormal).mpr ⟨hpath, hne, hextends⟩

end Path

end Replatform
