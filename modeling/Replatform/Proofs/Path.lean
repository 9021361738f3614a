import Mathlib.Tactic.SplitIfs
import Replatform.Tree.Build

/-!
# Names and the Paths Made of Them

A name is what stands between two slashes of a path in normal form: it has no slash, and is
not one of the segments that normalization skips or pops. The segments of a normal form are
names, and the path of an entry is the path of its directory with the name of the entry behind
it.

From a path that leads to an entry of a directory or further down, the name of the entry can
be read off. `entryName` reads it, and `entryName_of_leads` is why two entries with different
names can never both be on the way to the same path.

## Main definitions

* `Path.IsName`: What an entry of a directory can be called.
* `Path.Leads`: A path leads to another one: it is the same, or an ancestor.
* `Path.entryName`: The entry of a directory that is on the way to a path.

## Theorems

* `isName_of_mem_normalSegments`: The segments of a normal form are names.
* `isBelow_childPath`, `isBelow_trans`: How paths lie below each other.
* `entryName_of_leads`: The name of the entry on the way to a path.
* `fileName_childPath`, `parent_childPath`: The path of an entry shows its name and its directory.
* `isNormal_childPath`: The path of an entry of a directory is in normal form.
-/

namespace Replatform

namespace Path

/-- What an entry of a directory can be called. -/
def IsName (name : String) : Prop :=
  (name ≠ "" ∧ name ≠ "." ∧ name ≠ "..") ∧ '/' ∉ name.toList

theorem not_mem_of_mem_splitOn {c : Char} {cs part : List Char} (h : part ∈ cs.splitOn c) :
    c ∉ part := by
  induction cs generalizing part with
  | nil =>
      rw [List.splitOn_nil, List.mem_singleton] at h
      rw [h]
      exact List.not_mem_nil
  | cons x cs ih =>
      rw [List.splitOn_cons_eq_if_modifyHead] at h
      by_cases hx : (x == c) = true
      · rw [if_pos hx, List.mem_cons] at h
        rcases h with rfl | h
        · exact List.not_mem_nil
        · exact ih h
      · rw [if_neg hx] at h
        cases hparts : cs.splitOn c with
        | nil => exact absurd hparts (List.splitOn_ne_nil c cs)
        | cons first rest =>
            rw [hparts, List.modifyHead_cons, List.mem_cons] at h
            rw [beq_iff_eq] at hx
            rcases h with rfl | h
            · rw [List.mem_cons, not_or]
              exact ⟨fun he => hx he.symm, ih (hparts ▸ List.mem_cons_self)⟩
            · exact ih (hparts ▸ List.mem_cons_of_mem _ h)

theorem mem_of_mem_splitOn {c d : Char} {cs part : List Char} (h : part ∈ cs.splitOn c)
    (hd : d ∈ part) : d ∈ cs := by
  induction cs generalizing part with
  | nil =>
      rw [List.splitOn_nil, List.mem_singleton] at h
      exact absurd (h ▸ hd) List.not_mem_nil
  | cons x cs ih =>
      rw [List.splitOn_cons_eq_if_modifyHead] at h
      by_cases hx : (x == c) = true
      · rw [if_pos hx, List.mem_cons] at h
        rcases h with rfl | h
        · exact absurd hd List.not_mem_nil
        · exact List.mem_cons_of_mem x (ih h hd)
      · rw [if_neg hx] at h
        cases hparts : cs.splitOn c with
        | nil => exact absurd hparts (List.splitOn_ne_nil c cs)
        | cons first rest =>
            rw [hparts, List.modifyHead_cons, List.mem_cons] at h
            rcases h with rfl | h
            · rcases List.mem_cons.mp hd with rfl | hd
              · exact List.mem_cons_self
              · exact List.mem_cons_of_mem x (ih (hparts ▸ List.mem_cons_self) hd)
            · exact List.mem_cons_of_mem x (ih (hparts ▸ List.mem_cons_of_mem first h) hd)

/-- A step leaves names on the stack if its segment has no slash. -/
theorem isName_of_mem_step {stack : List String} {segment name : String}
    (hstack : ∀ name ∈ stack, IsName name) (hsegment : '/' ∉ segment.toList)
    (h : name ∈ step stack segment) : IsName name := by
  unfold step at h
  by_cases hskip : segment = "" ∨ segment = "."
  · rw [if_pos hskip] at h
    exact hstack name h
  · rw [if_neg hskip] at h
    by_cases hup : segment = ".."
    · rw [if_pos hup] at h
      exact hstack name (List.mem_of_mem_tail h)
    · rw [if_neg hup, List.mem_cons] at h
      rcases h with rfl | h
      · exact ⟨⟨fun he => hskip (Or.inl he), fun he => hskip (Or.inr he), hup⟩, hsegment⟩
      · exact hstack name h

theorem not_mem_of_mem_segments {path segment : String} (h : segment ∈ segments path) :
    '/' ∉ segment.toList := by
  rcases List.mem_map.mp h with ⟨part, hpart, rfl⟩
  rw [String.toList_ofList]
  exact not_mem_of_mem_splitOn hpart

theorem mem_of_mem_segments {path segment : String} {c : Char} (h : segment ∈ segments path)
    (hc : c ∈ segment.toList) : c ∈ path.toList := by
  rcases List.mem_map.mp h with ⟨part, hpart, rfl⟩
  rw [String.toList_ofList] at hc
  exact mem_of_mem_splitOn hpart hc

/-- Segments without slashes leave names on a stack of names. -/
theorem isName_of_mem_foldl_step {segs stack : List String} {name : String}
    (hsegs : ∀ segment ∈ segs, '/' ∉ segment.toList) (hstack : ∀ name ∈ stack, IsName name)
    (h : name ∈ segs.foldl step stack) : IsName name := by
  induction segs generalizing stack with
  | nil => exact hstack name h
  | cons segment segs ih =>
      rw [List.forall_mem_cons] at hsegs
      exact ih hsegs.2 (fun name hname => isName_of_mem_step hstack hsegs.1 hname) h

/-- The segments of a normal form are names. -/
theorem isName_of_mem_normalSegments {path name : String} (h : name ∈ normalSegments path) :
    IsName name := by
  rw [normalSegments, List.mem_reverse] at h
  refine isName_of_mem_foldl_step (fun _ => not_mem_of_mem_segments) (fun name hname => ?_) h
  exact absurd hname List.not_mem_nil

/-- What steps leave on a stack was there or is one of their segments. -/
theorem mem_of_mem_foldl_step {segs stack : List String} {name : String}
    (h : name ∈ segs.foldl step stack) : name ∈ stack ∨ name ∈ segs := by
  induction segs generalizing stack with
  | nil => exact Or.inl h
  | cons segment segs ih =>
      rcases ih h with h | h
      · unfold step at h
        split_ifs at h
        · exact Or.inl h
        · exact Or.inl (List.mem_of_mem_tail h)
        · rcases List.mem_cons.mp h with rfl | h
          · exact Or.inr List.mem_cons_self
          · exact Or.inl h
      · exact Or.inr (List.mem_cons_of_mem segment h)

/-- Normalization keeps some of the segments. -/
theorem mem_segments_of_mem_normalSegments {path name : String} (h : name ∈ normalSegments path) :
    name ∈ segments path := by
  rw [normalSegments, List.mem_reverse] at h
  exact (mem_of_mem_foldl_step h).resolve_left List.not_mem_nil

theorem isName_of_mem_map_normalSegments {paths segs : List String} {name : String}
    (hsegs : segs ∈ paths.map normalSegments) (h : name ∈ segs) : IsName name := by
  rcases List.mem_map.mp hsegs with ⟨path, -, rfl⟩
  exact isName_of_mem_normalSegments h

theorem isBelow_iff (ancestor path : String) :
    isBelow ancestor path = true ↔ ∃ rest, path.toList = ancestor.toList ++ '/' :: rest := by
  rw [isBelow, List.isPrefixOf_iff_prefix]
  constructor
  · rintro ⟨rest, h⟩
    exact ⟨rest, by rw [← h, List.append_assoc, List.singleton_append]⟩
  · rintro ⟨rest, h⟩
    exact ⟨rest, by rw [h, List.append_assoc, List.singleton_append]⟩

theorem not_isBelow_self (path : String) : isBelow path path = false := by
  rw [← Bool.not_eq_true, isBelow_iff]
  rintro ⟨rest, h⟩
  have hlen := congrArg List.length h
  rw [List.length_append, List.length_cons] at hlen
  omega

theorem isBelow_trans {a b c : String} (hab : isBelow a b = true) (hbc : isBelow b c = true) :
    isBelow a c = true := by
  rw [isBelow_iff] at hab hbc ⊢
  rcases hab with ⟨rest, hab⟩
  rcases hbc with ⟨rest', hbc⟩
  exact ⟨rest ++ '/' :: rest', by rw [hbc, hab, List.append_assoc, List.cons_append]⟩

/-- A path leads to another one if it is the same or an ancestor of it. -/
def Leads (path target : String) : Prop :=
  target = path ∨ isBelow path target = true

theorem Leads.of_isBelow {a b c : String} (hab : isBelow a b = true) (hbc : Leads b c) :
    isBelow a c = true := by
  rcases hbc with rfl | hbc
  · exact hab
  · exact isBelow_trans hab hbc

/-- What stands in the path of an entry before its name. -/
def lead (base : String) : List Char :=
  if base = "" then [] else base.toList ++ ['/']

theorem toList_childPath (base name : String) :
    (Tree.childPath base name).toList = lead base ++ name.toList := by
  unfold Tree.childPath lead
  by_cases hbase : base = ""
  · rw [if_pos hbase, if_pos hbase, List.nil_append]
  · rw [if_neg hbase, if_neg hbase, String.toList_append, String.toList_append]
    rfl

theorem childPath_ne_empty (base : String) {name : String} (hname : IsName name) :
    Tree.childPath base name ≠ "" := by
  intro h
  have hlist := toList_childPath base name
  rw [h, String.toList_empty, eq_comm, List.append_eq_nil_iff, String.toList_eq_nil_iff] at hlist
  exact hname.1.1 hlist.2

theorem isBelow_childPath {base : String} (hbase : base ≠ "") (name : String) :
    isBelow base (Tree.childPath base name) = true := by
  rw [isBelow_iff, toList_childPath, lead, if_neg hbase]
  exact ⟨name.toList, by rw [List.append_assoc, List.singleton_append]⟩

/-- The name of the entry of a directory that is on the way to a path. -/
def entryName (base path : String) : List Char :=
  (path.toList.drop (lead base).length).takeWhile (· != '/')

theorem entryName_of_leads {base name path : String} (hname : IsName name)
    (h : Leads (Tree.childPath base name) path) : entryName base path = name.toList := by
  have hall : ∀ c ∈ name.toList, (c != '/') = true := by
    intro c hc
    rw [bne_iff_ne]
    rintro rfl
    exact hname.2 hc
  have hpath : ∃ tail, path.toList = lead base ++ (name.toList ++ tail) ∧
      tail.takeWhile (· != '/') = [] := by
    rcases h with rfl | h
    · exact ⟨[], by rw [toList_childPath, List.append_nil], List.takeWhile_nil⟩
    · rcases (isBelow_iff _ _).mp h with ⟨rest, hpath⟩
      refine ⟨'/' :: rest, by rw [hpath, toList_childPath, List.append_assoc], ?_⟩
      exact List.takeWhile_cons_of_neg Bool.false_ne_true
  rcases hpath with ⟨tail, hpath, htail⟩
  rw [entryName, hpath, List.drop_left, List.takeWhile_append_of_pos hall, htail, List.append_nil]

/-- Entries with different names are not on the way to the same path. -/
theorem eq_of_leads {base a b path : String} (ha : IsName a) (hb : IsName b)
    (hpa : Leads (Tree.childPath base a) path) (hpb : Leads (Tree.childPath base b) path) : a = b := by
  rw [← String.toList_inj, ← entryName_of_leads ha hpa, entryName_of_leads hb hpb]

theorem splitLast_of_not_mem {c : Char} {cs : List Char} (h : c ∉ cs) : splitLast c cs = none := by
  induction cs with
  | nil => rfl
  | cons x cs ih =>
      rw [List.mem_cons, not_or] at h
      rw [splitLast, ih h.2]
      exact if_neg fun he => h.1 he.symm

theorem splitLast_append_cons {c : Char} {after : List Char} (h : c ∉ after) (before : List Char) :
    splitLast c (before ++ c :: after) = some (before, after) := by
  induction before with
  | nil =>
      rw [List.nil_append, splitLast, splitLast_of_not_mem h]
      exact if_pos rfl
  | cons x before ih => rw [List.cons_append, splitLast, ih]

/-- The last segment of the path of an entry is its name. -/
theorem fileName_childPath (base : String) {name : String} (hname : IsName name) :
    fileName (Tree.childPath base name) = name := by
  unfold fileName
  rw [toList_childPath]
  by_cases hbase : base = ""
  · rw [lead, if_pos hbase, List.nil_append, splitLast_of_not_mem hname.2, Tree.childPath,
      if_pos hbase]
  · rw [lead, if_neg hbase, List.append_assoc, List.singleton_append,
      splitLast_append_cons hname.2]
    exact String.ofList_toList

/-- The directory part of the path of an entry is the path of its directory. -/
theorem parent_childPath (base : String) {name : String} (hname : IsName name) :
    parent (Tree.childPath base name) = if base = "" then none else some base := by
  unfold parent
  rw [toList_childPath]
  by_cases hbase : base = ""
  · rw [lead, if_pos hbase, if_pos hbase, List.nil_append, splitLast_of_not_mem hname.2,
      Option.map_none]
  · rw [lead, if_neg hbase, if_neg hbase, List.append_assoc, List.singleton_append,
      splitLast_append_cons hname.2, Option.map_some, String.ofList_toList]

section Normal

/-- A name is pushed onto the stack. -/
theorem step_of_isName {name : String} (hname : IsName name) (stack : List String) :
    step stack name = name :: stack := by
  rcases hname with ⟨⟨hempty, hdot, hup⟩, -⟩
  rw [step, if_neg (not_or.mpr ⟨hempty, hdot⟩), if_neg hup]

theorem segments_of_isName {name : String} (hname : IsName name) : segments name = [name] := by
  rw [segments, List.splitOn_eq_singleton hname.2, List.map_singleton, String.ofList_toList]

theorem normalSegments_childPath (base : String) {name : String} (hname : IsName name) :
    normalSegments (Tree.childPath base name) = normalSegments base ++ [name] := by
  have hsegments : segments (Tree.childPath base name) =
      (if base = "" then [] else segments base) ++ [name] := by
    by_cases hbase : base = ""
    · rw [if_pos hbase, Tree.childPath, if_pos hbase, segments_of_isName hname, List.nil_append]
    · rw [if_neg hbase, segments, toList_childPath, lead, if_neg hbase, List.append_assoc,
        List.singleton_append, List.splitOn_append_cons_self, List.map_append]
      exact congrArg (segments base ++ ·) (segments_of_isName hname)
  unfold normalSegments
  rw [hsegments, List.foldl_append, List.foldl_cons, List.foldl_nil, step_of_isName hname,
    List.reverse_cons]
  by_cases hbase : base = ""
  · rw [if_pos hbase, hbase]
    rfl
  · rw [if_neg hbase]

theorem intercalate_concat {α : Type} (sep : List α) {parts : List (List α)} (h : parts ≠ [])
    (last : List α) : sep.intercalate (parts ++ [last]) = sep.intercalate parts ++ sep ++ last := by
  induction parts with
  | nil => exact absurd rfl h
  | cons part parts ih =>
      cases parts with
      | nil =>
          rw [List.singleton_append, List.intercalate_cons_cons, List.intercalate_singleton,
            List.intercalate_singleton]
      | cons next parts =>
          have hnext : next :: parts ≠ [] := List.cons_ne_nil next parts
          have hlast : next :: parts ++ [last] ≠ [] := List.cons_ne_nil next (parts ++ [last])
          rw [List.cons_append, List.intercalate_cons_of_ne_nil hlast, ih hnext,
            List.intercalate_cons_of_ne_nil hnext]
          simp only [List.append_assoc]

/-- The path of an entry is in normal form if that of its directory is. -/
theorem isNormal_childPath {base : String} (h : IsNormal base) {name : String}
    (hname : IsName name) : IsNormal (Tree.childPath base name) := by
  have hbase : ofSegments (normalSegments base) = base := h
  rw [IsNormal, normalize, normalSegments_childPath base hname, ← String.toList_inj,
    toList_childPath, lead]
  by_cases hempty : base = ""
  · have hnone : normalSegments "" = [] := rfl
    rw [if_pos hempty, hempty, hnone, List.nil_append, ofSegments, String.toList_ofList,
      List.map_singleton, List.intercalate_singleton, List.nil_append]
  · have hsome : (normalSegments base).map String.toList ≠ [] := by
      intro hnone
      rw [List.map_eq_nil_iff] at hnone
      rw [hnone] at hbase
      exact hempty hbase.symm
    have hjoined := congrArg String.toList hbase
    rw [ofSegments, String.toList_ofList] at hjoined
    rw [if_neg hempty, ofSegments, String.toList_ofList, List.map_append, List.map_singleton,
      intercalate_concat _ hsome, hjoined]

theorem isNormal_empty : IsNormal "" :=
  rfl

end Normal

end Path

end Replatform
