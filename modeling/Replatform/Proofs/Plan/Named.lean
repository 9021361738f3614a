import Replatform.Proofs.Plan.Meaning

/-!
# Hints That Name One Source

A hint whose source pattern is a path still matches loosely. It finds the file of that path, and with
it every file whose path ends in it, with or without extensions, and every file that is called the same
up to the extension, wherever it is. All of them are found with the confidence of the hint, so none of
them has a better score than another, and the one that was reached first is the primary source. A hint
reaches its sources in the order of their paths.

So what a hint names is among the sources of the match, but its primary source is the smallest path
that is taken for the named one. `primary_overruled` shows a named file that loses to another one of
the same name in an earlier directory. It also shows that a name with white space at its ends, or an
empty one, does not find itself: patterns are trimmed, and the empty pattern matches nothing.

## Main definitions

* `Path.IsTakenFor`: A path is found by the name of another one.
* `Mapper.IsNamed`: The match of a target by the only hint for it, which names a source.

## Theorems

* `finds_iff_isTakenFor`: A hint that names a path finds what is taken for it.
* `named_match`: What the match by a hint that names a source is.
* `primary_overruled`: The named source need not be the primary one.
-/

namespace Replatform

/-- The candidate is found by the name of a path: it is that path, ends in it with or without
    extensions, or is called the same up to the extension. -/
def Path.IsTakenFor (candidate path : String) : Prop :=
  candidate = path ∨ endsWith (stripExtension candidate) (stripExtension path) = true ∨
    endsWith candidate path = true ∨ fileStem candidate = fileStem path

/-- A hint that names a path finds what is taken for it. -/
theorem Mapping.finds_iff_isTakenFor {m : Mapping} (hnormal : Path.IsNormal m.source)
    (hstar : '*' ∉ m.source.toList) (hne : m.source ≠ "") (htrim : Text.trim m.source = m.source)
    (candidate : String) : m.Finds candidate ↔ Path.IsTakenFor candidate m.source := by
  have hparse : Pattern.parse m.source = .literal m.source := by
    have hstrip : Text.strip m.source.toList = m.source.toList := by
      rw [← String.ofList_inj, String.ofList_toList]
      exact htrim
    rw [Pattern.parse, hstrip, if_neg hstar, String.ofList_toList, hnormal]
  rw [Mapping.Finds, hparse, Pattern.accepts, Pattern.matchesLiteral, Bool.and_eq_true,
    bne_iff_ne, Bool.or_eq_true, Bool.or_eq_true, Bool.or_eq_true, beq_iff_eq, beq_iff_eq,
    and_iff_right hne, or_assoc, or_assoc, eq_comm, eq_comm (a := Path.fileStem m.source)]
  exact Iff.rfl

namespace Mapper

/-- What is reached first of an ascending list is smaller. -/
theorem lt_of_idxOf_lt {l : List String} (hascending : l.Pairwise (· < ·)) {a b : String}
    (ha : a ∈ l) (hb : b ∈ l) (hlt : l.idxOf a < l.idxOf b) : a < b := by
  have hordered := List.pairwise_iff_getElem.mp hascending _ _ (List.idxOf_lt_length_of_mem ha)
    (List.idxOf_lt_length_of_mem hb) hlt
  rwa [List.getElem_idxOf, List.getElem_idxOf] at hordered

section OneHint

variable {sources : Names} {mappings : List Mapping} {target : String} {m : Mapping}

/-- The only hint for a target pairs it with what it finds. -/
theorem pairs_iff_of_only (honly : mappings.filter (·.IsFor target) = [m]) (s : String)
    (P : Mapping → Prop) : (∃ h ∈ mappings, h.Pairs s target ∧ P h) ↔ m.Finds s ∧ P m := by
  have hmem : ∀ h, h ∈ mappings ∧ h.IsFor target ↔ h = m := by
    intro h
    rw [← List.mem_singleton, ← honly, List.mem_filter, decide_eq_true_eq]
  constructor
  · rintro ⟨h, hh, ⟨hfor, hfinds⟩, hP⟩
    rw [← (hmem h).mp ⟨hh, hfor⟩]
    exact ⟨hfinds, hP⟩
  · rintro ⟨hfinds, hP⟩
    rcases (hmem m).mpr rfl with ⟨hm, hfor⟩
    exact ⟨m, hm, ⟨hfor, hfinds⟩, hP⟩

/-- With one hint for a target, all that it finds are sources, and the smallest one is primary. -/
theorem ByHints.of_only {found : Match} (h : ByHints sources mappings target found)
    (honly : mappings.filter (·.IsFor target) = [m]) :
    (∀ s, s ∈ found.sources ↔ s ∈ sources ∧ m.Finds s) ∧
      ∃ p, found.primary = some p ∧ IsLeast {s | s ∈ sources ∧ m.Finds s} p := by
  have hsources : ∀ s, s ∈ found.sources ↔ s ∈ sources ∧ m.Finds s := by
    intro s
    have honce := pairs_iff_of_only honly s fun _ => True
    simp only [and_true] at honce
    rw [h.mem_sources s, honce]
  refine ⟨hsources, ?_⟩
  rcases h.primary with ⟨p, top, hprimary, hp, htop, hothers⟩
  refine ⟨p, hprimary, (hsources p).mp hp, fun s hs => ?_⟩
  by_cases heq : s = p
  · exact heq ▸ String.le_refl s
  · rcases hothers s ((hsources s).mpr hs) heq with ⟨c, hc, -, hfirst⟩
    -- Both scores are the confidence of the only hint.
    have hceq := ((pairs_iff_of_only honly s _).mp hc.1).2
    have htopeq := ((pairs_iff_of_only honly p _).mp htop.1).2
    have hreached : (reaches sources mappings target).map Prod.fst =
        (Pattern.parse m.source).resolve sources.toList := by
      rw [reaches, honly, List.flatMap_singleton, List.map_map]
      exact List.map_id _
    rw [hreached] at hfirst
    have hlt := lt_of_idxOf_lt (sources.ascending.filter _)
      (mem_resolve.mpr ((hsources p).mp hp)) (mem_resolve.mpr hs)
      (hfirst (htopeq ▸ hceq ▸ m.inUnit_effectiveConfidence.le_self))
    exact String.not_lt.mp (String.lt_asymm hlt)

end OneHint

/-- The match of a target by a hint that names a source. -/
structure IsNamed (sources : List String) (source : String) (m : Match) : Prop where
  /-- The sources are those that are taken for the named one. -/
  mem_sources : ∀ s, s ∈ m.sources ↔ s ∈ sources ∧ Path.IsTakenFor s source
  /-- The primary source is the smallest of them. -/
  primary : ∃ p, m.primary = some p ∧ IsLeast {s | s ∈ sources ∧ Path.IsTakenFor s source} p
  /-- It is the named one just if no smaller path is taken for it. -/
  primary_eq_iff : m.primary = some source ↔ ∀ s ∈ sources, s < source → ¬ Path.IsTakenFor s source

/-- If one hint is for a target, and it names a source by its path, the match has the sources that are
    taken for that path, the named one being one of them, and the smallest of them is primary. -/
theorem named_match (threshold : Float) {targets sources : List String} {mappings : List Mapping}
    {target : String} {m : Mapping} (htarget : target ∈ targets)
    (honly : mappings.filter (·.IsFor target) = [m]) (hsource : m.source ∈ sources)
    (hnormal : Path.IsNormal m.source) (hstar : '*' ∉ m.source.toList) (hne : m.source ≠ "")
    (htrim : Text.trim m.source = m.source) :
    ∃ found, (table threshold targets sources mappings).get? target = some found ∧
      IsNamed sources m.source found := by
  have hfinds := Mapping.finds_iff_isTakenFor hnormal hstar hne htrim
  have hself : Path.IsTakenFor m.source m.source := Or.inl rfl
  have hpaired : ∃ s ∈ Names.ofList sources, ∃ h ∈ mappings, h.Pairs s target := by
    rcases (pairs_iff_of_only honly m.source fun _ => True).mpr
      ⟨(hfinds m.source).mpr hself, trivial⟩ with ⟨h, hh, hpairs, -⟩
    exact ⟨m.source, Names.mem_ofList.mpr hsource, h, hh, hpairs⟩
  rcases Option.ne_none_iff_exists'.mp
    (fun hnone => explicit?_eq_none_iff.mp hnone hpaired) with ⟨found, hfound⟩
  rcases (byHints_explicit? hfound).of_only honly with ⟨hsources, p, hprimary, hleast⟩
  simp only [Names.mem_ofList, hfinds] at hsources hleast
  refine ⟨found, ?_, hsources, ⟨p, hprimary, hleast⟩, ?_⟩
  · rw [table, Table.get?_ofNames, if_pos (Names.mem_ofList.mpr htarget), matchOf, hfound,
      Option.getD_some]
  · rw [hprimary, Option.some.injEq]
    constructor
    · rintro rfl s hs hlt htaken
      exact String.not_le.mpr hlt (hleast.2 ⟨hs, htaken⟩)
    · intro hsmallest
      refine String.le_antisymm (hleast.2 ⟨hsource, hself⟩) (String.not_lt.mp fun hlt => ?_)
      exact hsmallest p hleast.1.1 hlt hleast.1.2

/-- A hint that names a source, next to which there is a test of the same name. -/
def hintForTotals : Mapping where
  source := "src/totals.js"
  target := "app/totals.ts"
  confidence := some 0.9

/-- The match by such a hint, where the test comes later. -/
theorem named_match_hintForTotals :
    hintForTotals.IsFor "app/totals.ts" ∧ Path.IsNormal hintForTotals.source ∧
      ∃ found, (table defaultThreshold ["app/totals.ts"] ["src/totals.js", "test/totals.js"]
          [hintForTotals]).get? "app/totals.ts" = some found ∧
        IsNamed ["src/totals.js", "test/totals.js"] "src/totals.js" found := by
  have hfor : hintForTotals.IsFor "app/totals.ts" := by decide +kernel
  have hnormal : Path.IsNormal hintForTotals.source := by decide +kernel
  refine ⟨hfor, hnormal, ?_⟩
  exact named_match defaultThreshold (m := hintForTotals) List.mem_cons_self
    (List.filter_cons_of_pos (decide_eq_true hfor)) List.mem_cons_self hnormal (by decide +kernel)
    (by decide +kernel) (by decide +kernel)

/-- The only hint for a target names a source by its path, and that source is not primary. -/
def Overruled (sources : List String) (source target : String) (p : Option String) : Prop :=
  let m : Mapping := { source := source, target := target }
  (m.IsFor target ∧ m.source ∈ sources ∧ Path.IsNormal m.source ∧ '*' ∉ m.source.toList) ∧
    ((table defaultThreshold [target] sources [m]).get? target).map Match.primary = some p ∧
    p ≠ some m.source

/-- The primary source need not be the named one: a file of the same name comes before it, or its
    name begins with a blank or is empty, and does not find it. -/
theorem primary_overruled :
    Overruled ["a/app.js", "b/app.js"] "b/app.js" "new/app.ts" (some "a/app.js") ∧
      Overruled [" app.js", "new/app.js"] " app.js" "new/app.ts" (some "new/app.js") ∧
      Overruled ["", "new/app.js"] "" "new/app.ts" (some "new/app.js") := by
  unfold Overruled
  decide +kernel

end Mapper

end Replatform
