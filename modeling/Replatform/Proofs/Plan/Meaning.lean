import Replatform.Plan.Mapper
import Replatform.Proofs.Plan.Scores
import Replatform.Proofs.Table

/-!
# What the Table of Matches Means

Every target has a match and nothing else has one, and the primary source of a match is among its
sources. The primary source is the best of some scored sources, and `best_mem` says that the best is one
of those that were compared, so that for this much it makes no difference whether a match was made by
hints or by similarity.

The table is computed by passes over hints and sources that keep scores as they go. Here it is said
what the outcome is, without a pass: which sources a match has, which of them is the primary one, and
how much confidence is put in it.

A hint pairs a source with a target if its two patterns match them. Once a hint pairs a target with
any source, hints alone decide: all the sources that are paired with the target belong to its match.
Otherwise similarity decides.

Confidences are numbers in the unit interval, which is why a greatest one exists. Nothing of the kind
is assumed of similarities. The source taken by similarity is one that no source exceeds, and that no
smaller source comes up to.

## Main definitions

* `Mapper.Covers`: The targets, and only they, have consistent matches.
* `Mapping.Pairs`: A hint is for a target and finds a source.
* `reaches`: The sources that the hints for a target find, in the order in which they do.
* `ByHints`, `ByLikeness`: What a match is if hints decide, and if similarity does.
* `Meaning`: What the table of matches is.

## Theorems

* `best_mem`: The best source is one of those that were compared.
* `matchOf_isConsistent`: Every match is consistent.
* `covers_table`: What the table of some targets holds.
* `tallied_scores`: What the scores are after all hints.
* `explicit?_eq_none_iff`, `byHints_explicit?`: When hints decide, and what they decide.
* `byLikeness_nearest`: What similarity decides.
* `isMatchOf_matchOf`: What the match of a target is.
* `table_meaning`: What the table of matches is.
-/

namespace Replatform

theorem Match.isConsistent_unmatched : Match.unmatched.IsConsistent := by
  intro p hp
  exact absurd hp (by simp only [Match.unmatched, reduceCtorEq, not_false_eq_true])

theorem Match.isConsistent_ofPrimary (source : String) (confidence : Float) :
    (Match.ofPrimary source confidence).IsConsistent := by
  intro p hp
  rw [ofPrimary, Option.some.injEq] at hp
  exact Names.mem_ofList.mpr (List.mem_singleton.mpr hp.symm)

namespace Mapper

section Consistency

/-- The best is the best so far or one of those that it is compared with. -/
theorem best_mem {top : Option (String × Float)} {entries : List (String × Float)}
    {e : String × Float} (h : best top entries = some e) : top = some e ∨ e ∈ entries := by
  induction entries generalizing top with
  | nil =>
      rw [best] at h
      exact Or.inl h
  | cons first entries ih =>
      cases top with
      | none =>
          rw [best] at h
          rcases ih h with hfirst | hmem
          · exact Or.inr (Option.some.inj hfirst ▸ List.mem_cons_self)
          · exact Or.inr (List.mem_cons_of_mem first hmem)
      | some top =>
          rw [best] at h
          rcases ih h with hbest | hmem
          -- The better of the two was the best so far for the rest.
          · by_cases hlt : top.2 < first.2
            · rw [if_pos hlt, Option.some.injEq] at hbest
              exact Or.inr (hbest ▸ List.mem_cons_self)
            · rw [if_neg hlt] at hbest
              exact Or.inl hbest
          · exact Or.inr (List.mem_cons_of_mem first hmem)

variable (threshold : Float) (sources : Names) (mappings : List Mapping) (target : String)

theorem explicit?_isConsistent {m : Match} (h : explicit? sources mappings target = some m) :
    m.IsConsistent := by
  unfold explicit? at h
  cases hhints : mappings.filterMap (hint? target sources) with
  | nil =>
      rw [hhints] at h
      exact absurd h (by simp only [reduceCtorEq, not_false_eq_true])
  | cons hint hints =>
      rw [hhints] at h
      simp only [Option.some.injEq] at h
      subst h
      intro p hp
      rcases Option.map_eq_some_iff.mp hp with ⟨e, hbest, rfl⟩
      have hmem := (best_mem hbest).resolve_left (by simp only [reduceCtorEq, not_false_eq_true])
      exact Names.mem_ofList.mpr (List.mem_map_of_mem hmem)

theorem nearest_isConsistent : (nearest threshold sources target).IsConsistent := by
  unfold nearest
  cases best none (sources.toList.map fun s => (s, similarity target s)) with
  | none => exact Match.isConsistent_unmatched
  | some e =>
      simp only []
      by_cases hlike : threshold ≤ e.2
      · rw [if_pos hlike]
        exact Match.isConsistent_ofPrimary _ _
      · rw [if_neg hlike]
        exact Match.isConsistent_unmatched

theorem matchOf_isConsistent : (matchOf threshold sources mappings target).IsConsistent := by
  unfold matchOf
  cases hexplicit : explicit? sources mappings target with
  | none => exact nearest_isConsistent threshold sources target
  | some m => exact explicit?_isConsistent sources mappings target hexplicit

/-- The targets have matches, nothing else has one, and all of them are consistent. -/
def Covers (matched : MatchTable) (targets : List String) : Prop :=
  (∀ t, t ∈ matched.keys ↔ t ∈ targets) ∧ ∀ t m, matched.get? t = some m → m.IsConsistent

/-- What the table of some targets holds, whatever the sources and the hints are. -/
theorem covers_table (targets sources : List String) :
    Covers (table threshold targets sources mappings) targets := by
  constructor
  · intro t
    rw [table, Table.keys_ofNames]
    exact Names.mem_ofList
  · intro t m hm
    rw [table, Table.get?_ofNames] at hm
    by_cases ht : t ∈ Names.ofList targets
    · rw [if_pos ht, Option.some.injEq] at hm
      exact hm ▸ matchOf_isConsistent threshold _ mappings t
    · rw [if_neg ht] at hm
      exact absurd hm (by simp only [reduceCtorEq, not_false_eq_true])

end Consistency

end Mapper

/-- The hint is for the target. -/
def Mapping.IsFor (m : Mapping) (target : String) : Prop :=
  (Pattern.parse m.target).accepts target = true

/-- The hint finds the source. -/
def Mapping.Finds (m : Mapping) (source : String) : Prop :=
  (Pattern.parse m.source).accepts source = true

/-- The hint says that the target is made from the source. -/
def Mapping.Pairs (m : Mapping) (source target : String) : Prop :=
  m.IsFor target ∧ m.Finds source

namespace Mapper

section Hints

instance (m : Mapping) (target : String) : Decidable (m.IsFor target) :=
  inferInstanceAs (Decidable (_ = true))

/-- The sources that the hints for a target find, hint after hint and in the order of their paths,
    each with the confidence of the hint. -/
def reaches (sources : Names) (mappings : List Mapping) (target : String) :
    List (String × Float) :=
  (mappings.filter (·.IsFor target)).flatMap fun m =>
    ((Pattern.parse m.source).resolve sources.toList).map fun s => (s, m.effectiveConfidence)

/-- The score of a source is the greatest confidence of the hints that pair it with the target. -/
def IsScore (mappings : List Mapping) (target source : String) (score : Float) : Prop :=
  IsGreatest {c | ∃ h ∈ mappings, h.Pairs source target ∧ h.effectiveConfidence = c} score

/-- The match of a target that hints pair with sources. -/
structure ByHints (sources : Names) (mappings : List Mapping) (target : String) (m : Match) :
    Prop where
  /-- All sources that a hint pairs with the target belong to the match. -/
  mem_sources : ∀ s, s ∈ m.sources ↔ s ∈ sources ∧ ∃ h ∈ mappings, h.Pairs s target
  /-- The confidence is the greatest one of the hints that pair the target with a source. -/
  confidence : IsGreatest
    {c | ∃ s ∈ sources, ∃ h ∈ mappings, h.Pairs s target ∧ h.effectiveConfidence = c} m.confidence
  /-- The primary source has the highest score, and was reached first among equals. -/
  primary : ∃ p top, m.primary = some p ∧ p ∈ m.sources ∧ IsScore mappings target p top ∧
    ∀ s ∈ m.sources, s ≠ p → ∃ c, IsScore mappings target s c ∧ c ≤ top ∧
      (top ≤ c → ((reaches sources mappings target).map Prod.fst).idxOf p <
        ((reaches sources mappings target).map Prod.fst).idxOf s)

variable {sources : Names} {mappings : List Mapping} {target : String}

theorem mem_resolve {m : Mapping} {s : String} :
    s ∈ (Pattern.parse m.source).resolve sources.toList ↔ s ∈ sources ∧ m.Finds s := by
  rw [Pattern.resolve, List.mem_filter]
  exact Iff.rfl

theorem mem_reaches {s : String} {c : Float} :
    (s, c) ∈ reaches sources mappings target ↔
      s ∈ sources ∧ ∃ h ∈ mappings, h.Pairs s target ∧ h.effectiveConfidence = c := by
  simp only [reaches, List.mem_flatMap, List.mem_filter, decide_eq_true_eq, List.mem_map,
    mem_resolve, Prod.mk.injEq]
  constructor
  · rintro ⟨h, ⟨hmem, hfor⟩, _, ⟨hs, hfinds⟩, rfl, rfl⟩
    exact ⟨hs, h, hmem, ⟨hfor, hfinds⟩, rfl⟩
  · rintro ⟨hs, h, hmem, ⟨hfor, hfinds⟩, rfl⟩
    exact ⟨h, ⟨hmem, hfor⟩, s, ⟨hs, hfinds⟩, rfl, rfl⟩

theorem mem_map_fst_reaches {s : String} :
    s ∈ (reaches sources mappings target).map Prod.fst ↔
      s ∈ sources ∧ ∃ h ∈ mappings, h.Pairs s target := by
  rw [List.mem_map]
  constructor
  · rintro ⟨⟨s, c⟩, hmem, rfl⟩
    rcases mem_reaches.mp hmem with ⟨hs, h, hh, hpairs, -⟩
    exact ⟨hs, h, hh, hpairs⟩
  · rintro ⟨hs, h, hh, hpairs⟩
    exact ⟨(s, h.effectiveConfidence), mem_reaches.mpr ⟨hs, h, hh, hpairs, rfl⟩, rfl⟩

theorem hint?_eq_some_iff {m : Mapping} {hint : List String × Float} :
    hint? target sources m = some hint ↔
      m.IsFor target ∧ hint.1 = (Pattern.parse m.source).resolve sources.toList ∧
        hint.2 = m.effectiveConfidence ∧ hint.1 ≠ [] := by
  unfold hint?
  cases (Pattern.parse m.source).resolve sources.toList with
  | nil =>
      simp only [reduceCtorEq, false_iff]
      rintro ⟨-, hnone, -, hsome⟩
      exact hsome hnone
  | cons s found =>
      simp only []
      by_cases hfor : (Pattern.parse m.target).accepts target = true
      · rw [if_pos hfor, Option.some.injEq]
        constructor
        · rintro rfl
          exact ⟨hfor, rfl, rfl, List.cons_ne_nil s found⟩
        · rintro ⟨-, hfound, hconfidence, -⟩
          rw [← hfound, ← hconfidence]
      · rw [if_neg hfor]
        simp only [reduceCtorEq, false_iff]
        exact fun h => hfor h.1

/-- To gather the hints is to score what they reach. -/
theorem foldl_gather (scores : List (String × Float)) :
    (mappings.filterMap (hint? target sources)).foldl gather scores =
      (reaches sources mappings target).foldl (fun acc e => score e.2 e.1 acc) scores := by
  induction mappings generalizing scores with
  | nil => rfl
  | cons m mappings ih =>
      rw [reaches, List.filter_cons]
      by_cases hfor : m.IsFor target
      · rw [if_pos (decide_eq_true hfor), List.flatMap_cons, List.foldl_append, ← reaches, ← ih,
          List.foldl_map]
        cases hfound : (Pattern.parse m.source).resolve sources.toList with
        | nil =>
            have hnone : hint? target sources m = none := by
              rw [hint?, hfound]
            rw [List.filterMap_cons_none hnone, List.foldl_nil]
        | cons s found =>
            have hsome : hint? target sources m = some (s :: found, m.effectiveConfidence) :=
              hint?_eq_some_iff.mpr ⟨hfor, hfound.symm, rfl, List.cons_ne_nil s found⟩
            rw [List.filterMap_cons_some hsome, List.foldl_cons]
            rfl
      · have hnone : hint? target sources m = none := by
          rw [Option.eq_none_iff_forall_ne_some]
          exact fun hint hsome => hfor (hint?_eq_some_iff.mp hsome).1
        have hskip : ¬ decide (m.IsFor target) = true := fun h => hfor (of_decide_eq_true h)
        rw [if_neg hskip, ← reaches, ← ih, List.filterMap_cons_none hnone]

/-- What the scores are after all hints. -/
theorem tallied_scores :
    Tallied (reaches sources mappings target)
      ((mappings.filterMap (hint? target sources)).foldl gather []) := by
  rw [foldl_gather]
  refine Tallied.nil.foldl fun e he => ?_
  rcases mem_reaches.mp he with ⟨-, h, -, -, hconfidence⟩
  rw [← hconfidence]
  exact h.inUnit_effectiveConfidence.le_self

theorem isScore_of_mem {e : String × Float}
    (he : e ∈ (mappings.filterMap (hint? target sources)).foldl gather []) :
    IsScore mappings target e.1 e.2 := by
  have hreached := (tallied_scores.mem e.1).mp (List.mem_map_of_mem he)
  have hsource := (mem_map_fst_reaches.mp hreached).1
  have hset : {c | (e.1, c) ∈ reaches sources mappings target} =
      {c | ∃ h ∈ mappings, h.Pairs e.1 target ∧ h.effectiveConfidence = c} :=
    Set.ext fun c => mem_reaches.trans (and_iff_right hsource)
  rw [IsScore, ← hset]
  exact tallied_scores.greatest e he

/-- The confidences of the hints are those of the pairs. -/
theorem exists_hint_iff {c : Float} :
    (∃ hint ∈ mappings.filterMap (hint? target sources), hint.2 = c) ↔
      ∃ s ∈ sources, ∃ h ∈ mappings, h.Pairs s target ∧ h.effectiveConfidence = c := by
  simp only [List.mem_filterMap]
  constructor
  · rintro ⟨hint, ⟨h, hh, hsome⟩, rfl⟩
    rcases hint?_eq_some_iff.mp hsome with ⟨hfor, hfound, hconfidence, hne⟩
    rcases List.exists_mem_of_ne_nil _ hne with ⟨s, hs⟩
    rcases mem_resolve.mp (hfound ▸ hs) with ⟨hsource, hfinds⟩
    exact ⟨s, hsource, h, hh, ⟨hfor, hfinds⟩, hconfidence.symm⟩
  · rintro ⟨s, hsource, h, hh, ⟨hfor, hfinds⟩, rfl⟩
    have hs := mem_resolve.mpr ⟨hsource, hfinds⟩
    exact ⟨(_, h.effectiveConfidence),
      ⟨h, hh, hint?_eq_some_iff.mpr ⟨hfor, rfl, rfl, List.ne_nil_of_mem hs⟩⟩, rfl⟩

/-- The confidence of a match by hints is the greatest one of the hints. -/
theorem isGreatest_confidence {hint : List String × Float} {hints : List (List String × Float)}
    (hunit : ∀ other ∈ hint :: hints, InUnit other.2) :
    IsGreatest {c | ∃ other ∈ hint :: hints, other.2 = c}
      (clampUnit ((hint :: hints).foldl (fun c h => if c ≤ h.2 then h.2 else c) 0.0)) := by
  have hset : {c | ∃ other ∈ hint :: hints, other.2 = c} =
      {c | c ∈ hint.2 :: hints.map Prod.snd} :=
    Set.ext fun c => (List.mem_map (f := Prod.snd) (l := hint :: hints)).symm
  have hin : ∀ c ∈ (hint :: hints).map Prod.snd, InUnit c :=
    List.forall_mem_map.mpr hunit
  have hgreatest := isGreatest_foldl fun c hc => (hin c hc).le_self
  rw [List.foldl_map] at hgreatest
  -- No confidence is below zero, so that the first one takes the place of what is there at first.
  rw [List.foldl_cons, if_pos (hunit hint List.mem_cons_self).1, (hin _ hgreatest.1).clampUnit_eq,
    hset]
  exact hgreatest

/-- Hints do not decide if none of them pairs the target with a source. -/
theorem explicit?_eq_none_iff :
    explicit? sources mappings target = none ↔
      ¬ ∃ s ∈ sources, ∃ h ∈ mappings, h.Pairs s target := by
  have hnone : explicit? sources mappings target = none ↔
      mappings.filterMap (hint? target sources) = [] := by
    unfold explicit?
    cases mappings.filterMap (hint? target sources) with
    | nil => exact iff_of_true rfl rfl
    | cons hint hints => exact iff_of_false (Option.some_ne_none _) (List.cons_ne_nil hint hints)
  rw [hnone, List.eq_nil_iff_forall_not_mem]
  constructor
  · rintro hempty ⟨s, hs, h, hh, hpairs⟩
    rcases exists_hint_iff.mpr ⟨s, hs, h, hh, hpairs, rfl⟩ with ⟨hint, hmem, -⟩
    exact hempty hint hmem
  · intro hunpaired hint hmem
    rcases exists_hint_iff.mp ⟨hint, hmem, rfl⟩ with ⟨s, hs, h, hh, hpairs, -⟩
    exact hunpaired ⟨s, hs, h, hh, hpairs⟩

/-- What hints decide. -/
theorem byHints_explicit? {m : Match} (h : explicit? sources mappings target = some m) :
    ByHints sources mappings target m := by
  have htallied := @tallied_scores sources mappings target
  have hscore := @isScore_of_mem sources mappings target
  have hconfidences : {c | ∃ hint ∈ mappings.filterMap (hint? target sources), hint.2 = c} =
      {c | ∃ s ∈ sources, ∃ h ∈ mappings, h.Pairs s target ∧ h.effectiveConfidence = c} :=
    Set.ext fun c => exists_hint_iff
  have hunit : ∀ hint ∈ mappings.filterMap (hint? target sources), InUnit hint.2 := by
    intro hint hmem
    rcases exists_hint_iff.mp ⟨hint, hmem, rfl⟩ with ⟨-, -, h, -, -, hconfidence⟩
    exact hconfidence ▸ h.inUnit_effectiveConfidence
  unfold explicit? at h
  cases hhints : mappings.filterMap (hint? target sources) with
  | nil =>
      rw [hhints] at h
      exact absurd h.symm (Option.some_ne_none m)
  | cons hint hints =>
      rw [hhints] at h htallied hscore hconfidences hunit
      rw [← Option.some.inj h]
      refine ⟨fun s => ?_, ?_, ?_⟩
      · rw [Names.mem_ofList, htallied.mem s, mem_map_fst_reaches]
      · rw [← hconfidences]
        exact isGreatest_confidence hunit
      · have hne : best none ((hint :: hints).foldl gather []) ≠ none := by
          intro hnone
          rcases hconfidences ▸ isGreatest_confidence hunit with ⟨⟨s, hs, g, hg, hpairs, -⟩, -⟩
          have hkey := (htallied.mem s).mpr (mem_map_fst_reaches.mpr ⟨hs, g, hg, hpairs⟩)
          rw [best_eq_none hnone] at hkey
          exact List.not_mem_nil hkey
        rcases Option.ne_none_iff_exists'.mp hne with ⟨e, hbest⟩
        have hfirst := isFirstBest_best hbest
        refine ⟨e.1, e.2, congrArg (Option.map Prod.fst) hbest,
          Names.mem_ofList.mpr (List.mem_map_of_mem hfirst.mem), hscore hfirst.mem, ?_⟩
        intro s hs hne
        rcases List.mem_map.mp (Names.mem_ofList.mp hs) with ⟨x, hx, rfl⟩
        exact ⟨x.2, hscore hx, htallied.le_of_isFirstBest hfirst hx hne⟩

end Hints

section Likeness

/-- No source is more similar to the target, and no smaller one comes up to it. -/
structure IsNearest (sources : Names) (target p : String) : Prop where
  mem : p ∈ sources
  not_lt : ∀ s ∈ sources, ¬ similarity target p < similarity target s
  smallest : ∀ s ∈ sources, s < p → ¬ similarity target p ≤ similarity target s

/-- The match of a target that no hint pairs with a source. -/
inductive ByLikeness (threshold : Float) (sources : Names) (target : String) : Match → Prop
  /-- The most similar source is similar enough. -/
  | accepted {p : String} (nearest : IsNearest sources target p)
      (enough : threshold ≤ similarity target p) :
      ByLikeness threshold sources target
        { primary := some p
          sources := Names.ofList [p]
          confidence := if similarity target p < 1.0 then similarity target p else 1.0 }
  /-- The most similar source is not similar enough. -/
  | refused {p : String} (nearest : IsNearest sources target p)
      (short : ¬ threshold ≤ similarity target p) :
      ByLikeness threshold sources target .unmatched
  /-- There is no source. -/
  | nothing (none : ∀ s, s ∉ sources) : ByLikeness threshold sources target .unmatched

variable {threshold : Float} {sources : Names} {target : String}

theorem isNearest_of_isFirstBest {e : String × Float}
    (h : IsFirstBest (sources.toList.map fun s => (s, similarity target s)) e) :
    e.2 = similarity target e.1 ∧ IsNearest sources target e.1 := by
  rcases h with ⟨before, after, hentries, hbefore, hafter⟩
  rcases List.map_eq_append_iff.mp hentries with ⟨smaller, rest, hsources, rfl, hrest⟩
  rcases List.map_eq_cons_iff.mp hrest with ⟨p, larger, rfl, rfl, rfl⟩
  simp only [List.forall_mem_map] at hbefore hafter
  have hascending := sources.ascending
  rw [hsources, List.pairwise_append, List.pairwise_cons] at hascending
  have hmem : ∀ s, s ∈ sources ↔ s ∈ smaller ∨ s = p ∨ s ∈ larger := by
    intro s
    rw [Names.mem_def, hsources, List.mem_append, List.mem_cons]
  refine ⟨rfl, (hmem p).mpr (Or.inr (Or.inl rfl)), fun s hs => ?_, fun s hs hlt => ?_⟩
  · rcases (hmem s).mp hs with hs | rfl | hs
    · exact fun hlt => hbefore s hs (float_le_of_lt hlt)
    · exact float_lt_irrefl (similarity target s)
    · exact hafter s hs
  · rcases (hmem s).mp hs with hs | rfl | hs
    · exact hbefore s hs
    · exact absurd hlt (String.lt_irrefl s)
    · exact absurd (hascending.2.1.1 s hs) (String.lt_asymm hlt)

/-- A similarity that comes up to the threshold is not below zero. -/
theorem inUnit_min_one {x : Float} (h : clampUnit threshold ≤ x) :
    InUnit (if x < 1.0 then x else 1.0) := by
  by_cases hlt : x < 1.0
  · rw [if_pos hlt]
    exact ⟨float_le_trans (inUnit_clampUnit (le_self_of_clampUnit_le h)).1 h, float_le_of_lt hlt⟩
  · rw [if_neg hlt]
    unfold InUnit
    decide +kernel

/-- What the match by similarity is. -/
theorem byLikeness_nearest :
    ByLikeness (clampUnit threshold) sources target
      (nearest (clampUnit threshold) sources target) := by
  unfold nearest
  cases hbest : best none (sources.toList.map fun s => (s, similarity target s)) with
  | none =>
      refine ByLikeness.nothing fun s hs => ?_
      rw [Names.mem_def, List.map_eq_nil_iff.mp (best_eq_none hbest)] at hs
      exact List.not_mem_nil hs
  | some e =>
      rcases isNearest_of_isFirstBest (isFirstBest_best hbest) with ⟨hlikeness, hnearest⟩
      simp only []
      by_cases hle : clampUnit threshold ≤ e.2
      · rw [if_pos hle, Match.ofPrimary, (inUnit_min_one hle).clampUnit_eq, hlikeness]
        exact ByLikeness.accepted hnearest (hlikeness ▸ hle)
      · rw [if_neg hle]
        exact ByLikeness.refused hnearest (hlikeness ▸ hle)

end Likeness

/-- A match that can be relied on, whatever it was made by. -/
structure IsSound (sources : Names) (m : Match) : Prop where
  isSome_primary_iff : m.primary.isSome = true ↔ ∃ s, s ∈ m.sources
  isConsistent : m.IsConsistent
  subset : ∀ s ∈ m.sources, s ∈ sources
  inUnit : InUnit m.confidence

section Sound

variable {threshold : Float} {sources : Names} {mappings : List Mapping} {target : String}
  {m : Match}

theorem ByHints.isSound (h : ByHints sources mappings target m) : IsSound sources m := by
  rcases h.primary with ⟨p, -, hprimary, hp, -⟩
  refine ⟨?_, fun q hq => ?_, fun s hs => ((h.mem_sources s).mp hs).1, ?_⟩
  · rw [hprimary]
    exact iff_of_true rfl ⟨p, hp⟩
  · rw [hprimary, Option.some.injEq] at hq
    exact hq ▸ hp
  · rcases h.confidence.1 with ⟨-, -, g, -, -, hconfidence⟩
    exact hconfidence ▸ g.inUnit_effectiveConfidence

theorem isSound_unmatched : IsSound sources .unmatched where
  isSome_primary_iff :=
    iff_of_false Bool.false_ne_true fun ⟨_, hs⟩ => Names.not_mem_empty hs
  isConsistent := Match.isConsistent_unmatched
  subset _ hs := absurd hs Names.not_mem_empty
  inUnit := by
    unfold InUnit
    decide +kernel

theorem ByLikeness.isSound (h : ByLikeness (clampUnit threshold) sources target m) :
    IsSound sources m := by
  cases h with
  | @accepted p nearest enough =>
      have hself : p ∈ Names.ofList [p] := Names.mem_ofList.mpr List.mem_cons_self
      refine ⟨iff_of_true rfl ⟨p, hself⟩, fun q hq => ?_, fun s hs => ?_, inUnit_min_one enough⟩
      · exact Option.some.inj hq ▸ hself
      · rw [List.mem_singleton.mp (Names.mem_ofList.mp hs)]
        exact nearest.mem
  | refused => exact isSound_unmatched
  | nothing => exact isSound_unmatched

end Sound

/-- What the match of a target is: hints decide if one pairs the target with a source, and
    similarity does otherwise. -/
structure IsMatchOf (threshold : Float) (sources : Names) (mappings : List Mapping)
    (target : String) (m : Match) : Prop where
  hinted : (∃ s ∈ sources, ∃ h ∈ mappings, h.Pairs s target) → ByHints sources mappings target m
  unhinted : (¬ ∃ s ∈ sources, ∃ h ∈ mappings, h.Pairs s target) →
    ByLikeness threshold sources target m
  isSound : IsSound sources m

theorem isMatchOf_matchOf (threshold : Float) (sources : Names) (mappings : List Mapping)
    (target : String) :
    IsMatchOf (clampUnit threshold) sources mappings target
      (matchOf (clampUnit threshold) sources mappings target) := by
  unfold matchOf
  cases hexplicit : explicit? sources mappings target with
  | none =>
      have hunpaired := explicit?_eq_none_iff.mp hexplicit
      exact ⟨fun hpaired => absurd hpaired hunpaired, fun _ => byLikeness_nearest,
        byLikeness_nearest.isSound⟩
  | some m =>
      have hhints := byHints_explicit? hexplicit
      refine ⟨fun _ => hhints, fun hunpaired => ?_, hhints.isSound⟩
      rw [explicit?_eq_none_iff.mpr hunpaired] at hexplicit
      exact absurd hexplicit.symm (Option.some_ne_none m)

/-- What the table of matches is. Repeated targets have one entry, and the order in which targets and
    sources are given does not matter. -/
structure Meaning (threshold : Float) (targets sources : List String) (mappings : List Mapping) :
    Prop where
  nodup_keys : (table threshold targets sources mappings).keys.Nodup
  mem_keys : ∀ t, t ∈ (table threshold targets sources mappings).keys ↔ t ∈ targets
  /-- The entry of a target is the same next to any other targets, and for any other list of the
      same sources. -/
  get?_eq : ∀ targets' sources' : List String, (∀ s, s ∈ sources' ↔ s ∈ sources) →
    ∀ t ∈ targets, t ∈ targets' →
      (table threshold targets' sources' mappings).get? t =
        (table threshold targets sources mappings).get? t
  isMatchOf : ∀ t ∈ targets, ∃ m, (table threshold targets sources mappings).get? t = some m ∧
    IsMatchOf threshold (Names.ofList sources) mappings t m

/-- The table of matches means what hints and similarities say, for every threshold that is moved into
    the unit interval, and for one that is not a number. -/
theorem table_meaning (threshold : Float) (targets sources : List String)
    (mappings : List Mapping) : Meaning (clampUnit threshold) targets sources mappings := by
  have hentry : ∀ targets' sources' : List String, ∀ t ∈ targets',
      (table (clampUnit threshold) targets' sources' mappings).get? t =
        some (matchOf (clampUnit threshold) (Names.ofList sources') mappings t) := by
    intro targets' sources' t ht
    rw [table, Table.get?_ofNames, if_pos (Names.mem_ofList.mpr ht)]
  refine ⟨Table.nodup_keys _, fun t => ?_, fun targets' sources' hsources t ht ht' => ?_,
    fun t ht => ⟨_, hentry targets sources t ht, isMatchOf_matchOf _ _ _ t⟩⟩
  · rw [table, Table.keys_ofNames]
    exact Names.mem_ofList
  · have hsame : Names.ofList sources' = Names.ofList sources := by
      refine Names.ext_mem fun s => ?_
      rw [Names.mem_ofList, Names.mem_ofList, hsources s]
    rw [hentry targets' sources' t ht', hentry targets sources t ht, hsame]

/-- The threshold that is taken if no other is given is in the unit interval already. -/
example : clampUnit defaultThreshold = defaultThreshold :=
  InUnit.clampUnit_eq ⟨by decide +kernel, by decide +kernel⟩

end Mapper

end Replatform
