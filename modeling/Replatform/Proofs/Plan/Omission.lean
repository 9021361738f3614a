import Replatform.Proofs.Plan.Layout

/-!
# What a Context Leaves Out Without Saying So

A context says that it is truncated if a text was cut. Where it says that nothing was cut, and
has room for more related texts, one would take it to show every source that the primary source
reaches by imports. It need not, for two reasons.

The first is the budget. If a text uses up exactly what is left of it, this text is not cut, and
what comes after it is left out without a word. The second is the list of related paths, of which
only the front is looked at. Paths that stand for no source take up room in that front and then
come to nothing.

`showsWhole_iff` says what is shown in such a context: what has a place in the list, and comes
before the budget is used up. `not_omitsNothing` shows two contexts in which a file is missing,
each for one of the two reasons.

## Main definitions

* `Context.ShowsWhole`: The whole content of a legacy file is in a section.
* `Context.ComesIn`: A text comes before the budget is used up.
* `Context.OmitsNothing`: What one would expect.

## Theorems

* `showsWhole_iff_mem`: In a context in which nothing was cut, every piece shows its file.
* `exists_mem_iff_comesIn`: With room for more, the pieces are the texts that come in.
* `showsWhole_iff`: When a file is shown.
-/

namespace Replatform

namespace Context

variable {limits : ContextLimits} {r : ContextRequest} {file : String}

/-- The whole content of a legacy file is in a section of a context. -/
def ShowsWhole (limits : ContextLimits) (r : ContextRequest) (file : String) : Prop :=
  ∃ s ∈ Context.sections limits r, (s.kind = .primary ∨ s.kind = .related) ∧
    source? r s.path = some file ∧ r.sources.get? file = some s.body

instance : Decidable (ShowsWhole limits r file) :=
  inferInstanceAs (Decidable (∃ s ∈ Context.sections limits r, _ ∧ _ ∧ _))

/-- The number of related sections. -/
def relatedCount (limits : ContextLimits) (r : ContextRequest) : Nat :=
  (Context.sections limits r).countP fun s => s.kind = .related

/-- A context in which nothing was cut, and which has room for more related texts, shows every
    source that is reachable by imports from the primary source. -/
def OmitsNothing (limits : ContextLimits) (r : ContextRequest) : Prop :=
  ∀ primary start file, r.matched.primary = some primary →
    (assemble limits r).truncated = false → relatedCount limits r < limits.relatedFileCount →
    r.graph.resolve? primary = some start → Relation.ReflTransGen r.graph.Links start file →
    file ∈ r.sources.keys → ShowsWhole limits r file

variable {l : Layout}

theorem countP_map_toSection (kind kind' : SectionKind) (pieces : List Piece) :
    (pieces.map (Piece.toSection kind)).countP (fun s => s.kind = kind') =
      if kind = kind' then pieces.length else 0 := by
  rw [List.countP_map]
  by_cases hkind : kind = kind'
  · rw [if_pos hkind, List.countP_eq_length]
    exact fun p _ => decide_eq_true hkind
  · rw [if_neg hkind, List.countP_eq_zero]
    intro p _ htrue
    exact hkind (of_decide_eq_true htrue)

/-- There is a related section for every related piece. -/
theorem relatedCount_eq (hsections : Context.sections limits r = l.sections) :
    relatedCount limits r = l.related.length := by
  have hinstructions : (l.instructions.toList.map Layout.instructionSection).countP
      (fun s => s.kind = .related) = 0 := by
    rw [List.countP_map, List.countP_eq_zero]
    intro text _ htrue
    have hkind : SectionKind.instructions = .related := of_decide_eq_true htrue
    exact absurd hkind (by decide)
  rw [relatedCount, hsections, Layout.sections, List.countP_append, List.countP_append,
    List.countP_append, countP_map_toSection, countP_map_toSection, countP_map_toSection,
    hinstructions]
  simp only [reduceCtorEq, if_true, if_false, Nat.zero_add, Nat.add_zero]

/-- If nothing was cut, no piece of a legacy file is. -/
theorem not_isCut_of_mem_legacy (hsections : Context.sections limits r = l.sections)
    (hwhole : (assemble limits r).truncated = false) : ∀ p ∈ l.legacy, ¬ p.IsCut := by
  intro p hp hcut
  have htrue := (truncated_iff hsections).mpr ⟨p, List.mem_append_left _ hp, hcut⟩
  rw [hwhole] at htrue
  exact Bool.false_ne_true htrue

/-- If nothing was cut, a file is shown if and only if there is a piece for it. -/
theorem showsWhole_iff_mem (hsections : Context.sections limits r = l.sections)
    (hfits : l.Fits limits r) (hwhole : (assemble limits r).truncated = false) :
    ShowsWhole limits r file ↔ ∃ p ∈ l.legacy, source? r p.path = some file := by
  unfold ShowsWhole
  rw [hsections, Layout.sections]
  constructor
  · rintro ⟨s, hs, hkind, hfile, -⟩
    simp only [List.mem_append, List.mem_map, or_assoc] at hs
    rcases hs with ⟨p, hp, rfl⟩ | ⟨p, hp, rfl⟩ | ⟨p, -, rfl⟩ | ⟨text, -, rfl⟩
    · exact ⟨p, List.mem_append_left _ hp, hfile⟩
    · exact ⟨p, List.mem_append_right _ hp, hfile⟩
    -- What is left are sections of other kinds.
    · exact absurd hkind (by simp only [Piece.toSection, reduceCtorEq, or_self, not_false_eq_true])
    · exact absurd hkind (by
        simp only [Layout.instructionSection, reduceCtorEq, or_self, not_false_eq_true])
  · rintro ⟨p, hp, hfile⟩
    rcases hfits.of_mem_legacy hp with ⟨-, -, htext, -⟩
    rw [lookup_eq, hfile, Option.bind_some] at htext
    have hbody : ∀ kind, r.sources.get? file = some (p.toSection kind).body := by
      intro kind
      rw [Piece.body_toSection kind (not_isCut_of_mem_legacy hsections hwhole p hp), htext]
    rcases List.mem_append.mp hp with hp | hp
    · refine ⟨p.toSection .primary, ?_, Or.inl rfl, hfile, hbody .primary⟩
      simp only [List.mem_append]
      exact Or.inl (Or.inl (Or.inl (List.mem_map_of_mem hp)))
    · refine ⟨p.toSection .related, ?_, Or.inr rfl, hfile, hbody .related⟩
      simp only [List.mem_append]
      exact Or.inl (Or.inl (Or.inr (List.mem_map_of_mem hp)))

variable {primary : String}

/-- There is a piece for the primary source if it stands for a file. -/
theorem exists_mem_primary_iff (hfits : l.Fits limits r)
    (hprimary : r.matched.primary = some primary) :
    (∃ p ∈ l.primary.toList, source? r p.path = some file) ↔ source? r primary = some file := by
  rw [hfits.primary, hprimary, Option.bind_some]
  constructor
  · rintro ⟨p, hp, hfile⟩
    rcases Option.map_eq_some_iff.mp (Option.mem_toList.mp hp) with ⟨text, -, rfl⟩
    exact hfile
  · intro hfile
    rcases exists_lookup r hfile with ⟨text, -, htext⟩
    refine ⟨⟨primary, text, limits.primaryFileChars⟩, ?_, hfile⟩
    rw [htext, Option.map_some, Option.toList_some, List.mem_singleton]

/-- In a context in which nothing was cut and which has room for more related texts, a file is
    shown if it is that of the primary source, or a related path stands for it and comes before
    the budget is used up. The first paths that the primary source reaches are related to it. -/
theorem showsWhole_iff (hprimary : r.matched.primary = some primary)
    (hwhole : (assemble limits r).truncated = false)
    (hroom : relatedCount limits r < limits.relatedFileCount) (hfile : file ∈ r.sources.keys) :
    (ShowsWhole limits r file ↔ source? r primary = some file ∨
      ∃ path, source? r path = some file ∧
        ComesIn limits.relatedTotalChars (relatedTexts r limits) path) ∧
    (file ∈ r.graph.related primary limits.relatedFileCount →
      ∃ text, (file, text) ∈ relatedTexts r limits) := by
  rcases exists_layout limits r with ⟨l, hsections, hfits⟩
  rcases hfits.spends with ⟨left, rest, hspends, -⟩
  constructor
  · have huncut : ∀ p ∈ l.related, ¬ p.IsCut := fun p hp =>
      not_isCut_of_mem_legacy hsections hwhole p (List.mem_append_right _ hp)
    have hcomes := hspends.exists_path_iff (relatedCount_eq hsections ▸ hroom) huncut
    rw [showsWhole_iff_mem hsections hfits hwhole, ← exists_mem_primary_iff hfits hprimary]
    simp only [Layout.legacy, List.mem_append, or_and_right, exists_or, ← hcomes]
    refine or_congr_right ⟨?_, ?_⟩
    · rintro ⟨p, hp, hsource⟩
      exact ⟨p.path, hsource, p, hp, rfl⟩
    · rintro ⟨path, hsource, p, hp, rfl⟩
      exact ⟨p, hp, hsource⟩
  · intro hrelated
    rcases exists_lookup r (source?_of_mem_keys r hfile) with ⟨text, -, htext⟩
    exact ⟨text, (mem_relatedTexts hprimary).mpr ⟨mem_relatedPaths_of_mem_related r hrelated, htext⟩⟩

theorem showsWhole_circling :
    circling.matched.primary = some "main.js" ∧ (assemble {} circling).truncated = false ∧
      relatedCount {} circling < ({} : ContextLimits).relatedFileCount ∧
      "b.js" ∈ circling.sources.keys ∧ ShowsWhole {} circling "b.js" := by
  have hprimary : circling.matched.primary = some "main.js" := rfl
  have hwhole : (assemble {} circling).truncated = false := by decide +kernel
  have hroom : relatedCount {} circling < ({} : ContextLimits).relatedFileCount := by
    decide +kernel
  have hfile : "b.js" ∈ circling.sources.keys := by decide +kernel
  refine ⟨hprimary, hwhole, hroom, hfile, ?_⟩
  refine (showsWhole_iff hprimary hwhole hroom hfile).1.mpr (Or.inr ⟨"b.js", by decide +kernel, ?_⟩)
  -- Only one text comes before that of this file.
  refine ⟨[("a.js", "import './b'; import './main'")], "import './main'",
    [("main.css", "@import './b'")], by decide +kernel, by decide +kernel⟩

/-- A request for a target that is made from one source, which imports two paths. -/
def importing (first second : String) (others : List (String × String)) : ContextRequest :=
  let sources : SourceFiles := Table.ofList
    (("main.js", "import '" ++ first ++ "'; import '" ++ second ++ "'") :: others)
  { matched := Match.ofPrimary "main.js" 1.0, sources, graph := Graph.build sources.entries }

/-- Two imported files, the first of which uses up a budget of ten characters. -/
def spent : ContextRequest :=
  importing "./a" "./b" [("a.js", "let a = 1;"), ("b.js", "let b = 2;")]

/-- A file that is imported after one that is not there. -/
def crowdedOut : ContextRequest :=
  importing "./gone" "./b" [("b.js", "let b = 2;")]

/-- The second file is left out, though nothing was cut and there is room for more sections: in
    one context because the budget is used up, in the other because only one path is looked at. -/
theorem not_omitsNothing :
    ¬ OmitsNothing { relatedTotalChars := 10 } spent ∧
      ¬ OmitsNothing { relatedFileCount := 1 } crowdedOut := by
  constructor
  · intro h
    have hlinks : spent.graph.Links "main.js" "b.js" := ⟨by decide +kernel, by decide +kernel⟩
    have hshown := h "main.js" "main.js" "b.js" rfl (by decide +kernel) (by decide +kernel)
      (by decide +kernel) (Relation.ReflTransGen.single hlinks) (by decide +kernel)
    exact absurd hshown (by decide +kernel)
  · intro h
    have hlinks : crowdedOut.graph.Links "main.js" "b.js" :=
      ⟨by decide +kernel, by decide +kernel⟩
    have hshown := h "main.js" "main.js" "b.js" rfl (by decide +kernel) (by decide +kernel)
      (by decide +kernel) (Relation.ReflTransGen.single hlinks) (by decide +kernel)
    exact absurd hshown (by decide +kernel)

end Context

end Replatform
