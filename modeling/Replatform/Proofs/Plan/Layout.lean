import Replatform.Plan.Context
import Replatform.Proofs.Graph.Search
import Replatform.Proofs.Plan.Budget
import Replatform.Proofs.Table

/-!
# The Layout of a Context

What a context is made of, and how much of it there can be. The context of a target begins with
the primary source, and goes on with texts related to it and with finished files that the target
depends on. The instructions come last.

A context is made from paths, and each of them stands for the content of a legacy file. Usually
that is the file with this path. If the sources have none, it is the file that the graph finds
for the path. `source?` names the file, so that two paths can be compared by what is shown for
them. A path that the graph lists is a file itself or stands for none
(`source?_of_mem_reachable`), whatever the graph was built from. Only a path of the match may
show a file with another path, and only if it is not one of the sources. No path is listed twice,
and neither the primary source nor its file is listed again.

Only the primary source has a ceiling to itself. All that comes after it shares a budget, which
is spent on the related texts first, and what they leave is there for the finished files. The
two are therefore one account (`Fits.paid`), and the bounds on the two together are those of the
account.

A source can be in the match and around another source at the same time. That it is shown once
is due to the paths being different, and to every path showing the file that has it. The second
holds if the match names sources that there are (`Fits.own_text`); nothing is asked of the graph.

## Main definitions

* `Context.source?`: The legacy file that is shown for a path.
* `Context.relatedTexts`: The texts for the related sections.
* `Context.Layout`: The pieces of a context.
* `Layout.Fits`: The pieces are those for a target.
* `Layout.Bounded`: The pieces keep to the limits.
* `Layout.Distinct`: No legacy file is shown in two pieces.

## Theorems

* `lookup_eq`: What is shown for a path is the content of its file.
* `source?_of_mem_reachable`: What the graph lists shows nothing but itself.
* `mem_relatedPaths`, `nodup_relatedPaths`: Which paths are related, each once.
* `mem_relatedTexts`, `nodup_relatedTexts`: Which texts there are for them.
* `exists_layout`: Every context has a layout that fits.
* `truncated_iff`: A context says that something was cut off if that is so of a piece.
* `Fits.bounded`: A layout that fits keeps to the limits.
* `Fits.distinct`: It shows every legacy file once.
* `assemble_layout`: What the context of a target is made of.
-/

namespace Replatform

namespace Context

variable (r : ContextRequest)

/-- The legacy file that is shown for a path: the one with this path, or the one that the graph
    finds for it. -/
def source? (path : String) : Option String :=
  if path ∈ r.sources.keys then some path
  else (r.graph.resolve? path).filter fun file => file ∈ r.sources.keys

/-- What is shown for a path is the content of its file. -/
theorem lookup_eq (path : String) : lookup r path = (source? r path).bind r.sources.get? := by
  unfold lookup source?
  by_cases hpath : path ∈ r.sources.keys
  · rcases (Table.mem_keys_iff r.sources path).mp hpath with ⟨text, htext⟩
    rw [if_pos hpath, htext, Option.some_or, Option.bind_some, htext]
  · have hnone : ∀ {file}, file ∉ r.sources.keys → r.sources.get? file = none := by
      intro file hfile
      rw [Option.eq_none_iff_forall_ne_some]
      intro text htext
      exact hfile ((Table.mem_keys_iff r.sources file).mpr ⟨text, htext⟩)
    rw [if_neg hpath, hnone hpath, Option.none_or]
    -- A file that the graph finds may be none of the sources, and then there is no content.
    cases r.graph.resolve? path with
    | none => rfl
    | some file =>
        rw [Option.bind_some, Option.filter_some]
        by_cases hfile : file ∈ r.sources.keys
        · rw [if_pos (decide_eq_true hfile), Option.bind_some]
        · rw [if_neg (by rwa [decide_eq_true_eq]), Option.bind_none, hnone hfile]

theorem source?_of_mem_keys {path : String} (h : path ∈ r.sources.keys) :
    source? r path = some path :=
  if_pos h

theorem mem_keys_of_source? {path file : String} (h : source? r path = some file) :
    file ∈ r.sources.keys := by
  unfold source? at h
  by_cases hpath : path ∈ r.sources.keys
  · rw [if_pos hpath, Option.some.injEq] at h
    exact h ▸ hpath
  · rw [if_neg hpath, Option.filter_eq_some_iff, decide_eq_true_eq] at h
    exact h.2

/-- Something is shown for a path if there is a file for it. -/
theorem exists_lookup {path file : String} (h : source? r path = some file) :
    ∃ text, r.sources.get? file = some text ∧ lookup r path = some text := by
  rcases (Table.mem_keys_iff r.sources file).mp (mem_keys_of_source? r h) with ⟨text, htext⟩
  refine ⟨text, htext, ?_⟩
  rw [lookup_eq, h, Option.bind_some, htext]

/-- What the graph lists shows nothing but itself. -/
theorem source?_of_mem_reachable {start path file : String} (h : path ∈ r.graph.reachable start)
    (hfile : source? r path = some file) : file = path := by
  have hsame := Graph.canonical_of_mem_reachable h
  unfold source? at hfile
  by_cases hpath : path ∈ r.sources.keys
  · rw [if_pos hpath, Option.some.injEq] at hfile
    exact hfile.symm
  · rw [if_neg hpath, Option.filter_eq_some_iff] at hfile
    rw [← hsame, Graph.canonical_of_resolve? hfile.1]

/-- Under a path of the sources, or one that the graph lists, the content of the file with this
    path is shown. -/
theorem get?_of_lookup {path text : String}
    (hpath : path ∈ r.sources.keys ∨ ∃ start, path ∈ r.graph.reachable start)
    (h : lookup r path = some text) : r.sources.get? path = some text := by
  rw [lookup_eq, Option.bind_eq_some_iff] at h
  rcases h with ⟨file, hfile, htext⟩
  have hsame : file = path := by
    rcases hpath with hkey | ⟨start, hreach⟩
    · rw [source?_of_mem_keys r hkey, Option.some.injEq] at hfile
      exact hfile.symm
    · exact source?_of_mem_reachable r hreach hfile
  rwa [hsame] at htext

/-- The related paths are those around the primary source, the other sources and those around
    them, without the primary source and its file. -/
theorem mem_relatedPaths {primary path : String} {limit : Nat} :
    path ∈ relatedPaths r primary limit ↔
      (path ∈ r.graph.related primary limit ∨
        ∃ s ∈ r.matched.others, path = s ∨ path ∈ r.graph.related s limit) ∧
      path ≠ primary ∧ r.graph.resolve? primary ≠ some path := by
  simp only [relatedPaths, List.mem_eraseDups, List.mem_filter, List.mem_append, List.mem_flatMap,
    List.mem_cons, Bool.not_eq_true', List.contains_eq_mem, decide_eq_false_iff_not,
    List.not_mem_nil, or_false, Option.mem_toList, not_or, ne_eq]

theorem nodup_relatedPaths (primary : String) (limit : Nat) :
    (relatedPaths r primary limit).Nodup :=
  nodup_eraseDups _

/-- What is around the primary source is related to it, and never the source itself. -/
theorem mem_relatedPaths_of_mem_related {primary path : String} {limit : Nat}
    (h : path ∈ r.graph.related primary limit) : path ∈ relatedPaths r primary limit := by
  have hreach : path ∈ r.graph.reachable primary := List.mem_of_mem_take h
  refine (mem_relatedPaths r).mpr ⟨Or.inl h, fun heq => ?_, fun hfile => ?_⟩
  · exact Graph.not_mem_reachable primary (heq ▸ hreach)
  · exact (((Graph.listsReachable_reachable hfile).1.mem path).mp hreach).1 rfl

/-- The texts for the related sections, with their paths. -/
def relatedTexts (limits : ContextLimits) : List (String × String) :=
  match r.matched.primary with
  | some primary =>
    (relatedPaths r primary limits.relatedFileCount).filterMap fun path =>
      (lookup r path).map fun text => (path, text)
  | none => []

variable {r} {limits : ContextLimits} {primary : String}

theorem mem_relatedTexts (hprimary : r.matched.primary = some primary) {path text : String} :
    (path, text) ∈ relatedTexts r limits ↔
      path ∈ relatedPaths r primary limits.relatedFileCount ∧ lookup r path = some text := by
  rw [relatedTexts, hprimary]
  simp only [List.mem_filterMap, Option.map_eq_some_iff, Prod.mk.injEq]
  constructor
  · rintro ⟨path', hpath, text', htext, rfl, rfl⟩
    exact ⟨hpath, htext⟩
  · rintro ⟨hpath, htext⟩
    exact ⟨path, hpath, text, htext, rfl, rfl⟩

/-- The texts have different paths, and none of them has that of the primary source. -/
theorem nodup_relatedTexts (hprimary : r.matched.primary = some primary) :
    (primary :: (relatedTexts r limits).map Prod.fst).Nodup := by
  rw [List.nodup_cons]
  constructor
  · intro hin
    rcases List.mem_map.mp hin with ⟨⟨path, text⟩, hmem, rfl⟩
    exact ((mem_relatedPaths r).mp ((mem_relatedTexts hprimary).mp hmem).1).2.1 rfl
  · have hpaths : (relatedTexts r limits).map Prod.fst =
        (relatedPaths r primary limits.relatedFileCount).filter fun path =>
          (lookup r path).isSome := by
      rw [relatedTexts, hprimary, List.map_filterMap, ← List.filterMap_eq_filter]
      refine List.filterMap_congr fun path _ => ?_
      cases h : lookup r path <;> simp [Option.guard, h]
    rw [hpaths]
    exact (nodup_relatedPaths r primary _).filter _

end Context

namespace Context

/-- The pieces of a context: the primary source, what is related to it, the finished files, and
    the instructions. -/
structure Layout where
  primary : Option Piece
  related : List Piece
  generated : List Piece
  instructions : Option String
deriving DecidableEq, Repr

namespace Layout

/-- The pieces that show legacy files. -/
def legacy (l : Layout) : List Piece :=
  l.primary.toList ++ l.related

/-- The pieces that share the budget. -/
def shared (l : Layout) : List Piece :=
  l.related ++ l.generated

/-- The section for instructions, which are never cut. -/
def instructionSection (text : String) : Section :=
  { kind := .instructions, path := "", body := text, cut := false }

/-- The sections in their order. -/
def sections (l : Layout) : List Section :=
  l.primary.toList.map (Piece.toSection .primary) ++ l.related.map (Piece.toSection .related) ++
    l.generated.map (Piece.toSection .generated) ++ l.instructions.toList.map instructionSection

/-- The finished files that go into the context of a target. Without a primary source there are
    none. -/
def generatedTexts (r : ContextRequest) : List (String × String) :=
  if r.matched.primary.isSome then r.generated else []

/-- The instructions that go into a context, which are not blank. -/
def instructionText (r : ContextRequest) : Option String :=
  (r.instructions.filter fun text => !Text.isBlankText text).map Text.trim

/-- The pieces are those for a target: the primary source if it is found, and what the budget
    allows of the related texts and, from what these leave, of the finished files. -/
structure Fits (limits : ContextLimits) (r : ContextRequest) (l : Layout) : Prop where
  primary : l.primary = r.matched.primary.bind fun path =>
    (lookup r path).map fun text => ⟨path, text, limits.primaryFileChars⟩
  spends : ∃ left rest,
    Spends limits.relatedFileChars limits.relatedFileCount limits.relatedTotalChars
      (relatedTexts r limits) l.related left ∧
    Spends limits.relatedFileChars limits.generatedDependencyCount left (generatedTexts r)
      l.generated rest
  instructions : l.instructions = instructionText r

/-- The pieces keep to the limits. That they are paid for means that what each of them takes
    from the budget is there to be taken. -/
structure Bounded (limits : ContextLimits) (r : ContextRequest) (l : Layout) : Prop where
  primary_cap : ∀ p ∈ l.primary, p.cap = limits.primaryFileChars
  related_count : l.related.length ≤ limits.relatedFileCount
  generated_count : l.generated.length ≤ limits.generatedDependencyCount
  generated_order : l.generated.map Piece.source <+: r.generated
  caps : ∀ p ∈ l.shared, p.cap ≤ limits.relatedFileChars
  paid : ∃ rest, Paid limits.relatedFileChars limits.relatedTotalChars l.shared rest
  total : (l.shared.map Piece.size).sum ≤ limits.relatedTotalChars

/-- Every piece of a legacy file shows the file that it has the path of, and no other piece shows
    this file. -/
structure Distinct (r : ContextRequest) (l : Layout) : Prop where
  own : ∀ p ∈ l.legacy, r.sources.get? p.path = some p.text
  nodup : (l.legacy.map Piece.path).Nodup

end Layout

open Layout

variable {limits : ContextLimits} {r : ContextRequest} {l : Layout}

/-- The sections for a target with a primary source are those of pieces. -/
theorem exists_primarySections (limits : ContextLimits) (r : ContextRequest) (primary : String) :
    ∃ related generated left rest,
      primarySections limits r primary =
        ((lookup r primary).map fun text =>
          Piece.toSection .primary ⟨primary, text, limits.primaryFileChars⟩).toList ++
        related.map (Piece.toSection .related) ++ generated.map (Piece.toSection .generated) ∧
      Spends limits.relatedFileChars limits.relatedFileCount limits.relatedTotalChars
        ((relatedPaths r primary limits.relatedFileCount).filterMap fun path =>
          (lookup r path).map fun text => (path, text)) related left ∧
      Spends limits.relatedFileChars limits.generatedDependencyCount left r.generated generated
        rest := by
  -- The finished files are paid for from what the related texts leave.
  rcases exists_spends .related limits.relatedFileChars limits.relatedFileCount
    limits.relatedTotalChars ((relatedPaths r primary limits.relatedFileCount).filterMap
      fun path => (lookup r path).map fun text => (path, text)) with
    ⟨related, left, hrelated, hspends⟩
  rcases exists_spends .generated limits.relatedFileChars limits.generatedDependencyCount left
    r.generated with ⟨generated, rest, hgenerated, hspends'⟩
  refine ⟨related, generated, left, rest, ?_, hspends, hspends'⟩
  unfold primarySections
  simp only [hrelated, hgenerated]
  rfl

/-- The sections of a context are those of the sources, and then that of the instructions if they
    are not blank. -/
theorem sections_eq (limits : ContextLimits) (r : ContextRequest) :
    Context.sections limits r = r.matched.primary.elim [] (primarySections limits r) ++
      (instructionText r).toList.map instructionSection := by
  unfold Context.sections
  refine congrArg₂ (· ++ ·) ?_ ?_
  · cases r.matched.primary with
    | none => rfl
    | some primary => rfl
  · unfold instructionText
    cases r.instructions with
    | none => rfl
    | some text =>
        rw [Option.filter_some]
        by_cases hblank : Text.isBlankText text = true
        · have hnot : ¬ (!Text.isBlankText text) = true := by
            rw [hblank]
            exact Bool.false_ne_true
          rw [if_neg hnot]
          exact if_pos hblank
        · have hnot : (!Text.isBlankText text) = true := by
            rw [Bool.not_eq_true', ← Bool.not_eq_true]
            exact hblank
          rw [if_pos hnot]
          exact if_neg hblank

/-- Every context has a layout that fits. -/
theorem exists_layout (limits : ContextLimits) (r : ContextRequest) :
    ∃ l : Layout, Context.sections limits r = l.sections ∧ l.Fits limits r := by
  rw [sections_eq]
  cases hprimary : r.matched.primary with
  | none =>
      -- Without a primary source nothing is spent.
      refine ⟨⟨none, [], [], instructionText r⟩, rfl, ⟨?_, ?_, rfl⟩⟩
      · rw [hprimary, Option.bind_none]
      · refine ⟨limits.relatedTotalChars, limits.relatedTotalChars, ?_, ?_⟩
        · rw [relatedTexts, hprimary]
          exact spends_nil _ _ _
        · rw [generatedTexts, hprimary]
          exact spends_nil _ _ _
  | some primary =>
      rcases exists_primarySections limits r primary with
        ⟨related, generated, left, rest, heq, hrelated, hgenerated⟩
      refine ⟨⟨(lookup r primary).map fun text => ⟨primary, text, limits.primaryFileChars⟩, related,
        generated, instructionText r⟩, ?_, ⟨?_, ⟨left, rest, ?_, ?_⟩, rfl⟩⟩
      · rw [Option.elim_some, heq]
        cases lookup r primary with
        | none => rfl
        | some text => rfl
      · rw [hprimary, Option.bind_some]
      · rw [relatedTexts, hprimary]
        exact hrelated
      · rw [generatedTexts, hprimary]
        exact hgenerated

/-- A context says that something was cut off if that is so of a piece. -/
theorem truncated_iff (hsections : Context.sections limits r = l.sections) :
    (assemble limits r).truncated = true ↔ ∃ p ∈ l.legacy ++ l.generated, p.IsCut := by
  have hcut : (assemble limits r).truncated = l.sections.any Section.cut := by
    rw [assemble, hsections]
    rfl
  rw [hcut, Layout.sections, legacy]
  simp only [List.any_append, List.any_map, Bool.or_eq_true, List.any_eq_true, Function.comp_apply,
    Piece.cut_toSection, List.mem_append, or_and_right, exists_or]
  -- The instructions are never cut.
  refine or_iff_left ?_
  rintro ⟨text, -, hfalse⟩
  exact Bool.false_ne_true hfalse

/-- The related texts and the finished files are paid for together. -/
theorem Layout.Fits.paid (h : l.Fits limits r) :
    ∃ rest, Paid limits.relatedFileChars limits.relatedTotalChars l.shared rest := by
  rcases h.spends with ⟨left, rest, hrelated, hgenerated⟩
  exact ⟨rest, hrelated.paid.append hgenerated.paid⟩

/-- A layout that fits keeps to the limits. -/
theorem Layout.Fits.bounded (h : l.Fits limits r) : l.Bounded limits r := by
  rcases h.paid with ⟨rest, hpaid⟩
  rcases h.spends with ⟨left, rest', hrelated, hgenerated⟩
  refine ⟨fun p hp => ?_, hrelated.length_le, hgenerated.length_le, ?_, hpaid.cap_le,
    ⟨rest, hpaid⟩, ?_⟩
  · rw [h.primary, Option.mem_def, Option.bind_eq_some_iff] at hp
    rcases hp with ⟨path, -, hp⟩
    rcases Option.map_eq_some_iff.mp hp with ⟨text, -, rfl⟩
    rfl
  · refine hgenerated.front.trans ?_
    unfold generatedTexts
    split
    · exact List.prefix_refl _
    · exact List.nil_prefix
  · have htotal := hpaid.total
    omega

/-- The pieces of legacy files are for the primary source and for the paths related to it, and
    show what these stand for. -/
theorem Layout.Fits.of_mem_legacy (h : l.Fits limits r) {p : Piece} (hp : p ∈ l.legacy) :
    ∃ primary, r.matched.primary = some primary ∧ lookup r p.path = some p.text ∧
      (p.path = primary ∨ p.path ∈ relatedPaths r primary limits.relatedFileCount) := by
  rcases List.mem_append.mp hp with hp | hp
  · rw [h.primary, Option.mem_toList, Option.bind_eq_some_iff] at hp
    rcases hp with ⟨path, hpath, hp⟩
    rcases Option.map_eq_some_iff.mp hp with ⟨text, htext, rfl⟩
    exact ⟨path, hpath, htext, Or.inl rfl⟩
  · rcases h.spends with ⟨left, rest, hrelated, -⟩
    have hin : p.source ∈ relatedTexts r limits :=
      hrelated.front.subset (List.mem_map_of_mem hp)
    cases hprimary : r.matched.primary with
    | none =>
        rw [relatedTexts, hprimary] at hin
        exact absurd hin List.not_mem_nil
    | some primary =>
        rcases (mem_relatedTexts hprimary).mp hin with ⟨hpath, htext⟩
        exact ⟨primary, rfl, htext, Or.inr hpath⟩

/-- No two pieces of legacy files have the same path. -/
theorem Layout.Fits.nodup_paths (h : l.Fits limits r) : (l.legacy.map Piece.path).Nodup := by
  rcases h.spends with ⟨left, rest, hrelated, -⟩
  have hpaths : l.related.map Piece.path <+: (relatedTexts r limits).map Prod.fst := by
    have hfront := hrelated.front.map Prod.fst
    rwa [List.map_map] at hfront
  rw [legacy, List.map_append]
  cases hprimary : r.matched.primary with
  | none =>
      rw [relatedTexts, hprimary, List.map_nil, List.prefix_nil] at hpaths
      rw [h.primary, hprimary, hpaths]
      exact List.nodup_nil
  | some primary =>
      -- The paths are some of those of the primary source and the texts related to it.
      have hnodup : (primary :: (relatedTexts r limits).map Prod.fst).Nodup :=
        nodup_relatedTexts hprimary
      refine hnodup.sublist ?_
      rw [h.primary, hprimary, Option.bind_some]
      cases lookup r primary with
      | none => exact hpaths.sublist.cons primary
      | some text => exact hpaths.sublist.cons_cons primary

/-- If the match names sources that there are, every legacy file is shown once. -/
theorem Layout.Fits.distinct (h : l.Fits limits r)
    (hkeys : ∀ s ∈ r.matched.ordered, s ∈ r.sources.keys) : l.Distinct r := by
  refine ⟨fun p hp => ?_, h.nodup_paths⟩
  rcases h.of_mem_legacy hp with ⟨primary, hprimary, htext, hpath⟩
  refine get?_of_lookup r ?_ htext
  rcases hpath with heq | hpath
  · refine Or.inl (hkeys p.path (List.mem_append_left _ ?_))
    rw [heq, hprimary, Option.toList_some, List.mem_singleton]
  · -- A related path is in the match, or it is listed around a source.
    rcases (mem_relatedPaths r).mp hpath with ⟨hin | ⟨s, hs, heq | hin⟩, -⟩
    · exact Or.inr ⟨primary, List.mem_of_mem_take hin⟩
    · exact Or.inl (hkeys p.path (List.mem_append_right _ (heq ▸ hs)))
    · exact Or.inr ⟨s, List.mem_of_mem_take hin⟩

/-- The context of a target is made of the primary source, the texts related to it, finished files
    and the instructions, in this order and within the limits. It says that something was cut off
    if and only if that is so, and it shows no legacy file twice, if the match names sources that
    there are. -/
theorem assemble_layout (limits : ContextLimits) (r : ContextRequest) :
    ∃ l : Layout, assemble limits r = ofSections l.sections ∧ l.Fits limits r ∧
      l.Bounded limits r ∧
      ((assemble limits r).truncated = true ↔ ∃ p ∈ l.legacy ++ l.generated, p.IsCut) ∧
      ((∀ s ∈ r.matched.ordered, s ∈ r.sources.keys) → l.Distinct r) := by
  rcases exists_layout limits r with ⟨l, hsections, hfits⟩
  refine ⟨l, ?_, hfits, hfits.bounded, truncated_iff hsections, hfits.distinct⟩
  rw [assemble, hsections]

/-- Sources that import each other in a circle. -/
def circle : SourceFiles :=
  Table.ofList [("main.js", "import './a'"), ("a.js", "import './b'; import './main'"),
    ("b.js", "import './main'"), ("main.css", "@import './b'")]

/-- A request for a target that is made from two of these sources, one of which is also around
    the other. -/
def circling : ContextRequest :=
  { matched :=
      { primary := some "main.js", sources := Names.ofList ["a.js", "main.css", "main.js"],
        confidence := 1.0 }
    sources := circle
    graph := Graph.build circle.entries
    generated := [("src/b.ts", "export const b = 1;")]
    instructions := some " Use hooks. " }

/-- Limits with a budget that runs out. -/
def narrow : ContextLimits :=
  { relatedFileChars := 20, relatedTotalChars := 55 }

theorem assemble_layout_circling :
    (∀ s ∈ circling.matched.ordered, s ∈ circling.sources.keys) ∧
      (assemble narrow circling).included = ["main.js", "a.js", "b.js", "main.css", "src/b.ts"] ∧
      ∃ l : Layout, assemble narrow circling = ofSections l.sections ∧ l.Bounded narrow circling ∧
        l.Distinct circling := by
  have hkeys : ∀ s ∈ circling.matched.ordered, s ∈ circling.sources.keys := by decide +kernel
  refine ⟨hkeys, by decide +kernel, ?_⟩
  rcases assemble_layout narrow circling with ⟨l, hl, -, hbounded, -, hdistinct⟩
  exact ⟨l, hl, hbounded, hdistinct hkeys⟩

end Context

end Replatform
