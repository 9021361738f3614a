import Replatform.Analysis

/-!
# Matches

Which legacy files a target file is made from. One of them may be the primary
source, which is then a member of the set.

## Main definitions

* `Match`: A primary source, all sources, and the confidence in them.
* `Match.IsConsistent`: The primary source is one of the sources.
* `Match.ordered`: The sources with the primary one first.
-/

namespace Replatform

/-- The legacy files that belong to a target file. -/
structure Match where
  primary : Option String
  sources : Names
  confidence : Float

namespace Match

/-- No source at all. -/
def unmatched : Match :=
  { primary := none, sources := ∅, confidence := 0.0 }

instance : Inhabited Match := ⟨unmatched⟩

/-- A single source. -/
def ofPrimary (source : String) (confidence : Float) : Match :=
  { primary := some source
    sources := Names.ofList [source]
    confidence := clampUnit confidence }

/-- There is a source. -/
def isMatched (m : Match) : Bool :=
  !m.sources.isEmpty

/-- The primary source, if there is one, is among the sources. -/
def IsConsistent (m : Match) : Prop :=
  ∀ p, m.primary = some p → p ∈ m.sources

/-- The sources other than the primary one, in order. -/
def others (m : Match) : List String :=
  m.sources.toList.filter fun s => m.primary ≠ some s

/-- The sources, the primary one first and the others in order. -/
def ordered (m : Match) : List String :=
  m.primary.toList ++ m.others

instance (m : Match) : Decidable m.IsConsistent :=
  match h : m.primary with
  | none => isTrue fun p hp => by simp [h] at hp
  | some p =>
    if hp : p ∈ m.sources then
      isTrue fun q hq => by
        rw [h] at hq
        exact Option.some.inj hq ▸ hp
    else isFalse fun hc => hp (hc p h)

end Match

end Replatform
