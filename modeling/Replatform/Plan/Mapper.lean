import Replatform.Match
import Replatform.Plan.Pattern
import Replatform.Plan.Priority
import Replatform.Table

/-!
# Matching Targets to Sources

Every target file gets the legacy files that it is made from. A hint of the
analysis decides if there is one: all sources of all hints for the target belong to
it, and the primary source is the one with the highest confidence, the first reached
among equals. Without a hint the legacy file with the most similar path is taken,
the smallest path among equals, unless its similarity is below a threshold.

What a target is matched to depends on that target only, and not on the others.

## Main definitions

* `similarity`: How alike two paths are.
* `Mapper.explicit?`: The match of a target by hints.
* `Mapper.nearest`: The match of a target by similarity.
* `Mapper.table`: The matches of some targets.
-/

namespace Replatform

/-- Targets with their matches. -/
abbrev MatchTable := Table Match

/-- How alike two paths are: the share of common words among all words, a bonus for equal
    names, and one for agreeing on whether they belong to server code. -/
def similarity (target source : String) : Float :=
  let a := Path.tokens target
  let b := Path.tokens source
  let all := (a.union b).size
  let shared := if all = 0 then 0.0 else (a.inter b).size.toFloat / all.toFloat
  let named := if Path.fileStem target = Path.fileStem source then shared + 0.35 else shared
  if isApiPath target = isApiPath source then named + 0.05 else named

namespace Mapper

/-- The similarity from which on a source is accepted. -/
def defaultThreshold : Float := 0.18

/-- The sources of a hint, if it is a hint for the target and has any. -/
def hint? (target : String) (sources : Names) (m : Mapping) : Option (List String × Float) :=
  match (Pattern.parse m.source).resolve sources.toList with
  -- A hint without sources does not keep a target from being matched by similarity.
  | [] => none
  | found =>
    if (Pattern.parse m.target).accepts target then some (found, m.effectiveConfidence) else none

/-- Score a source, which keeps its place and its score if that is not lower. -/
def score (confidence : Float) (source : String) : List (String × Float) → List (String × Float)
  | [] => [(source, confidence)]
  | e :: es =>
    if e.1 = source then (if e.2 < confidence then (source, confidence) :: es else e :: es)
    else e :: score confidence source es

/-- Take in the sources of one more hint. -/
def gather (scores : List (String × Float)) (hint : List String × Float) :
    List (String × Float) :=
  hint.1.foldl (fun acc s => score hint.2 s acc) scores

/-- The first source with the highest score, given the best one so far. -/
def best : Option (String × Float) → List (String × Float) → Option (String × Float)
  | top, [] => top
  | none, e :: es => best (some e) es
  | some top, e :: es => best (some (if top.2 < e.2 then e else top)) es

/-- The match of a target by hints, if any hint is for it. -/
def explicit? (sources : Names) (mappings : List Mapping) (target : String) : Option Match :=
  match mappings.filterMap (hint? target sources) with
  | [] => none
  | hints =>
    let scores := hints.foldl gather []
    some {
      primary := (best none scores).map Prod.fst
      sources := Names.ofList (scores.map Prod.fst)
      confidence := clampUnit (hints.foldl (fun c h => if c ≤ h.2 then h.2 else c) 0.0) }

/-- The match of a target by similarity. -/
def nearest (threshold : Float) (sources : Names) (target : String) : Match :=
  match best none (sources.toList.map fun s => (s, similarity target s)) with
  | some (source, likeness) =>
    if threshold ≤ likeness then
      .ofPrimary source (if likeness < 1.0 then likeness else 1.0)
    else .unmatched
  | none => .unmatched

/-- The match of a target. -/
def matchOf (threshold : Float) (sources : Names) (mappings : List Mapping) (target : String) :
    Match :=
  (explicit? sources mappings target).getD (nearest threshold sources target)

/-- The matches of some targets. -/
def table (threshold : Float) (targets sources : List String) (mappings : List Mapping) :
    MatchTable :=
  Table.ofNames (Names.ofList targets) (matchOf threshold (Names.ofList sources) mappings)

end Mapper

end Replatform
