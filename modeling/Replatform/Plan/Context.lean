import Replatform.Graph
import Replatform.Match
import Replatform.Table

/-!
# Context

The source text that goes along with a request for a file. It is made of sections
with a title line: the primary source, sources related to it, finished files that
the target depends on, and instructions. Every section has a ceiling, and the
related ones share a budget; what does not fit is cut off, and a line says how much.

## Main definitions

* `ContextLimits`: The ceilings.
* `truncate`: Cut a text, saying how much was left out.
* `Context`: The sections of a context with its text.
* `Context.assemble`: The context of one target.
* `Context.overview`: All legacy files in one text.
-/

namespace Replatform

/-- Legacy files with their contents. -/
abbrev SourceFiles := Table String

/-- Ceilings, in characters unless they are counts. -/
structure ContextLimits where
  primaryFileChars : Nat := 16000
  relatedFileChars : Nat := 8000
  relatedTotalChars : Nat := 32000
  legacyTotalChars : Nat := 120000
  relatedFileCount : Nat := 8
  generatedDependencyCount : Nat := 4
deriving DecidableEq, Repr, Inhabited

/-- The first `cap` characters of a text, with a line that says how many were left out if
    any were, and whether that is so. -/
def truncate (text : String) (cap : Nat) : String × Bool :=
  let total := text.length
  if total ≤ cap then (text, false)
  else
    (String.ofList (text.toList.take cap) ++ "\n[truncated " ++ toString (total - cap) ++ " chars]",
      true)

/-- What a section is for. -/
inductive SectionKind where
  | primary
  | related
  | generated
  | overview
  | instructions
deriving DecidableEq, Repr

/-- One section of a context. -/
structure Section where
  kind : SectionKind
  path : String
  body : String
  cut : Bool
deriving DecidableEq, Repr

namespace Section

/-- The title of a section. -/
def title (s : Section) : String :=
  match s.kind with
  | .primary => "PRIMARY SOURCE: " ++ s.path
  | .related => "RELATED SOURCE: " ++ s.path
  | .generated => "GENERATED DEPENDENCY: " ++ s.path
  | .overview => "FILE: " ++ s.path
  | .instructions => "ADDITIONAL INSTRUCTIONS (highest priority)"

/-- The text of a section. -/
def render (s : Section) : String :=
  "=== " ++ s.title ++ " ===\n" ++ s.body

/-- A section with as much of a text as fits under a ceiling. -/
def ofText (kind : SectionKind) (path text : String) (cap : Nat) : Section :=
  let (body, cut) := truncate text cap
  { kind, path, body, cut }

end Section

/-- A text put together from sections. -/
structure Context where
  text : String := ""
  /-- The files in it, in order. -/
  included : List String := []
  /-- Something was cut off. -/
  truncated : Bool := false
deriving DecidableEq, Repr, Inhabited

/-- What a context is made from. -/
structure ContextRequest where
  matched : Match
  sources : SourceFiles
  graph : Graph
  /-- Finished files that the target depends on, with their contents. -/
  generated : List (String × String) := []
  instructions : Option String := none

namespace Context

/-- The context made of some sections. -/
def ofSections (sections : List Section) : Context :=
  { text := String.intercalate "\n\n" (sections.map Section.render)
    included := (sections.filter (·.kind ≠ .instructions)).map Section.path
    truncated := sections.any Section.cut }

/-- The content of a legacy file, under its path or that of the file it stands for. -/
def lookup (r : ContextRequest) (path : String) : Option String :=
  (r.sources.get? path).or ((r.graph.resolve? path).bind r.sources.get?)

/-- The files related to the primary source, and then the other sources with the files
    related to them, each once. -/
def relatedPaths (r : ContextRequest) (primary : String) (limit : Nat) : List String :=
  let all := r.graph.related primary limit ++
    r.matched.others.flatMap fun s => s :: r.graph.related s limit
  let self := [primary] ++ (r.graph.resolve? primary).toList
  (all.filter fun p => !self.contains p).eraseDups

/-- Sections for texts, at most `count` of them, as long as the budget lasts: the sections
    and what is left of the budget. -/
def spend (kind : SectionKind) (cap : Nat) :
    Nat → Nat → List (String × String) → List Section × Nat
  | 0, budget, _ => ([], budget)
  | _ + 1, budget, [] => ([], budget)
  | count + 1, budget, (path, text) :: rest =>
    if budget = 0 then ([], 0)
    else
      let room := min cap budget
      let later := spend kind cap count (budget - min text.length room) rest
      (Section.ofText kind path text room :: later.1, later.2)

/-- The sections for a target with a primary source. -/
def primarySections (limits : ContextLimits) (r : ContextRequest) (primary : String) :
    List Section :=
  let first := ((lookup r primary).map fun text =>
    Section.ofText .primary primary text limits.primaryFileChars).toList
  let related := (relatedPaths r primary limits.relatedFileCount).filterMap fun path =>
    (lookup r path).map fun text => (path, text)
  let (relatedSections, budget) :=
    spend .related limits.relatedFileChars limits.relatedFileCount limits.relatedTotalChars related
  let (generatedSections, _) :=
    spend .generated limits.relatedFileChars limits.generatedDependencyCount budget r.generated
  first ++ relatedSections ++ generatedSections

/-- The sections for a target. Blank instructions count as none. -/
def sections (limits : ContextLimits) (r : ContextRequest) : List Section :=
  let sources := match r.matched.primary with
    | some primary => primarySections limits r primary
    | none => []
  let instructions := match r.instructions with
    | some text =>
      if Text.isBlankText text then []
      else [{ kind := .instructions, path := "", body := Text.trim text, cut := false }]
    | none => []
  sources ++ instructions

/-- The context of a target. -/
def assemble (limits : ContextLimits) (r : ContextRequest) : Context :=
  ofSections (sections limits r)

/-- All legacy files in one text, with one ceiling for the whole of it. -/
def overview (limits : ContextLimits) (sources : SourceFiles) : Context :=
  let all := ofSections (sources.entries.map fun e =>
    { kind := .overview, path := e.1, body := e.2, cut := false })
  let (text, cut) := truncate all.text limits.legacyTotalChars
  { all with text, truncated := cut }

end Context

end Replatform
