import Replatform.Migration.StaticCheck
import Replatform.Proofs.Graph.Lookup
import Replatform.Proofs.Imports
import Replatform.Proofs.Path.Normal
import Replatform.Proofs.Table

/-!
# Unresolved Imports

When the static check reports that an import leads to no file. The report is a text, so it has
to be read off the text first which file and which specifier it is about. That it can be read
off is due to the quotes around the specifier, which holds none itself
(`unresolvedIssue_inj`); nothing has to be known about the path in front, which may hold
anything.

A specifier leads from the directory of its file to a place in the project (`Path.place`).
Several files can stand at a place: one whose path leads there, one whose path does so without
its extension, and an index file of the directory that is there. They are the candidates of the
path of the place (`standsAt_iff_mem_candidates`), except at the root. The root has the empty
path, for which no candidate is ever tried, so a specifier that leads there is reported even if
the root directory has an index file, and `root_index_unresolved` is such a project.
`reported_unresolved_iff` is the rule with this exception.

## Main definitions

* `Graph.StandsAt`: A file stands at a place.
* `unresolvedIssue`: The text of an issue about an import.

## Theorems

* `standsAt_iff_mem_candidates`: Below the root, the candidates are the files that stand there.
* `mem_staticCheck_iff`: The issues of a project are those of its files.
* `unresolvedIssue_inj`: An issue about an import shows the file and the specifier.
* `mem_staticCheck_unresolved_iff`: Only a broken import of the file is reported as one.
* `reported_unresolved_iff`: When an import is reported.
-/

namespace Replatform

namespace Graph

/-- A file stands at the place to which some names lead from the root: its path is that of the
    place, with or without an extension, or it is an index file in the directory of the place. -/
inductive StandsAt (place : List String) : String → Prop where
  | path : StandsAt place (Path.ofSegments place)
  | extension {e : String} (known : e ∈ extensions) :
      StandsAt place (Path.ofSegments place ++ "." ++ e)
  | index {e : String} (known : e ∈ extensions) :
      StandsAt place (Path.ofSegments (place ++ ["index." ++ e]))

/-- Below the root, the candidates of the path of a place are the files that stand there. -/
theorem standsAt_iff_mem_candidates {place : List String} (hplace : place ≠ []) {path : String} :
    StandsAt place path ↔ path ∈ candidates (Path.ofSegments place) := by
  -- Only below the root is there a slash between a directory and its index file.
  have hindex : ∀ e, Path.ofSegments (place ++ ["index." ++ e]) =
      Path.ofSegments place ++ "/index." ++ e := by
    intro e
    have hname : "/index." = "/" ++ "index." := by decide
    rw [Path.ofSegments_concat hplace, hname, ← String.append_assoc, ← String.append_assoc]
  rw [mem_candidates]
  constructor
  · intro h
    cases h with
    | path => exact Or.inl rfl
    | extension known => exact Or.inr (Or.inl ⟨_, known, rfl⟩)
    | index known => exact Or.inr (Or.inr ⟨_, known, hindex _⟩)
  · rintro (rfl | ⟨e, known, rfl⟩ | ⟨e, known, rfl⟩)
    · exact StandsAt.path
    · exact StandsAt.extension known
    · rw [← hindex]
      exact StandsAt.index known

end Graph

namespace Verification

/-- The text of the issue that an import of a file leads to no file. -/
def unresolvedIssue (path specifier : String) : String :=
  path ++ ": unresolved import '" ++ specifier ++ "'"

/-- The issues of a project are those of its files. -/
theorem mem_staticCheck_iff {files : ProjectFiles} {issue : String} :
    issue ∈ staticCheck files ↔ ∃ path content, files.get? path = some content ∧
      issue ∈ fileIssues files path content := by
  rw [staticCheck, List.mem_flatMap, Prod.exists]
  simp only [Table.get?_eq_some_iff]

theorem toList_unresolvedIssue (path specifier : String) :
    (unresolvedIssue path specifier).toList =
      (path.toList ++ ": unresolved import ".toList) ++ '\'' :: specifier.toList ++ ['\''] := by
  have hopen : ": unresolved import '".toList = ": unresolved import ".toList ++ ['\''] := by
    decide
  have hclose : "'".toList = ['\''] := by decide
  simp only [unresolvedIssue, String.toList_append, hopen, hclose, List.append_assoc,
    List.cons_append, List.nil_append]

/-- An issue about an import shows the file and the specifier, if the specifiers hold no quote. -/
theorem unresolvedIssue_inj {path path' specifier specifier' : String}
    (hquote : '\'' ∉ specifier.toList) (hquote' : '\'' ∉ specifier'.toList)
    (h : unresolvedIssue path specifier = unresolvedIssue path' specifier') :
    path = path' ∧ specifier = specifier' := by
  have hlists := congrArg String.toList h
  rw [toList_unresolvedIssue, toList_unresolvedIssue] at hlists
  -- Without the closing quotes, the last quotes are those in front of the specifiers.
  have hsplit := congrArg (Path.splitLast '\'') (List.append_cancel_right hlists)
  rw [Path.splitLast_append_cons hquote, Path.splitLast_append_cons hquote', Option.some.injEq,
    Prod.mk.injEq, String.toList_inj] at hsplit
  exact ⟨String.toList_inj.mp (List.append_cancel_right hsplit.1), hsplit.2⟩

/-- An issue about an import is not one about an empty file. -/
theorem unresolvedIssue_ne_empty (path specifier path' : String) :
    unresolvedIssue path specifier ≠ path' ++ ": file is empty" := by
  intro h
  have hend : ": file is empty".toList = ": file is empt".toList ++ ['y'] := by decide
  have hlast := congrArg (fun s => s.toList.getLast?) h
  simp only [toList_unresolvedIssue, String.toList_append, hend] at hlast
  rw [List.getLast?_concat, ← List.append_assoc, List.getLast?_concat, Option.some.injEq] at hlast
  exact absurd hlast (by decide)

variable {files : ProjectFiles} {file content specifier : String}

/-- Only a broken import of the file is reported as one. -/
theorem mem_staticCheck_unresolved_iff (hfile : files.get? file = some content)
    (hcontent : ¬ Text.isBlankText content) (hspecifier : specifier ∈ Imports.relative content) :
    unresolvedIssue file specifier ∈ staticCheck files ↔
      specifier ∈ brokenImports files file content := by
  have hquote : ∀ {text s : String}, s ∈ Imports.relative text → '\'' ∉ s.toList := by
    intro text s hs hmem
    have hnone := Imports.isQuote_of_mem_scan (List.mem_filter.mp hs).1 hmem
    exact absurd hnone (by decide)
  rw [mem_staticCheck_iff]
  constructor
  · rintro ⟨path, text, hget, hissue⟩
    unfold fileIssues at hissue
    by_cases hblank : Text.isBlankText text = true
    · rw [if_pos hblank, List.mem_singleton] at hissue
      exact absurd hissue (unresolvedIssue_ne_empty file specifier path)
    · rw [if_neg hblank] at hissue
      rcases List.mem_map.mp hissue with ⟨s, hs, htext⟩
      -- The text shows that this is the file and the specifier that it was made of.
      have hfound : s ∈ Imports.relative text := (List.mem_filter.mp hs).1
      have hsame : path = file ∧ s = specifier :=
        unresolvedIssue_inj (hquote hfound) (hquote hspecifier) htext
      rcases hsame with ⟨rfl, rfl⟩
      rw [hfile, Option.some.injEq] at hget
      rw [hget]
      exact hs
  · intro hbroken
    refine ⟨file, content, hfile, ?_⟩
    rw [fileIssues, if_neg hcontent]
    exact List.mem_map.mpr ⟨specifier, hbroken, rfl⟩

/-- An import of a file is reported as unresolved if it leads to the root, or to a place below
    it at which no file of the project stands. -/
theorem reported_unresolved_iff (hfile : files.get? file = some content)
    (hcontent : ¬ Text.isBlankText content) (hspecifier : specifier ∈ Imports.relative content) :
    unresolvedIssue file specifier ∈ staticCheck files ↔ Path.place file specifier = [] ∨
      ¬ ∃ other ∈ files.keys, Graph.StandsAt (Path.place file specifier) other := by
  have hbroken : specifier ∈ brokenImports files file content ↔
      Graph.firstKnown? files.contains (Path.ofSegments (Path.place file specifier)) = none := by
    rw [brokenImports, List.mem_filter, and_iff_right hspecifier, Option.isNone_iff_eq_none,
      Path.resolve_eq]
  rw [mem_staticCheck_unresolved_iff hfile hcontent hspecifier, hbroken,
    Graph.firstKnown?_eq_none_iff,
    Path.ofSegments_eq_empty_iff fun _ => Path.isName_of_mem_place]
  -- To the root there are no candidates, so that nothing that stands there can be found.
  by_cases hplace : Path.place file specifier = []
  · exact iff_of_true (Or.inl hplace) (Or.inl hplace)
  · rw [or_iff_right hplace, or_iff_right hplace, not_exists]
    refine forall_congr' fun other => ?_
    rw [← Graph.standsAt_iff_mem_candidates hplace, ← Bool.not_eq_true, Table.contains_iff,
      not_and, imp_not_comm]

/-- A project with a file that imports a directory by climbing past the root. -/
def climbing : ProjectFiles :=
  Table.ofList [("src/pages/home.ts", "import '../../../lib/'"), ("lib/index.ts", "1")]

theorem not_reported_climbing :
    climbing.get? "src/pages/home.ts" = some "import '../../../lib/'" ∧
      ¬ Text.isBlankText "import '../../../lib/'" ∧
      "../../../lib/" ∈ Imports.relative "import '../../../lib/'" ∧
      unresolvedIssue "src/pages/home.ts" "../../../lib/" ∉ staticCheck climbing := by
  have hfile : climbing.get? "src/pages/home.ts" = some "import '../../../lib/'" := by
    decide +kernel
  have hcontent : ¬ Text.isBlankText "import '../../../lib/'" := by decide
  have hspecifier : "../../../lib/" ∈ Imports.relative "import '../../../lib/'" := by
    decide +kernel
  refine ⟨hfile, hcontent, hspecifier, ?_⟩
  rw [reported_unresolved_iff hfile hcontent hspecifier]
  have hplace : Path.place "src/pages/home.ts" "../../../lib/" = ["lib"] := by decide +kernel
  have hindex : "lib/index.ts" = Path.ofSegments (["lib"] ++ ["index." ++ "ts"]) := by
    decide +kernel
  rw [hplace, not_or, not_not]
  refine ⟨List.cons_ne_nil _ _, "lib/index.ts", by decide +kernel, ?_⟩
  rw [hindex]
  exact Graph.StandsAt.index (by decide)

/-- A project with an index file in its root directory and a file that imports this directory. -/
def rooted : ProjectFiles :=
  Table.ofList [("a.ts", "import './'"), ("index.ts", "1")]

/-- The index file stands at the root, to which the import leads, and yet it is reported. -/
theorem root_index_unresolved :
    rooted.get? "a.ts" = some "import './'" ∧ ¬ Text.isBlankText "import './'" ∧
      "./" ∈ Imports.relative "import './'" ∧
      (∃ other ∈ rooted.keys, Graph.StandsAt (Path.place "a.ts" "./") other) ∧
      unresolvedIssue "a.ts" "./" ∈ staticCheck rooted := by
  have hplace : Path.place "a.ts" "./" = [] := by decide +kernel
  have hindex : "index.ts" = Path.ofSegments ([] ++ ["index." ++ "ts"]) := by decide +kernel
  refine ⟨by decide +kernel, by decide, by decide +kernel, ⟨"index.ts", by decide +kernel, ?_⟩,
    by decide +kernel⟩
  rw [hplace, hindex]
  exact Graph.StandsAt.index (by decide)

end Verification

end Replatform
