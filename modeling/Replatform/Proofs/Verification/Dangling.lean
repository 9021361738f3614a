import Replatform.Proofs.Graph.Build
import Replatform.Proofs.Verification.Unresolved

/-!
# Broken Imports in the Check and in the Graph

A project is looked at twice for what its files import. The static check goes through the
specifiers of a file and looks for each of them in the project. The graph notes the paths that
the specifiers denote, each of them once and without that of the file, and looks for them among
its own files. Nothing in the one depends on the other, and yet what the check finds broken is
what dangles in the graph.

For this the two have to know the same files. The graph knows the files with content under
their normal forms, so the files of the project must have content, and paths that are normal
forms. It is then of no importance in which order they were supplied to the graph
(`contentOf?_eq_get?`).

What the graph leaves out makes no difference, with one exception. A file that imports its own
path imports a file of the project, which the check does not report either. But the root has
the empty path, to which no edge leads and which the check always reports. `dangles_iff` is
the correspondence with this exception.

## Main definitions

* `Graph.Dangles`: A file imports a path that stands for no file.
* `Verification.Proper`: A project in which every file has a usable path and content.

## Theorems

* `contentOf?_eq_get?`: What a listing of a project holds for a path.
* `resolve?_build`: A path stands for the same file in the project and in the graph.
* `dangles_iff`: What dangles is what reported imports denote, apart from the root.
* `reports_iff_dangles`: An import of a file is reported if and only if one dangles.
-/

namespace Replatform

namespace Graph

/-- A file imports a path that stands for no file. -/
def Dangles (g : Graph) (file target : String) : Prop :=
  target ∈ g.imports file ∧ g.resolve? target = none

end Graph

namespace Verification

/-- Every file of a project has a path in normal form, which is not that of the root, and has
    content. -/
def Proper (files : ProjectFiles) : Prop :=
  ∀ file ∈ files.entries, file.1 ≠ "" ∧ Path.IsNormal file.1 ∧ ¬ Text.isBlankText file.2

instance : DecidablePred Proper := fun files =>
  inferInstanceAs (Decidable (∀ file ∈ files.entries, _ ∧ _ ∧ _))

variable {files : ProjectFiles} {listing : List (String × String)} {file content : String}

theorem Proper.of_get? (hproper : Proper files) (hfile : files.get? file = some content) :
    file ≠ "" ∧ Path.IsNormal file ∧ ¬ Text.isBlankText content :=
  hproper (file, content) ((Table.get?_eq_some_iff files file content).mp hfile)

/-- A listing of a project, in any order, holds for a path what the project does. -/
theorem contentOf?_eq_get? (hproper : Proper files) (hlisting : listing.Perm files.entries)
    (path : String) : Graph.contentOf? listing path = files.get? path := by
  have hentry : ∀ e ∈ listing, files.get? e.1 = some e.2 := by
    intro e he
    exact (Table.get?_eq_some_iff files e.1 e.2).mpr (hlisting.mem_iff.mp he)
  have hnormal : ∀ e ∈ listing, Path.normalize e.1 = e.1 := by
    intro e he
    exact (hproper.of_get? (hentry e he)).2.1
  unfold Graph.contentOf?
  -- Whatever the listing has under the normal form of a path, the project has under the path.
  cases hlast : (listing.filter fun f =>
      Path.normalize f.1 = path ∧ ¬ Text.isBlankText f.2).getLast? with
  | none =>
      rw [List.getLast?_eq_none_iff, List.filter_eq_nil_iff] at hlast
      rw [Option.map_none, eq_comm, Option.eq_none_iff_forall_ne_some]
      intro content hcontent
      have hmem := hlisting.mem_iff.mpr ((Table.get?_eq_some_iff files path content).mp hcontent)
      refine hlast (path, content) hmem (decide_eq_true ⟨hnormal (path, content) hmem, ?_⟩)
      exact (hproper.of_get? hcontent).2.2
  | some e =>
      have hmem := List.mem_of_getLast? hlast
      rw [List.mem_filter, decide_eq_true_eq] at hmem
      rcases hmem with ⟨hmem, hpath, -⟩
      rw [Option.map_some, ← hpath, hnormal e hmem, hentry e hmem]

/-- The graph of a project has the files of the project. -/
theorem contains_build (hproper : Proper files) (hlisting : listing.Perm files.entries) :
    (Graph.build listing).contains = files.contains := by
  funext path
  rw [Bool.eq_iff_iff, Graph.contains_build_iff, contentOf?_eq_get? hproper hlisting,
    ← Table.mem_keys_iff, Table.contains_iff]
  refine and_iff_right_of_imp fun hkey => ?_
  rcases (Table.mem_keys_iff files path).mp hkey with ⟨content, hcontent⟩
  exact (hproper.of_get? hcontent).1

/-- A path stands for the same file in a project and in its graph. -/
theorem resolve?_build (hproper : Proper files) (hlisting : listing.Perm files.entries)
    (target : String) :
    (Graph.build listing).resolve? target = Graph.firstKnown? files.contains target := by
  rw [Graph.resolve?, contains_build hproper hlisting]

/-- A path that is imported dangles if it is that of a reported import, which may not be the
    root. -/
theorem dangles_iff (hproper : Proper files) (hlisting : listing.Perm files.entries)
    (hfile : files.get? file = some content) (target : String) :
    (Graph.build listing).Dangles file target ↔ target ≠ "" ∧
      ∃ specifier ∈ Imports.relative content,
        unresolvedIssue file specifier ∈ staticCheck files ∧
          Path.resolve file specifier = target := by
  rcases hproper.of_get? hfile with ⟨hpath, -, hcontent⟩
  have hkey : file ∈ files.keys := (Table.mem_keys_iff files file).mpr ⟨content, hfile⟩
  have hreported : ∀ specifier ∈ Imports.relative content,
      unresolvedIssue file specifier ∈ staticCheck files ↔
        Graph.firstKnown? files.contains (Path.resolve file specifier) = none := by
    intro specifier hspecifier
    rw [mem_staticCheck_unresolved_iff hfile hcontent hspecifier, brokenImports, List.mem_filter,
      and_iff_right hspecifier, Option.isNone_iff_eq_none]
  rw [Graph.Dangles, Graph.mem_imports_build, contentOf?_eq_get? hproper hlisting, hfile,
    resolve?_build hproper hlisting]
  constructor
  · rintro ⟨⟨-, hne, -, text, htext, specifier, hspecifier, rfl⟩, hnone⟩
    rw [Option.some.injEq] at htext
    subst htext
    exact ⟨hne, specifier, hspecifier, (hreported specifier hspecifier).mpr hnone, rfl⟩
  · rintro ⟨hne, specifier, hspecifier, hissue, rfl⟩
    have hnone := (hreported specifier hspecifier).mp hissue
    -- The graph leaves out the path of the file, but that stands for the file.
    have hself : Path.resolve file specifier ≠ file := by
      intro hsame
      have hunknown := (Graph.firstKnown?_eq_none_iff.mp hnone).resolve_left hne file
        (Graph.mem_candidates.mpr (Or.inl hsame.symm))
      rw [(Table.contains_iff files file).mpr hkey] at hunknown
      exact Bool.noConfusion hunknown
    exact ⟨⟨hpath, hne, hself, content, rfl, specifier, hspecifier, rfl⟩,
      hnone⟩

/-- The check reports an import of a file if and only if one of them dangles in the graph of the
    project, unless the file imports the root. -/
theorem reports_iff_dangles (hproper : Proper files) (hlisting : listing.Perm files.entries)
    (hfile : files.get? file = some content)
    (hroot : ∀ specifier ∈ Imports.relative content, Path.resolve file specifier ≠ "") :
    (∃ specifier ∈ Imports.relative content,
        unresolvedIssue file specifier ∈ staticCheck files) ↔
      ∃ target, (Graph.build listing).Dangles file target := by
  have hdangles := dangles_iff hproper hlisting hfile
  constructor
  · rintro ⟨specifier, hspecifier, hissue⟩
    refine ⟨Path.resolve file specifier, (hdangles _).mpr ⟨hroot specifier hspecifier, ?_⟩⟩
    exact ⟨specifier, hspecifier, hissue, rfl⟩
  · rintro ⟨target, hdangling⟩
    rcases ((hdangles target).mp hdangling).2 with ⟨specifier, hspecifier, hissue, -⟩
    exact ⟨specifier, hspecifier, hissue⟩

/-- The text of a file that imports itself, with and without its extension, a directory, and a
    file that is not there. -/
def entangledText : String :=
  "import './a.ts'; import './a'; import '../lib/'; import './gone'"

/-- A project with such a file, in which the imports go round in circles. -/
def entangled : ProjectFiles :=
  Table.ofList [("src/a.ts", entangledText), ("lib/index.ts", "import '../src/a'")]

theorem dangles_entangled :
    Proper entangled ∧ entangled.entries.reverse.Perm entangled.entries ∧
      entangled.get? "src/a.ts" = some entangledText ∧
      (∀ specifier ∈ Imports.relative entangledText, Path.resolve "src/a.ts" specifier ≠ "") ∧
      ∃ target, (Graph.build entangled.entries.reverse).Dangles "src/a.ts" target := by
  have hproper : Proper entangled := by decide +kernel
  have hfile : entangled.get? "src/a.ts" = some entangledText := by decide +kernel
  have hroot : ∀ specifier ∈ Imports.relative entangledText,
      Path.resolve "src/a.ts" specifier ≠ "" := by
    decide +kernel
  have hlisting := entangled.entries.reverse_perm
  refine ⟨hproper, hlisting, hfile, hroot, ?_⟩
  refine (reports_iff_dangles hproper hlisting hfile hroot).mp ⟨"./gone", ?_, ?_⟩
  · decide +kernel
  · decide +kernel

end Verification

end Replatform
