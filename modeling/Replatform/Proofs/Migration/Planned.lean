import Replatform.Proofs.Answer.Plan
import Replatform.Proofs.Migration.Rereading
import Replatform.Proofs.Tree.Built

/-!
# Planned Paths Stay in the Project

An answer that is to be a plan can hold anything: absolute paths, paths with backslashes, paths that
climb above the root, the same path in many spellings. None of this reaches the scaffold.

There are several ways in which an answer is read, but whatever is found in it goes through the same
cleaning (`plan_eq_sanitize`). There backslashes become slashes before the path is brought into normal
form, and a normal form has segments of the path that it was made from and no others
(`not_mem_normalize`). So there is neither a way up nor a backslash in what is left.

The scaffold is the tree of these paths. They are their own normal forms, so the files of the tree are
those of them that lead to no other.

## Main definitions

* `Path.IsConfined`: A path that leads to an entry of the project, in its proper spelling.

## Theorems

* `Answer.isConfined_of_cleanPath?`: What is left of a path is confined.
* `Answer.isConfined_of_mem_plan`, `Answer.nodup_plan`: So is all that is planned, and it is planned
  once.
* `Orchestrator.scaffold_confined`: So are the targets of a scaffold.
-/

namespace Replatform

/-- A path that leads to an entry of the project, in its proper spelling. -/
structure Path.IsConfined (path : String) : Prop where
  nonempty : path ≠ ""
  normal : IsNormal path
  segments : ∀ segment ∈ segments path, segment ≠ "" ∧ segment ≠ "." ∧ segment ≠ ".."
  leading : Text.startsWith path "/" = false
  trailing : Text.endsWith path "/" = false
  slashes : '\\' ∉ path.toList

namespace Answer

variable {path raw : String}

theorem startsWith_slash_eq_false (h : Path.IsNormal path) (hne : path ≠ "") :
    Text.startsWith path "/" = false := by
  rw [Bool.eq_false_iff, ne_eq, Text.startsWith, List.isPrefixOf_iff_prefix]
  rintro ⟨after, hafter⟩
  refine not_mem_segments_of_isNormal h hne ?_
  have hpath : path = "" ++ "/" ++ String.ofList after := by
    rw [← String.toList_inj, ← hafter]
    simp
  rw [hpath, Path.segments_slash]
  exact List.mem_append_left _ (by decide)

/-- A normal form holds no character but slashes that the path did not hold. -/
theorem not_mem_normalize {c : Char} (hc : c ≠ '/') (h : c ∉ path.toList) :
    c ∉ (Path.normalize path).toList := by
  refine not_mem_ofSegments hc fun name hname hmem => h ?_
  exact Path.mem_of_mem_segments (Path.mem_segments_of_mem_normalSegments hname) hmem

theorem isConfined_normalize (hslashes : '\\' ∉ path.toList) (hne : Path.normalize path ≠ "") :
    Path.IsConfined (Path.normalize path) where
  nonempty := hne
  normal := Path.isNormal_normalize path
  segments := fun _ hsegment => ((Path.isNormal_normalize path).isName_of_mem_segments hne hsegment).1
  leading := startsWith_slash_eq_false (Path.isNormal_normalize path) hne
  trailing := endsWith_slash_eq_false (Path.isNormal_normalize path) hne
  slashes := not_mem_normalize (by decide) hslashes

/-- What is left of a path is confined. -/
theorem isConfined_of_cleanPath? (h : cleanPath? raw = some path) : Path.IsConfined path := by
  -- The backslashes are gone before anything else is done.
  have hslashes : '\\' ∉ ((Text.trim raw).map fun c => if c == '\\' then '/' else c).toList := by
    rw [String.toList_map, List.mem_map]
    rintro ⟨c, -, hc⟩
    split_ifs at hc with hslash
    · exact absurd hc (by decide)
    · exact hslash (beq_iff_eq.mpr hc)
  simp only [cleanPath?] at h
  split_ifs at h with hdropped hroot
  rw [← Option.some.inj h]
  exact isConfined_normalize hslashes hroot

/-- However an answer is read, what is found in it is cleaned. -/
theorem plan_eq_sanitize (text : String) : ∃ found, plan text = sanitize found := by
  unfold plan
  cases extract? text with
  | some value => exact ⟨collect "" value, rfl⟩
  | none => exact ⟨(Text.lines text).filterMap linePath?, rfl⟩

/-- All that is planned is confined. -/
theorem isConfined_of_mem_plan {text : String} (h : path ∈ plan text) : Path.IsConfined path := by
  rcases plan_eq_sanitize text with ⟨found, hplan⟩
  rw [hplan, sanitize, List.mem_eraseDups, List.mem_filterMap] at h
  rcases h with ⟨raw, -, hclean⟩
  exact isConfined_of_cleanPath? hclean

/-- It is planned once. -/
theorem nodup_plan (text : String) : (plan text).Nodup := by
  rcases plan_eq_sanitize text with ⟨found, hplan⟩
  rw [hplan]
  exact nodup_eraseDups _

/-- Two ways out of the project, and one file in two spellings. -/
example : sanitize ["..\\../x", "/a", "b/../a"] = ["x", "a"] := by
  decide +kernel

end Answer

namespace Orchestrator

variable {σ : Type} (o : Orchestrator σ) (signal : SignalId)

/-- Whatever an answer holds, what is planned is confined. The targets of a scaffold are those of the
    planned paths that lead to no other, and its tree is valid. -/
theorem scaffold_confined :
    (∀ text, (Answer.plan text).Nodup ∧ ∀ path ∈ Answer.plan text, Path.IsConfined path) ∧
      ∀ (w : World σ) (r : Run),
        Ends (o.scaffold signal) (w, r)
          (fun _ s =>
            (s.2.targets.Nodup ∧ ∀ path ∈ s.2.targets, Path.IsConfined path) ∧
            s.2.tree.IsValid ∧
            ∃ sources w₁ response w₂ planned,
              o.call signal (o.planRequest r (Context.overview o.config.context sources)) w₁ =
                .ok response w₂ ∧
              planned = Answer.plan response.textOrEmpty ∧ s.2.tree = Tree.build planned ∧
              ∀ path, path ∈ s.2.targets ↔
                path ∈ planned ∧ ∀ q ∈ planned, ¬ Path.isBelow path q)
          (fun _ _ => True) := by
  refine ⟨fun text => ⟨Answer.nodup_plan text, fun _ => Answer.isConfined_of_mem_plan⟩, ?_⟩
  intro w r
  refine (o.ends_scaffold_planned signal w r).mono (fun _ s hs => ?_) (fun _ _ _ => trivial)
  rcases hs with ⟨sources, -, w₁, response, w₂, planned, -, hcall, hplanned, -, hs⟩
  have hconfined : ∀ path ∈ planned, Path.IsConfined path := by
    rw [hplanned]
    exact fun _ => Answer.isConfined_of_mem_plan
  have hnormals : Path.normals planned = planned :=
    Path.normals_eq_self fun path hpath =>
      ⟨(hconfined path hpath).normal, (hconfined path hpath).nonempty⟩
  have htree : s.2.tree = Tree.build planned := by rw [hs]; rfl
  have htargets : s.2.targets = (Tree.build planned).filePaths := by rw [hs]; rfl
  have hmem : ∀ path, path ∈ s.2.targets ↔
      path ∈ planned ∧ ∀ q ∈ planned, ¬ Path.isBelow path q := by
    intro path
    rw [htargets, Tree.mem_filePaths_build, hnormals]
  refine ⟨⟨?_, fun path hpath => hconfined path ((hmem path).mp hpath).1⟩, ?_,
    sources, w₁, response, w₂, planned, hcall, hplanned, htree, hmem⟩
  · rw [htargets]
    exact Tree.filePaths_nodup (Tree.rooted_build planned)
  · rw [htree]
    exact (Tree.rooted_build planned).isValid

end Orchestrator

end Replatform
