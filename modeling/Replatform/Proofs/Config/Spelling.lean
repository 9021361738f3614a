import Replatform.Config.Scope
import Replatform.Proofs.Path.Normal
import Replatform.Proofs.Plan.Glob

/-!
# Two Spellings of a Scope Pattern

A path may be written with the current directory in front of it, and then it still denotes the same
place. For a pattern this depends on what kind of pattern it is. In front of a directory `./` is dropped,
and a literal path is normalized. A glob is taken as it stands: With `./` in front of it, it asks for paths
that begin in this way, and a path in normal form never does (`Path.IsNormal.not_here`).

What kind of pattern it is does not always stay the same either. The ending of a directory needs a slash,
and there is one in `./`. The glob `**` becomes the ending of `./**`, what is left for the directory is a
dot, and no path in normal form is there or below.

So `./` takes from the globs all that they stand for (`covers_here_of_isGlob`), and from no other pattern
anything (`covers_here_of_not_isGlob`). What this does to a scope depends on whether its other patterns make
up for it.

## Main definitions

* `Scope.IsGlob`: The pattern has a star and is not a directory.

## Theorems

* `Scope.directory?_eq_some_iff`: The patterns that are directories.
* `Scope.directory?_here`: The directory that a pattern names behind `./`.
* `Scope.covers_here_of_isGlob`, `Scope.covers_here_of_not_isGlob`: What a pattern stands for behind `./`.
* `Scope.allows_here_iff`: When `./` in front of a pattern makes no difference to a scope.
-/

namespace Replatform

namespace Scope

/-- The pattern has a star, and it is not a directory with all below it. -/
def IsGlob (pattern : String) : Prop :=
  directory? (Text.strip pattern.toList) = none ∧ '*' ∈ Text.strip pattern.toList

instance (pattern : String) : Decidable (IsGlob pattern) :=
  inferInstanceAs (Decidable (_ ∧ _))

section Directories

variable {ending cs dir : List Char}

theorem withoutEnding?_eq_some_iff : withoutEnding? ending cs = some dir ↔ cs = dir ++ ending := by
  rw [withoutEnding?]
  constructor
  · intro h
    split_ifs at h with hending
    rcases List.isSuffixOf_iff_suffix.mp hending with ⟨front, rfl⟩
    rw [List.length_append, Nat.add_sub_cancel, List.take_left, Option.some.injEq] at h
    rw [h]
  · rintro rfl
    rw [if_pos (List.isSuffixOf_iff_suffix.mpr (List.suffix_append dir ending)),
      List.length_append, Nat.add_sub_cancel, List.take_left]

/-- A pattern is a directory by one of two endings. -/
theorem directory?_eq_some_iff :
    directory? cs = some dir ↔ cs = dir ++ ['/', '*', '*'] ∨ cs = dir ++ ['/'] := by
  rw [directory?, Option.or_eq_some_iff, withoutEnding?_eq_some_iff, withoutEnding?_eq_some_iff]
  constructor
  · rintro (h | ⟨-, h⟩)
    · exact Or.inl h
    · exact Or.inr h
  · rintro (h | rfl)
    · exact Or.inl h
    · refine Or.inr ⟨?_, rfl⟩
      -- A text cannot end in a slash and in a star.
      rw [Option.eq_none_iff_forall_ne_some]
      intro front hfront
      rw [withoutEnding?_eq_some_iff] at hfront
      have hlast := congrArg List.getLast? hfront
      rw [List.getLast?_concat, List.getLast?_append_of_ne_nil _ (List.cons_ne_nil _ _)] at hlast
      exact absurd hlast (by decide)

/-- A slash behind `./` is the one in it or comes later. -/
theorem eq_or_of_here_eq {tail : List Char} (h : '.' :: '/' :: cs = dir ++ '/' :: tail) :
    (dir = ['.'] ∧ cs = tail) ∨ ∃ front, dir = '.' :: '/' :: front ∧ cs = front ++ '/' :: tail := by
  rcases dir with _ | ⟨c, _ | ⟨d, front⟩⟩
  · rw [List.nil_append, List.cons.injEq] at h
    exact absurd h.1 (by decide)
  · rw [List.singleton_append, List.cons.injEq, List.cons.injEq] at h
    exact Or.inl ⟨congrArg (fun c => [c]) h.1.symm, h.2.2⟩
  · rw [List.cons_append, List.cons_append, List.cons.injEq, List.cons.injEq] at h
    rcases h with ⟨rfl, rfl, h⟩
    exact Or.inr ⟨front, rfl, h⟩

/-- Behind `./` a pattern names the directory that it named before. If it named none, the slash
    in `./` may be that of an ending. -/
theorem directory?_here (cs : List Char) : directory? ('.' :: '/' :: cs) =
    if cs = [] ∨ cs = ['*', '*'] then some ['.'] else (directory? cs).map ('.' :: '/' :: ·) := by
  by_cases hending : cs = [] ∨ cs = ['*', '*']
  · rw [if_pos hending]
    rcases hending with rfl | rfl
    · rfl
    · rfl
  · rw [if_neg hending]
    rw [not_or] at hending
    ext dir
    rw [directory?_eq_some_iff, Option.map_eq_some_iff]
    constructor
    · rintro (h | h)
      · rcases eq_or_of_here_eq h with ⟨-, hnone⟩ | ⟨front, rfl, hrest⟩
        · exact absurd hnone hending.2
        · exact ⟨front, directory?_eq_some_iff.mpr (Or.inl hrest), rfl⟩
      · rcases eq_or_of_here_eq h with ⟨-, hnone⟩ | ⟨front, rfl, hrest⟩
        · exact absurd hnone hending.1
        · exact ⟨front, directory?_eq_some_iff.mpr (Or.inr hrest), rfl⟩
    · rintro ⟨front, hfront, rfl⟩
      rcases directory?_eq_some_iff.mp hfront with rfl | rfl
      · exact Or.inl rfl
      · exact Or.inr rfl

end Directories

section Patterns

variable {pattern path : String}

/-- Behind `./` only the end of a pattern can be blank. -/
theorem strip_here (hpattern : Text.trimStart pattern = pattern) :
    Text.strip ("./" ++ pattern).toList = '.' :: '/' :: Text.strip pattern.toList := by
  have hchars : ("./" ++ pattern).toList = '.' :: '/' :: pattern.toList := String.toList_append
  have hstart : Text.dropBlanks pattern.toList = pattern.toList := by
    rw [← String.toList_ofList (l := Text.dropBlanks pattern.toList)]
    exact congrArg String.toList hpattern
  have hstop : Text.dropBlanks ('.' :: '/' :: pattern.toList) = '.' :: '/' :: pattern.toList :=
    List.dropWhile_cons_of_neg (by decide)
  rw [Text.strip, Text.strip, hchars, hstop, hstart]
  exact Text.dropBlanksEnd_append_cons (by decide) ['.'] pattern.toList

theorem mem_strip_here_iff (hpattern : Text.trimStart pattern = pattern) :
    '*' ∈ Text.strip ("./" ++ pattern).toList ↔ '*' ∈ Text.strip pattern.toList := by
  have hdot : ¬ '*' = '.' := by decide
  have hslash : ¬ '*' = '/' := by decide
  rw [strip_here hpattern, List.mem_cons, List.mem_cons, or_iff_right hdot, or_iff_right hslash]

theorem normalize_here (cs : List Char) :
    Path.normalize (String.ofList ('.' :: '/' :: cs)) = Path.normalize (String.ofList cs) := by
  have hpath : String.ofList ('.' :: '/' :: cs) = "." ++ "/" ++ String.ofList cs := by
    rw [← String.toList_inj, String.toList_append, String.toList_ofList, String.toList_ofList]
    rfl
  rw [Path.normalize, Path.normalize, Path.normalSegments_eq_walk, Path.normalSegments_eq_walk,
    hpath, Path.walk_slash]
  rfl

/-- A glob with `./` in front of it matches only what begins in the same way. -/
theorem here_of_accepts (hpattern : Text.trimStart pattern = pattern)
    (hstar : '*' ∈ Text.strip pattern.toList)
    (h : (Pattern.parse (Text.trim ("./" ++ pattern))).accepts path = true) :
    ['.', '/'] <+: path.toList := by
  have hpieces : ∀ cs : List Char, ('.' :: '/' :: cs).splitOn '*' =
      ((cs.splitOn '*').modifyHead ('/' :: ·)).modifyHead ('.' :: ·) := by
    intro cs
    rw [List.splitOn_cons_eq_if_modifyHead, if_neg (by decide),
      List.splitOn_cons_eq_if_modifyHead, if_neg (by decide)]
  rw [Pattern.parse, Text.trim, String.toList_ofList, Text.strip_strip, strip_here hpattern,
    if_pos (List.mem_cons_of_mem _ (List.mem_cons_of_mem _ hstar)), Pattern.accepts, hpieces] at h
  cases hsplit : (Text.strip pattern.toList).splitOn '*' with
  | nil => exact absurd hsplit (List.splitOn_ne_nil '*' _)
  | cons first pieces =>
      rw [hsplit, List.modifyHead_cons, List.modifyHead_cons, Pattern.matchesGlob_iff] at h
      rcases h with ⟨gaps, -, -, hpath⟩
      exact ⟨_, hpath.symm⟩

theorem covers_of_directory? {dir : List Char}
    (h : directory? (Text.strip pattern.toList) = some dir) (path : String) :
    covers pattern path =
      (String.ofList (dropHere dir) == "" || path == String.ofList (dropHere dir) ||
        Text.startsWith path (String.ofList (dropHere dir) ++ "/")) := by
  unfold covers
  dsimp only
  rw [h]

theorem covers_of_isGlob (h : IsGlob pattern) (path : String) :
    covers pattern path = (Pattern.parse (Text.trim pattern)).accepts path := by
  unfold covers
  dsimp only
  rw [h.1]
  exact if_pos h.2

theorem covers_of_not_mem (hdir : directory? (Text.strip pattern.toList) = none)
    (hstar : '*' ∉ Text.strip pattern.toList) (path : String) :
    covers pattern path = Path.endsWith path (Path.normalize (Text.trim pattern)) := by
  unfold covers
  dsimp only
  rw [hdir]
  exact if_neg hstar

/-- No path in normal form is at or below a directory that is called `.`. -/
theorem covers_eq_false (hpath : Path.IsNormal path)
    (h : directory? (Text.strip pattern.toList) = some ['.']) : covers pattern path = false := by
  have hbelow : Text.startsWith path "./" = false := by
    rw [Text.startsWith, Bool.eq_false_iff, ne_eq, List.isPrefixOf_iff_prefix]
    exact hpath.not_here.2
  rw [covers_of_directory? h]
  exact Bool.or_eq_false_iff.mpr ⟨beq_eq_false_iff_ne.mpr hpath.not_here.1, hbelow⟩

/-- Behind `./` a glob stands for no path in normal form. -/
theorem covers_here_of_isGlob (hpattern : Text.trimStart pattern = pattern)
    (hpath : Path.IsNormal path) (h : IsGlob pattern) : covers ("./" ++ pattern) path = false := by
  have hhere := directory?_here (Text.strip pattern.toList)
  rw [← strip_here hpattern] at hhere
  by_cases hending : Text.strip pattern.toList = [] ∨ Text.strip pattern.toList = ['*', '*']
  · rw [if_pos hending] at hhere
    exact covers_eq_false hpath hhere
  · rw [if_neg hending, h.1, Option.map_none] at hhere
    rw [covers_of_isGlob ⟨hhere, (mem_strip_here_iff hpattern).mpr h.2⟩, Bool.eq_false_iff]
    exact fun haccepts => hpath.not_here.2 (here_of_accepts hpattern h.2 haccepts)

/-- Behind `./` any other pattern stands for the paths that it stood for before. -/
theorem covers_here_of_not_isGlob (hpattern : Text.trimStart pattern = pattern)
    (hpath : Path.IsNormal path) (h : ¬ IsGlob pattern) :
    covers ("./" ++ pattern) path = covers pattern path := by
  have hhere := directory?_here (Text.strip pattern.toList)
  rw [← strip_here hpattern] at hhere
  cases hdir : directory? (Text.strip pattern.toList) with
  | some dir =>
      have hending : ¬ (Text.strip pattern.toList = [] ∨ Text.strip pattern.toList = ['*', '*']) := by
        intro hending
        have hnone : directory? (Text.strip pattern.toList) = none := by
          rcases hending with hending | hending
          · rw [hending]
            rfl
          · rw [hending]
            rfl
        exact absurd (hnone.symm.trans hdir) (Option.some_ne_none dir).symm
      rw [if_neg hending, hdir, Option.map_some] at hhere
      rw [covers_of_directory? hhere, covers_of_directory? hdir]
      rfl
  | none =>
      have hstar : '*' ∉ Text.strip pattern.toList := fun hmem => h ⟨hdir, hmem⟩
      rw [covers_of_not_mem hdir hstar]
      by_cases hempty : Text.strip pattern.toList = []
      · -- This is `./` and blanks. Its slash is taken for an ending.
        rw [if_pos (Or.inl hempty)] at hhere
        rw [covers_eq_false hpath hhere, Text.trim, hempty]
        rfl
      · have hstars : Text.strip pattern.toList ≠ ['*', '*'] := fun hstars =>
          hstar (hstars ▸ List.mem_cons_self)
        rw [if_neg (not_or.mpr ⟨hempty, hstars⟩), hdir, Option.map_none] at hhere
        rw [covers_of_not_mem hhere ((mem_strip_here_iff hpattern).not.mpr hstar), Text.trim,
          strip_here hpattern, normalize_here]
        rfl

end Patterns

section Scopes

variable {pattern path : String}

/-- A pattern among others counts with them, wherever it stands. -/
theorem any_covers (before after : List String) (pattern path : String) :
    (before ++ pattern :: after).any (covers · path) =
      (covers pattern path || (before ++ after).any (covers · path)) := by
  rw [List.any_append, List.any_cons, List.any_append, Bool.or_left_comm]

theorem allows_among_includes (before after others : List String) (pattern path : String) :
    allows ⟨before ++ pattern :: after, others⟩ path =
      ((covers pattern path || (before ++ after).any (covers · path)) &&
        !others.any (covers · path)) := by
  have hsome : (before ++ pattern :: after).isEmpty = false := List.isEmpty_eq_false_iff.mpr
    (List.append_ne_nil_of_right_ne_nil before (List.cons_ne_nil pattern after))
  rw [allows, hsome, any_covers, Bool.false_or]

theorem allows_among_excludes (before after others : List String) (pattern path : String) :
    allows ⟨others, before ++ pattern :: after⟩ path =
      ((others.isEmpty || others.any (covers · path)) &&
        !(covers pattern path || (before ++ after).any (covers · path))) := by
  rw [allows, any_covers]

/-- It makes no difference to a scope whether there is `./` in front of a pattern, unless the pattern is
    a glob that decides about the path: It stands for the path, none of the patterns beside it does,
    and the path is not turned down for another reason. -/
theorem allows_here_iff (hpattern : Text.trimStart pattern = pattern)
    (hpath : Path.IsNormal path) (before after others : List String) :
    (allows ⟨before ++ ("./" ++ pattern) :: after, others⟩ path =
        allows ⟨before ++ pattern :: after, others⟩ path ↔
      (IsGlob pattern → covers pattern path = true →
        (∃ other ∈ before ++ after, covers other path = true) ∨
          ∃ other ∈ others, covers other path = true)) ∧
    (allows ⟨others, before ++ ("./" ++ pattern) :: after⟩ path =
        allows ⟨others, before ++ pattern :: after⟩ path ↔
      (IsGlob pattern → covers pattern path = true →
        (∃ other ∈ before ++ after, covers other path = true) ∨
          (others ≠ [] ∧ ∀ other ∈ others, covers other path = false))) := by
  rw [allows_among_includes, allows_among_includes, allows_among_excludes, allows_among_excludes]
  by_cases hglob : IsGlob pattern
  · -- The glob counts for nothing any more, and the rest is a matter of truth values.
    have hinclude : ∀ here among elsewhere : Bool,
        ((false || among) && !elsewhere) = ((here || among) && !elsewhere) ↔
          (here = true → among = true ∨ elsewhere = true) := by decide
    have hexclude : ∀ here among empty elsewhere : Bool,
        ((empty || elsewhere) && !(false || among)) = ((empty || elsewhere) && !(here || among)) ↔
          (here = true → among = true ∨ (empty = false ∧ elsewhere = false)) := by decide
    rw [covers_here_of_isGlob hpattern hpath hglob, hinclude, hexclude, forall_prop_of_true hglob,
      forall_prop_of_true hglob, List.any_eq_true, List.any_eq_true, List.isEmpty_eq_false_iff,
      List.any_eq_false]
    simp only [Bool.not_eq_true, and_self]
  · rw [covers_here_of_not_isGlob hpattern hpath hglob]
    exact ⟨iff_of_true rfl fun h => absurd h hglob, iff_of_true rfl fun h => absurd h hglob⟩

end Scopes

/-- The glob of everything is not made up for by another pattern that is included, and neither is it
    when it excludes. -/
theorem allows_here_iff_stars :
    Text.trimStart "**" = "**" ∧ Path.IsNormal "src/app.js" ∧
      allows ⟨["./**", "lib/"], ["src/old/"]⟩ "src/app.js" ≠
        allows ⟨["**", "lib/"], ["src/old/"]⟩ "src/app.js" ∧
      allows ⟨["src/"], ["lib/", "./**"]⟩ "src/app.js" ≠ allows ⟨["src/"], ["lib/", "**"]⟩ "src/app.js" := by
  have hpattern : Text.trimStart "**" = "**" := by decide
  have hpath : Path.IsNormal "src/app.js" := by decide
  refine ⟨hpattern, hpath, ?_, ?_⟩
  · refine (allows_here_iff hpattern hpath [] ["lib/"] ["src/old/"]).1.not.mpr ?_
    decide
  · refine (allows_here_iff hpattern hpath ["lib/"] [] ["src/"]).2.not.mpr ?_
    decide

/-- With `./` in front of it, a pattern of everything stands for nothing, and so does one of the files
    of the root. -/
theorem not_allows_here :
    Text.trimStart "**" = "**" ∧ Path.IsNormal "src/app.js" ∧
      allows ⟨["**"], []⟩ "src/app.js" = true ∧ allows ⟨["./**"], []⟩ "src/app.js" = false ∧
    Text.trimStart "*.js" = "*.js" ∧ Path.IsNormal "app.js" ∧
      allows ⟨["*.js"], []⟩ "app.js" = true ∧ allows ⟨["./*.js"], []⟩ "app.js" = false := by
  decide

end Scope

end Replatform
