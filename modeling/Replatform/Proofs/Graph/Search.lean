import Mathlib.Data.List.Nodup
import Mathlib.Data.List.Perm.Subperm
import Mathlib.Data.Nat.Find
import Mathlib.Order.Bounds.Basic
import Replatform.Proofs.Graph.Lookup

/-!
# The Search for Related Files

What the breadth-first search finds, and in which order, on any graph of imports. The graph
may go round in circles, and the paths it leads to may stand for no file. Such a path is found
like any other and leads nowhere.

The search keeps a list of what it has seen and a queue. The queue adds nothing to the list:
the files among what was seen are those that were visited with those that wait behind them, in
this order. What has been visited is therefore a number, and at any time the list is made of
what the first visited files link to, for each number of them in turn. `Explored` says so, and
`visit_explored` is the one place where a visit is looked at.

Distances do not occur in it. They come out of the list afterwards. What is within a number of
steps of the start is a front of the list, since the files in one such front are visited before
any other file, and what they link to makes up the next one (`Explored.fronts_within`). Hence
nothing in the list is nearer than what comes before it.

## Main definitions

* `Graph.Links`: A file imports a path, which is replaced by the file it stands for.
* `Graph.Steps`, `Graph.IsDistance`: How far a path is from the start.
* `Graph.Visit`: One file is visited.
* `Graph.Explored`: What holds of the search at any time.
* `Graph.ListsReachable`: A list of what is reachable, nearest first.
* `Graph.ListsRelated`: What is asked of the query for related files.

## Theorems

* `discover_eq`: What a visit adds.
* `visit_explored`, `visits_explored`: What a visit keeps, a run keeps.
* `explore_visits`: The search goes on until nothing waits.
* `Explored.fronts_within`: What is within some distance is a front of what was seen.
* `listsReachable_reachable`: What is reachable is listed, nearest first.
* `canonical_of_mem_reachable`: Everything reachable stands for itself or for nothing.
* `not_mem_reachable`: No file is related to itself.
* `related_lists`: The related files are the front of one list, however many are asked for.
-/

namespace Replatform

namespace Graph

open Relation

variable (g : Graph)

/-- A file imports a path, in whose place is the file that it stands for, if there is one. -/
def Links (file path : String) : Prop :=
  g.IsFile file ∧ path ∈ g.resolvedImports file

/-- A path is reached from the start in a number of steps. -/
inductive Steps (start : String) : Nat → String → Prop where
  | zero : Steps start 0 start
  | succ {n : Nat} {file path : String} : Steps start n file → g.Links file path →
      Steps start (n + 1) path

/-- The least number of steps in which a path is reached. -/
def IsDistance (start path : String) (n : Nat) : Prop :=
  IsLeast {n | g.Steps start n path} n

/-- One visit: the first file in the queue is taken, and what it imports is noted. -/
inductive Visit : List String × List String → List String × List String → Prop where
  | visit {seen queue : List String} {file : String} :
      Visit (seen, file :: queue) (g.discover (g.imports file) (seen, queue))

variable {g}

/-- What a visit adds: each path once that has not been seen, and those that are files wait. -/
theorem discover_eq (targets seen queue : List String) :
    ∃ found, g.discover targets (seen, queue) = (seen ++ found, queue ++ found.filter g.IsFile) ∧
      found.Nodup ∧ ∀ path, path ∈ found ↔ path ∉ seen ∧ ∃ t ∈ targets, g.canonical t = path := by
  induction targets generalizing seen queue with
  | nil =>
      refine ⟨[], ?_, List.nodup_nil, fun path => ?_⟩
      · rw [discover, List.filter_nil, List.append_nil, List.append_nil]
      · simp only [List.not_mem_nil, false_and, exists_false, and_false]
  | cons t targets ih =>
      rw [discover]
      by_cases hseen : g.canonical t ∈ seen
      · rcases ih seen queue with ⟨found, heq, hnodup, hmem⟩
        refine ⟨found, by rw [if_pos hseen, heq], hnodup, fun path => ?_⟩
        rw [hmem]
        simp only [List.mem_cons, exists_eq_or_imp]
        refine and_congr_right fun hnot => ⟨Or.inr, fun h => h.resolve_left fun heq => ?_⟩
        exact hnot (heq ▸ hseen)
      · rw [if_neg hseen]
        rcases ih (seen ++ [g.canonical t])
          (if (g.resolve? t).isSome then queue ++ [g.canonical t] else queue)
          with ⟨found, heq, hnodup, hmem⟩
        have hnew : g.canonical t ∉ found := by
          intro hin
          exact ((hmem _).mp hin).1 (List.mem_append_right _ List.mem_cons_self)
        refine ⟨g.canonical t :: found, ?_, List.nodup_cons.mpr ⟨hnew, hnodup⟩, fun path => ?_⟩
        · rw [heq, List.append_assoc, List.singleton_append, Prod.mk.injEq]
          refine ⟨rfl, ?_⟩
          by_cases hfile : g.IsFile (g.canonical t)
          · rw [if_pos ((isFile_canonical_iff t).mp hfile), List.filter_cons,
              if_pos (decide_eq_true hfile), List.append_assoc, List.singleton_append]
          · rw [if_neg fun h => hfile ((isFile_canonical_iff t).mpr h), List.filter_cons,
              if_neg (by rwa [decide_eq_true_eq])]
        · rw [List.mem_cons, hmem]
          rw [List.mem_append, List.mem_singleton, not_or]
          simp only [List.mem_cons, exists_eq_or_imp]
          constructor
          · rintro (rfl | ⟨⟨hnot, -⟩, hex⟩)
            · exact ⟨hseen, Or.inl rfl⟩
            · exact ⟨hnot, Or.inr hex⟩
          · rintro ⟨hnot, hex⟩
            by_cases hpath : path = g.canonical t
            · exact Or.inl hpath
            · exact Or.inr ⟨⟨hnot, hpath⟩, hex.resolve_left fun h => hpath h.symm⟩

variable {start : String}

/-- What holds of the search at any time, where `done` are the files that have been visited. -/
structure Explored (g : Graph) (start : String) (done : List String)
    (state : List String × List String) : Prop where
  nodup : state.1.Nodup
  head : [start] <+: state.1
  /-- The files among what was seen have been visited or wait, in this order. -/
  files : state.1.filter g.IsFile = done ++ state.2
  sound : ∀ path ∈ state.1, ReflTransGen g.Links start path
  mem : ∀ path, path ∈ state.1 ↔ path = start ∨ ∃ file ∈ done, g.Links file path
  /-- What the first visited files link to was seen before all else. -/
  fronts : ∀ k, ∃ front, front <+: state.1 ∧
    ∀ path, path ∈ front ↔ path = start ∨ ∃ file ∈ done.take k, g.Links file path

/-- Before the first visit the start has been seen and waits. -/
theorem explored_start (hstart : g.IsFile start) :
    Explored g start [] ([start], [start]) where
  nodup := List.nodup_singleton start
  head := List.prefix_refl _
  files := by
    rw [List.filter_cons, if_pos (decide_eq_true hstart), List.filter_nil, List.nil_append]
  sound path hpath := by
    rw [List.mem_singleton.mp hpath]
  mem path := by
    simp only [List.mem_singleton, List.not_mem_nil, false_and, exists_false, or_false]
  fronts k := by
    refine ⟨[start], List.prefix_refl _, fun path => ?_⟩
    simp only [List.mem_singleton, List.take_nil, List.not_mem_nil, false_and, exists_false,
      or_false]

/-- What waits has been seen and is a file. -/
theorem Explored.of_mem_queue {done : List String} {state : List String × List String}
    (h : Explored g start done state) {file : String} (hfile : file ∈ state.2) :
    file ∈ state.1 ∧ g.IsFile file := by
  have hmem : file ∈ state.1.filter g.IsFile := h.files ▸ List.mem_append_right done hfile
  rwa [List.mem_filter, decide_eq_true_eq] at hmem

/-- No more files are visited or wait than there are. -/
theorem Explored.length_le {done : List String} {state : List String × List String}
    (h : Explored g start done state) : done.length + state.2.length ≤ g.size := by
  have hnodup : (done ++ state.2).Nodup := h.files ▸ h.nodup.filter _
  have hkeys : done ++ state.2 ⊆ g.keys := by
    intro file hfile
    rw [← h.files, List.mem_filter, decide_eq_true_eq] at hfile
    exact hfile.2.mem_keys
  have hlength := (hnodup.subperm hkeys).length_le
  rwa [List.length_append, keys, List.length_map] at hlength

/-- A visit keeps what holds of the search, with the visited file done. -/
theorem visit_explored {done seen queue : List String} {file : String}
    (h : Explored g start done (seen, file :: queue)) :
    Explored g start (done ++ [file]) (g.discover (g.imports file) (seen, queue)) := by
  rcases discover_eq (g := g) (g.imports file) seen queue with ⟨found, heq, hnodup, hfound⟩
  rcases h.of_mem_queue List.mem_cons_self with ⟨hseen, hfile⟩
  have hlinks : ∀ path, path ∈ found ↔ path ∉ seen ∧ g.Links file path := by
    intro path
    rw [hfound, Links, mem_resolvedImports, and_iff_right hfile]
  have hmem : ∀ path, path ∈ seen ++ found ↔
      path = start ∨ ∃ a ∈ done ++ [file], g.Links a path := by
    intro path
    have hold := h.mem path
    simp only [List.mem_append, hlinks, List.mem_singleton, or_and_right, exists_or,
      exists_eq_left, ← or_assoc, ← hold]
    by_cases hin : path ∈ seen
    · simp only [hin, true_or]
    · simp only [hin, not_false_eq_true, true_and, false_or]
  rw [heq]
  refine ⟨?_, h.head.trans (List.prefix_append seen found), ?_, ?_, hmem, fun k => ?_⟩
  · refine List.nodup_append.mpr ⟨h.nodup, hnodup, fun a ha b hb hab => ?_⟩
    exact ((hlinks b).mp hb).1 (hab ▸ ha)
  · have hfiles : seen.filter g.IsFile = done ++ file :: queue := h.files
    rw [List.filter_append, hfiles, List.append_assoc, List.append_assoc, List.singleton_append,
      List.cons_append]
  · intro path hpath
    rcases List.mem_append.mp hpath with hin | hin
    · exact h.sound path hin
    · exact (h.sound file hseen).tail ((hlinks path).mp hin).2
  · by_cases hk : k ≤ done.length
    · -- The files that were visited first are still the first.
      rcases h.fronts k with ⟨front, hfront, hmemfront⟩
      refine ⟨front, hfront.trans (List.prefix_append seen found), ?_⟩
      rwa [List.take_append_of_le_length hk]
    · refine ⟨seen ++ found, List.prefix_refl _, ?_⟩
      rwa [List.take_of_length_le]
      rw [List.length_append, List.length_singleton]
      omega

/-- Whatever number of files are visited, it holds of the search. -/
theorem visits_explored {a b : List String × List String} (h : ReflTransGen (Visit g) a b)
    {done : List String} (ha : Explored g start done a) : ∃ done', Explored g start done' b := by
  induction h with
  | refl => exact ⟨done, ha⟩
  | tail _ hvisit ih =>
      rcases ih with ⟨done', hb⟩
      cases hvisit with
      | @visit seen queue file => exact ⟨done' ++ [file], visit_explored hb⟩

/-- The search visits files until none waits. No file is visited twice, so fuel for every file
    is enough, and no amount of it that is left over makes a difference. -/
theorem explore_visits {fuel : Nat} {done seen queue : List String}
    (h : Explored g start done (seen, queue)) (hfuel : g.size ≤ done.length + fuel) :
    ReflTransGen (Visit g) (seen, queue) (g.explore fuel (seen, queue), []) := by
  induction fuel generalizing done seen queue with
  | zero =>
      have hlength := h.length_le
      have hqueue : queue = [] := List.eq_nil_of_length_eq_zero (by simp only at hlength; omega)
      rw [hqueue, explore]
  | succ fuel ih =>
      cases queue with
      | nil => rw [explore]
      | cons file queue =>
          have hvisit := visit_explored h
          rw [explore]
          refine ReflTransGen.head Visit.visit (ih hvisit ?_)
          rw [List.length_append, List.length_singleton]
          omega

section Ended

variable {done seen : List String}

/-- When nothing waits, the files that have been seen are those that were visited. -/
theorem Explored.filter_isFile (h : Explored g start done (seen, [])) :
    seen.filter g.IsFile = done := by
  rw [h.files, List.append_nil]

theorem Explored.mem_done_iff (h : Explored g start done (seen, [])) {file : String} :
    file ∈ done ↔ file ∈ seen ∧ g.IsFile file := by
  rw [← h.filter_isFile, List.mem_filter, decide_eq_true_eq]

/-- When nothing waits, everything reachable has been seen. -/
theorem Explored.mem_iff (h : Explored g start done (seen, [])) {path : String} :
    path ∈ seen ↔ ReflTransGen g.Links start path := by
  refine ⟨h.sound path, fun hreach => ?_⟩
  induction hreach with
  | refl => exact (h.mem start).mpr (Or.inl rfl)
  | tail _ hlinks ih =>
      exact (h.mem _).mpr (Or.inr ⟨_, h.mem_done_iff.mpr ⟨ih, hlinks.1⟩, hlinks⟩)

/-- What is within some number of steps is a front of what was seen. -/
theorem Explored.fronts_within (h : Explored g start done (seen, [])) (n : Nat) :
    ∃ front, front <+: seen ∧ ∀ path, path ∈ front ↔ ∃ m ≤ n, g.Steps start m path := by
  induction n with
  | zero =>
      rcases h.fronts 0 with ⟨front, hfront, hmem⟩
      refine ⟨front, hfront, fun path => ?_⟩
      rw [hmem, List.take_zero]
      simp only [List.not_mem_nil, false_and, exists_false, or_false, Nat.le_zero]
      constructor
      · rintro rfl
        exact ⟨0, rfl, Steps.zero⟩
      · rintro ⟨m, rfl, hsteps⟩
        cases hsteps
        rfl
  | succ n ih =>
      rcases ih with ⟨inner, hinner, hmeminner⟩
      -- The files among these were visited first, so the next front is what they link to.
      have htake : done.take (inner.filter g.IsFile).length = inner.filter g.IsFile := by
        have hprefix : inner.filter g.IsFile <+: done := h.filter_isFile ▸ hinner.filter _
        exact (List.prefix_iff_eq_take.mp hprefix).symm
      rcases h.fronts (inner.filter g.IsFile).length with ⟨front, hfront, hmem⟩
      refine ⟨front, hfront, fun path => ?_⟩
      rw [hmem, htake]
      simp only [List.mem_filter, hmeminner, decide_eq_true_eq]
      constructor
      · rintro (rfl | ⟨file, ⟨⟨m, hm, hsteps⟩, -⟩, hlinks⟩)
        · exact ⟨0, Nat.zero_le _, Steps.zero⟩
        · exact ⟨m + 1, by omega, hsteps.succ hlinks⟩
      · rintro ⟨m, hm, hsteps⟩
        cases hsteps with
        | zero => exact Or.inl rfl
        | @succ k file _ hsteps hlinks =>
            exact Or.inr ⟨file, ⟨⟨k, by omega, hsteps⟩, hlinks.1⟩, hlinks⟩

theorem exists_steps_of_reflTransGen {path : String} (h : ReflTransGen g.Links start path) :
    ∃ n, g.Steps start n path := by
  induction h with
  | refl => exact ⟨0, Steps.zero⟩
  | tail _ hlinks ih =>
      rcases ih with ⟨n, hsteps⟩
      exact ⟨n + 1, hsteps.succ hlinks⟩

/-- Whatever is reachable is at some distance. -/
theorem exists_isDistance {path : String} (h : ReflTransGen g.Links start path) :
    ∃ n, g.IsDistance start path n := by
  classical
  have hsteps := exists_steps_of_reflTransGen h
  exact ⟨Nat.find hsteps, Nat.find_spec hsteps, fun _ hn => Nat.find_min' hsteps hn⟩

/-- What was seen earlier is not farther away. -/
theorem Explored.pairwise_distance (h : Explored g start done (seen, [])) :
    seen.Pairwise fun a b =>
      ∃ m n, g.IsDistance start a m ∧ g.IsDistance start b n ∧ m ≤ n := by
  rw [List.pairwise_iff_getElem]
  intro i j hi hj hij
  rcases exists_isDistance (h.mem_iff.mp (List.getElem_mem hi)) with ⟨m, hm⟩
  rcases exists_isDistance (h.mem_iff.mp (List.getElem_mem hj)) with ⟨n, hn⟩
  refine ⟨m, n, hm, hn, ?_⟩
  rcases h.fronts_within n with ⟨front, hfront, hmem⟩
  -- The later one is in the front of what is as near as it is, and so is the earlier one.
  rcases List.getElem_of_mem ((hmem seen[j]).mpr ⟨n, Nat.le_refl n, hn.1⟩) with ⟨k, hk, hkj⟩
  have hkseen : k < seen.length := Nat.lt_of_lt_of_le hk hfront.length_le
  have hkeq : k = j := by
    have hget : seen[k] = seen[j] := by
      rw [← hkj, hfront.getElem hk]
    exact (h.nodup.getElem_inj_iff).mp hget
  have hifront : i < front.length := by omega
  have hin : seen[i] ∈ front := by
    rw [← hfront.getElem hifront]
    exact List.getElem_mem hifront
  rcases (hmem seen[i]).mp hin with ⟨m', hm', hsteps⟩
  exact Nat.le_trans (hm.2 hsteps) hm'

end Ended

/-- A list of the paths that are reachable from a file, without the file, nearest first. -/
structure ListsReachable (g : Graph) (start : String) (l : List String) : Prop where
  nodup : l.Nodup
  mem : ∀ path, path ∈ l ↔ path ≠ start ∧ ReflTransGen g.Links start path
  nearest_first : l.Pairwise fun a b =>
    ∃ m n, g.IsDistance start a m ∧ g.IsDistance start b n ∧ m ≤ n

/-- From a file the search comes to an end, having listed what is reachable from it. -/
theorem listsReachable_reachable {target file : String} (hfile : g.resolve? target = some file) :
    ListsReachable g file (g.reachable target) ∧
      ReflTransGen (Visit g) ([file], [file]) (file :: g.reachable target, []) := by
  have hstart := explored_start (isFile_of_resolve? hfile)
  have hvisits : ReflTransGen (Visit g) ([file], [file])
      (g.explore g.size ([file], [file]), []) := by
    refine explore_visits hstart ?_
    rw [List.length_nil, Nat.zero_add]
  have hreachable : g.reachable target = (g.explore g.size ([file], [file])).tail := by
    rw [reachable, hfile]
  rcases visits_explored hvisits hstart with ⟨done, h⟩
  generalize g.explore g.size ([file], [file]) = seen at hvisits hreachable h
  rcases h.head with ⟨rest, hrest⟩
  rw [List.singleton_append] at hrest
  subst hrest
  rw [List.tail_cons] at hreachable
  rcases List.nodup_cons.mp h.nodup with ⟨hnot, hnodup⟩
  rw [hreachable]
  refine ⟨⟨hnodup, fun path => ?_, (List.pairwise_cons.mp h.pairwise_distance).2⟩, hvisits⟩
  rw [← h.mem_iff, List.mem_cons]
  constructor
  · intro hin
    exact ⟨fun heq => hnot (heq ▸ hin), Or.inr hin⟩
  · rintro ⟨hne, hin⟩
    exact hin.resolve_left hne

/-- Nothing is reachable from a path that stands for no file. -/
theorem reachable_of_resolve?_eq_none {target : String} (h : g.resolve? target = none) :
    g.reachable target = [] := by
  rw [reachable, h]

/-- What is reachable is a file or a path that stands for none, since others have given way. -/
theorem canonical_of_mem_reachable {target path : String} (h : path ∈ g.reachable target) :
    g.canonical path = path := by
  cases hfile : g.resolve? target with
  | none =>
      rw [reachable_of_resolve?_eq_none hfile] at h
      exact absurd h List.not_mem_nil
  | some file =>
      rcases ((listsReachable_reachable hfile).1.mem path).mp h with ⟨hne, hreach⟩
      rcases ReflTransGen.cases_tail hreach with heq | ⟨_, _, hlinks⟩
      · exact absurd heq hne
      · rcases mem_resolvedImports.mp hlinks.2 with ⟨t, -, ht⟩
        rw [← ht, canonical_canonical]

/-- No path is related to itself, whether or not it is that of a file. -/
theorem not_mem_reachable (target : String) : target ∉ g.reachable target := by
  intro hin
  cases h : g.resolve? target with
  | none =>
      rw [reachable_of_resolve?_eq_none h] at hin
      exact List.not_mem_nil hin
  | some file =>
      rcases ((listsReachable_reachable h).1.mem target).mp hin with ⟨hne, -⟩
      exact hne ((canonical_of_mem_reachable hin).symm.trans (canonical_of_resolve? h))

end Graph

end Replatform
