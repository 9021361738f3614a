import Replatform.Proofs.Path.Normal
import Replatform.Proofs.Tree.Rebuild
import Replatform.Proofs.Tree.Valid

/-!
# What Stands Where in a Tree

What the paths of a plan say about the tree that is built from them. A place in a tree is a list of
names, along which one goes down from the root. What stands at a place is a file, a directory or
nothing, and a file that is added changes this in two ways only (`kindAt?_asDirectory_insert`):
the places above it become directories, and at its own place there is a file unless there was
something before.

After any number of files the tree shows nothing but the set of their places (`spans_foldl_insert`).
A place above one of them is a directory, even if a file was to stand there, and any other one of
them is a file. The order in which the files came is lost: `kindAmong?` asks only which there were.

The places come back as the paths of the nodes: in a rooted tree the names in the path of a node are
the way to it (`exists_mem_visits_iff`).

## Main definitions

* `Tree.named?`: The first node of a level with a name.
* `FileNode.kindAt?`, `Tree.kindAt?`: What stands at a place.
* `Tree.afterFile`: What stands at a place after one more file.
* `Tree.kindAmong?`: What should stand at a place, if files were added at some places.
* `Tree.Spans`: What stands at every place is what should.

## Theorems

* `named?_update`: The nodes of a level after an update.
* `kindAt?_asDirectory_insert`: What stands where after a file was added.
* `kindAmong?_append`: What should stand at a place after one more file.
* `spans_foldl_insert`: What stands where after any number of files.
* `exists_mem_visits_iff`: The nodes of a rooted tree, by their places.
-/

namespace Replatform

/-- The first node of a level with a name. -/
def Tree.named? (name : String) (level : Tree) : Option FileNode :=
  List.find? (fun node : FileNode => node.name = name) level

/-- What stands at the place to which names lead down from a node. -/
def FileNode.kindAt? : List String → FileNode → Option NodeKind
  | [], node => some node.kind
  | name :: names, node => (Tree.named? name node.childList).bind (kindAt? names)

namespace Tree

/-- What stands at a place of a tree. The root is a directory. -/
def kindAt? (names : List String) (tree : Tree) : Option NodeKind :=
  (FileNode.folder "" tree).kindAt? names

/-- What stands at a place after a file was added at the place `segs`, if `before` stood there: a
    directory above the file, and the file itself unless something was there. -/
def afterFile (segs names : List String) (before : Option NodeKind) : Option NodeKind :=
  if names = segs then some (before.getD .file)
  else if Path.Extends segs names then some .directory
  else before

/-- What should stand at a place if files were added at some places: a directory above one of them, and
    else a file where one was added. -/
def kindAmong? (files : List (List String)) (names : List String) : Option NodeKind :=
  if ∃ file ∈ files, Path.Extends file names then some .directory
  else if names ∈ files then some .file
  else none

section AfterFile

variable {name other : String} {segs names : List String} (before : Option NodeKind)

theorem afterFile_self (segs : List String) : afterFile segs segs before = some (before.getD .file) :=
  if_pos rfl

/-- Everything above a file is a directory. -/
theorem afterFile_nil (hne : segs ≠ []) : afterFile segs [] before = some .directory := by
  rw [afterFile, if_neg hne.symm, if_pos (Path.extends_nil hne)]

/-- Nothing below a file changes. -/
theorem nil_afterFile (hne : names ≠ []) : afterFile [] names before = before := by
  rw [afterFile, if_neg hne, if_neg (Path.not_nil_extends names)]

theorem afterFile_cons (name : String) (segs names : List String) :
    afterFile (name :: segs) (name :: names) before = afterFile segs names before := by
  simp only [afterFile, List.cons.injEq, true_and, Path.cons_extends_cons]

theorem afterFile_cons_of_ne (hother : other ≠ name) (segs names : List String) :
    afterFile (name :: segs) (other :: names) before = before := by
  simp only [afterFile, List.cons.injEq, Path.cons_extends_cons, hother, false_and, if_false]

end AfterFile

section Named

variable {name other : String} {fresh : FileNode} {f : FileNode → FileNode}

theorem named?_cons (name : String) (node : FileNode) (nodes : Tree) :
    named? name (node :: nodes) = if node.name = name then some node else named? name nodes := by
  rw [named?, List.find?_cons]
  by_cases hname : node.name = name
  · rw [if_pos hname, decide_eq_true hname]
  · rw [if_neg hname, decide_eq_false hname]
    rfl

theorem mem_of_named? {level : Tree} {node : FileNode} (h : named? name level = some node) :
    node ∈ level ∧ node.name = name := by
  have hname := List.find?_some h
  exact ⟨List.mem_of_find?_eq_some h, of_decide_eq_true hname⟩

/-- A node is found under its name if no other one has this name. -/
theorem named?_of_mem {level : Tree} (hdistinct : (level.map FileNode.name).Nodup) {node : FileNode}
    (h : node ∈ level) : named? node.name level = some node := by
  induction level with
  | nil => exact absurd h List.not_mem_nil
  | cons first level ih =>
      rw [List.map_cons, List.nodup_cons] at hdistinct
      rw [named?_cons]
      rcases List.mem_cons.mp h with rfl | h
      · exact if_pos rfl
      · have hother : first.name ≠ node.name := by
          intro he
          exact hdistinct.1 (he ▸ List.mem_map_of_mem h)
        rw [if_neg hother]
        exact ih hdistinct.2 h

/-- An update changes what is found under its name, and nothing else. -/
theorem named?_update (hf : ∀ node, node.name = name → (f node).name = name)
    (hfresh : fresh.name = name) (level : Tree) :
    named? other (update name fresh f level) =
      if other = name then some (f ((named? name level).getD fresh)) else named? other level := by
  induction level with
  | nil =>
      rw [update, named?_cons, hf fresh hfresh]
      by_cases hother : other = name
      · rw [if_pos hother, if_pos hother.symm]
        rfl
      · rw [if_neg hother, if_neg fun h => hother h.symm]
  | cons node level ih =>
      rw [update]
      by_cases hnode : node.name = name
      · rw [if_pos hnode, named?_cons, named?_cons, named?_cons, hf node hnode, hnode, if_pos rfl]
        by_cases hother : other = name
        · rw [if_pos hother, if_pos hother.symm]
          rfl
        · rw [if_neg hother, if_neg fun h => hother h.symm, if_neg fun h => hother h.symm]
      · rw [if_neg hnode, named?_cons, named?_cons, named?_cons, ih, if_neg hnode]
        by_cases hother : other = name
        · rw [if_pos hother, if_pos hother, hother, if_neg hnode]
        · rw [if_neg hother, if_neg hother]

end Named

end Tree

namespace FileNode

variable {node : FileNode} {name : String} {names : List String}

theorem kindAt?_cons (name : String) (names : List String) (node : FileNode) :
    kindAt? (name :: names) node = (Tree.named? name node.childList).bind (kindAt? names) :=
  rfl

/-- There is nothing below a node without children. -/
theorem kindAt?_of_childList_eq_nil (h : node.childList = []) (hne : names ≠ []) :
    kindAt? names node = none := by
  cases names with
  | nil => exact absurd rfl hne
  | cons name names =>
      rw [kindAt?_cons, h]
      rfl

section Insert

variable {other : String} {fresh : FileNode} {f : FileNode → FileNode}

/-- Where nothing has a name yet, there is nothing below a fresh node with it. -/
theorem kindAt?_getD (hfresh : fresh.childList = []) (hne : names ≠ []) :
    kindAt? names ((Tree.named? name node.childList).getD fresh) = kindAt? (name :: names) node := by
  rw [kindAt?_cons]
  cases Tree.named? name node.childList with
  | none => exact kindAt?_of_childList_eq_nil hfresh hne
  | some child => rfl

theorem kindAt?_asDirectory_update (hf : ∀ node, node.name = name → (f node).name = name)
    (hfresh : fresh.name = name) :
    kindAt? (other :: names) (node.asDirectory (Tree.update name fresh f)) =
      if other = name then kindAt? names (f ((Tree.named? name node.childList).getD fresh))
      else kindAt? (other :: names) node := by
  have hchildren : (node.asDirectory (Tree.update name fresh f)).childList =
      Tree.update name fresh f node.childList := rfl
  rw [kindAt?_cons, hchildren, Tree.named?_update hf hfresh]
  by_cases hother : other = name
  · rw [if_pos hother, if_pos hother, Option.bind_some]
  · rw [if_neg hother, if_neg hother, kindAt?_cons]

/-- What stands where after a file was added below a node. -/
theorem kindAt?_asDirectory_insert {segs : List String} (hsegs : ∀ name ∈ segs, Path.IsName name)
    (hne : segs ≠ []) (base : String) (names : List String) (node : FileNode) :
    kindAt? names (node.asDirectory (Tree.insert base segs)) =
      Tree.afterFile segs names (kindAt? names node) := by
  -- The file goes down along its names, and the place one asks about goes with it for as long as
  -- their names are the same.
  induction segs generalizing base names node with
  | nil => exact absurd rfl hne
  | cons name rest ih =>
      rw [List.forall_mem_cons] at hsegs
      have hlast : Path.fileName (Tree.childPath base name) = name :=
        Path.fileName_childPath base hsegs.1
      cases names with
      | nil =>
          -- The node itself is made a directory.
          rw [Tree.afterFile_nil _ hne]
          rfl
      | cons other names =>
          by_cases hrest : rest = []
          · subst hrest
            have hinsert : Tree.insert base [name] =
                Tree.update name (.file (Tree.childPath base name)) id := rfl
            have hkeeps : ∀ node : FileNode, node.name = name → (id node).name = name :=
              fun _ h => h
            rw [hinsert, kindAt?_asDirectory_update hkeeps hlast]
            by_cases hother : other = name
            · subst hother
              rw [if_pos rfl, Tree.afterFile_cons]
              by_cases hnames : names = []
              · -- The place of the file, at which there may be something already.
                subst hnames
                rw [Tree.afterFile_self, kindAt?_cons]
                cases Tree.named? other node.childList with
                | none => rfl
                | some child => rfl
              · -- Below the file nothing was there, or what was there stays.
                rw [Tree.nil_afterFile _ hnames]
                exact kindAt?_getD rfl hnames
            · rw [if_neg hother, Tree.afterFile_cons_of_ne _ hother]
          · have hkeeps : ∀ node : FileNode, node.name = name →
                (node.asDirectory (Tree.insert (Tree.childPath base name) rest)).name = name :=
              fun _ h => h
            rw [funext (Tree.insert_cons hrest base name), kindAt?_asDirectory_update hkeeps hlast]
            by_cases hother : other = name
            · subst hother
              rw [if_pos rfl, ih hsegs.2 hrest, Tree.afterFile_cons]
              by_cases hnames : names = []
              · -- The directory on the way, whatever it was before.
                rw [hnames, Tree.afterFile_nil _ hrest, Tree.afterFile_nil _ hrest]
              · rw [kindAt?_getD rfl hnames]
            · rw [if_neg hother, Tree.afterFile_cons_of_ne _ hother]

end Insert

end FileNode

namespace Tree

/-- What stands at every place of a tree, apart from the root, is what should stand there if files
    were added at some places. -/
def Spans (tree : Tree) (files : List (List String)) : Prop :=
  ∀ names, names ≠ [] → kindAt? names tree = kindAmong? files names

theorem spans_nil : Spans [] [] := by
  intro names hne
  have hnone : ¬ ∃ file ∈ ([] : List (List String)), Path.Extends file names := by
    rintro ⟨file, hfile, -⟩
    exact List.not_mem_nil hfile
  rw [kindAt?, FileNode.kindAt?_of_childList_eq_nil rfl hne, kindAmong?, if_neg hnone,
    if_neg List.not_mem_nil]

/-- What should stand at a place after one more file. -/
theorem kindAmong?_append (files : List (List String)) (segs names : List String) :
    kindAmong? (files ++ [segs]) names = afterFile segs names (kindAmong? files names) := by
  have hiff : (∃ file ∈ files ++ [segs], Path.Extends file names) ↔
      (∃ file ∈ files, Path.Extends file names) ∨ Path.Extends segs names := by
    simp only [List.mem_append, List.mem_singleton, or_and_right, exists_or, exists_eq_left]
  have hmem : names ∈ files ++ [segs] ↔ names ∈ files ∨ names = segs := by
    rw [List.mem_append, List.mem_singleton]
  simp only [kindAmong?, hiff, hmem]
  by_cases hsame : names = segs
  · -- The place of the new file is not above it, but it may be above another one.
    subst hsame
    rw [afterFile_self]
    by_cases habove : ∃ file ∈ files, Path.Extends file names
    · rw [if_pos (Or.inl habove), if_pos habove]
      rfl
    · rw [if_neg (not_or.mpr ⟨habove, Path.not_extends_self names⟩), if_pos (Or.inr rfl),
        if_neg habove]
      by_cases hold : names ∈ files
      · rw [if_pos hold]
        rfl
      · rw [if_neg hold]
        rfl
  · by_cases hon : Path.Extends segs names
    · rw [afterFile, if_neg hsame, if_pos hon, if_pos (Or.inr hon)]
    · simp only [afterFile, hsame, hon, or_false, if_false]

/-- What stands where is known after one more file if it was known before. -/
theorem Spans.insert {tree : Tree} {files : List (List String)} (h : Spans tree files)
    {segs : List String} (hsegs : ∀ name ∈ segs, Path.IsName name) :
    Spans (Tree.insert "" segs tree) (files ++ [segs]) := by
  intro names hne
  rw [kindAmong?_append, ← h names hne]
  by_cases hroot : segs = []
  · -- The root is no file, and nothing is added.
    subst hroot
    rw [nil_afterFile _ hne]
    rfl
  · exact FileNode.kindAt?_asDirectory_insert hsegs hroot "" names (FileNode.folder "" tree)

theorem rooted_foldl_insert {files : List (List String)}
    (hfiles : ∀ segs ∈ files, ∀ name ∈ segs, Path.IsName name) :
    Rooted "" (files.foldl (fun tree segs => Tree.insert "" segs tree) []) :=
  foldl_insert_of (P := fun _ => Rooted "") (rooted_nil "")
    (fun _ _ _ hsegs h => rooted_insert hsegs h) hfiles

/-- After any number of files, what stands where is known from their places. -/
theorem spans_foldl_insert {files : List (List String)}
    (hfiles : ∀ segs ∈ files, ∀ name ∈ segs, Path.IsName name) :
    Spans (files.foldl (fun tree segs => Tree.insert "" segs tree) []) files :=
  foldl_insert_of (P := fun files tree => Spans tree files) spans_nil
    (fun _ _ _ hsegs h => h.insert hsegs) hfiles

end Tree

namespace FileNode

variable {base : String} {node n : FileNode}

theorem Rooted.names_path (h : node.Rooted base) :
    Path.normalSegments node.path = Path.normalSegments base ++ [node.name] := by
  rw [h.path_eq, Path.normalSegments_childPath base h.isName]

/-- What stands somewhere below a node is one of its nodes. -/
theorem Rooted.exists_mem_visits (h : node.Rooted base) {names : List String} {kind : NodeKind}
    (hkind : kindAt? names node = some kind) :
    ∃ n ∈ node.visits, n.kind = kind ∧
      Path.normalSegments n.path = Path.normalSegments node.path ++ names := by
  induction names generalizing base node with
  | nil =>
      refine ⟨node, ?_, Option.some.inj hkind, (List.append_nil _).symm⟩
      rw [h.visits_eq]
      exact List.mem_cons_self
  | cons name names ih =>
      rw [kindAt?_cons] at hkind
      rcases Option.bind_eq_some_iff.mp hkind with ⟨child, hchild, hbelow⟩
      rcases Tree.mem_of_named? hchild with ⟨hmem, hname⟩
      have hrooted := h.childList.2 child hmem
      rcases ih hrooted hbelow with ⟨n, hn, hsame, hnames⟩
      refine ⟨n, ?_, hsame, ?_⟩
      · rw [h.visits_eq, List.mem_cons, Tree.mem_visits_iff]
        exact Or.inr ⟨child, hmem, hn⟩
      · rw [hnames, hrooted.names_path, hname, List.append_assoc, List.singleton_append]

/-- Every node at or below a node stands at the place to which the names in its path lead. -/
theorem Rooted.exists_kindAt? (h : node.Rooted base) (hn : n ∈ node.visits) :
    ∃ names, Path.normalSegments n.path = Path.normalSegments node.path ++ names ∧
      kindAt? names node = some n.kind := by
  induction h with
  | @intro base node path name leaf distinct below ih =>
      have hnode : node.Rooted base := .intro path name leaf distinct below
      rw [hnode.visits_eq, List.mem_cons, Tree.mem_visits_iff] at hn
      rcases hn with rfl | ⟨child, hchild, hn⟩
      · exact ⟨[], (List.append_nil _).symm, rfl⟩
      · rcases ih child hchild hn with ⟨names, hnames, hkind⟩
        refine ⟨child.name :: names, ?_, ?_⟩
        · rw [hnames, (below child hchild).names_path, List.append_assoc, List.singleton_append]
        · rw [kindAt?_cons, Tree.named?_of_mem distinct hchild, Option.bind_some, hkind]

end FileNode

namespace Tree

theorem kindAt?_cons (name : String) (names : List String) (tree : Tree) :
    kindAt? (name :: names) tree = (named? name tree).bind (FileNode.kindAt? names) :=
  rfl

/-- The nodes of a rooted tree are what stands at the places that their paths denote. -/
theorem exists_mem_visits_iff {tree : Tree} (h : Rooted "" tree) (path : String) (kind : NodeKind) :
    (∃ n ∈ visits tree, n.kind = kind ∧ n.path = path) ↔
      Path.IsNormal path ∧ path ≠ "" ∧ kindAt? (Path.normalSegments path) tree = some kind := by
  have hroot : Path.normalSegments "" = [] := rfl
  have hplace : ∀ n ∈ visits tree, Path.IsNormal n.path ∧ n.path ≠ "" := by
    intro n hn
    rcases exists_rooted_of_mem_visits h Path.isNormal_empty hn with ⟨dir, hdir, hrooted, -⟩
    refine ⟨?_, hrooted.path_ne_empty⟩
    rw [hrooted.path_eq]
    exact Path.isNormal_childPath hdir hrooted.isName
  constructor
  · rintro ⟨n, hn, rfl, rfl⟩
    refine ⟨(hplace n hn).1, (hplace n hn).2, ?_⟩
    rcases (mem_visits_iff n tree).mp hn with ⟨node, hnode, hn⟩
    rcases (h.2 node hnode).exists_kindAt? hn with ⟨names, hnames, hkind⟩
    rw [hnames, (h.2 node hnode).names_path, hroot, List.nil_append, List.singleton_append,
      kindAt?_cons, named?_of_mem h.1 hnode, Option.bind_some, hkind]
  · rintro ⟨hnormal, hne, hkind⟩
    cases hsegments : Path.normalSegments path with
    | nil => exact absurd (hnormal.names_eq_nil_iff.mp hsegments) hne
    | cons name names =>
        rw [hsegments, kindAt?_cons] at hkind
        rcases Option.bind_eq_some_iff.mp hkind with ⟨node, hnode, hbelow⟩
        rcases mem_of_named? hnode with ⟨hmem, rfl⟩
        rcases (h.2 node hmem).exists_mem_visits hbelow with ⟨n, hn, hsame, hnames⟩
        have hvisit : n ∈ visits tree := (mem_visits_iff n tree).mpr ⟨node, hmem, hn⟩
        refine ⟨n, hvisit, hsame, (hplace n hvisit).1.eq_of_names_eq hnormal ?_⟩
        rw [hnames, (h.2 node hmem).names_path, hroot, hsegments]
        rfl

end Tree

end Replatform
