import Replatform.Proofs.Tree.Search

/-!
# Refilled Trees

Two ways to fill a tree with statuses and contents, and why they come to the same. A change
goes down to one node and applies a function there, and `mapFiles` applies a function to all
files at once. In a rooted tree a change of a file is a change of all files by a function that
leaves the others alone, so that any number of changes is one function on the files.

`RefilledAt` says that a tree came out of another in this way, and which files it may concern.
Whatever else there is in the tree is then the same as before: the directories, the order, and
the files with other paths.

## Main definitions

* `Tree.RefilledAt`: A tree has other statuses and contents, but only in some files.

## Theorems

* `modify_modify`, `find?_modify`: Changes of one node, and what is found afterwards.
* `modify_eq_mapFiles`: A change of a file as a change of all files.
* `find?_mapFiles`, `files_mapFiles`, `nodes_mapFiles`: What is found and listed after a change of
  all files.
* `modify_mapFiles`: A change of a file after a change of all files.
* `filePaths_nodup`: Every file of a rooted tree has its own path.
* `RefilledAt.find?_eq`, `RefilledAt.filePaths_eq`: What is the same in a refilled tree.
-/

namespace Replatform

namespace Refills

variable {f g : FileNode → FileNode}

theorem comp (hf : Refills f) (hg : Refills g) : Refills (f ∘ g) := by
  intro node
  rcases hf (g node) with ⟨hpath, hname, hkind, hchildren⟩
  rcases hg node with ⟨hpath', hname', hkind', hchildren'⟩
  exact ⟨hpath.trans hpath', hname.trans hname', hkind.trans hkind', hchildren.trans hchildren'⟩

theorem changeAt (hf : Refills f) (path : String) : Refills (Tree.changeAt path f) := by
  intro node
  unfold Tree.changeAt
  by_cases hpath : node.path = path
  · rw [if_pos hpath]
    exact hf node
  · rw [if_neg hpath]
    exact ⟨rfl, rfl, rfl, rfl⟩

end Refills

namespace Tree

open FileNode (filesAmong)

variable {base : String} {f g : FileNode → FileNode}

/-- Two changes of the node with a path are one change. -/
theorem modify_modify (f : FileNode → FileNode) (hg : Refills g) (path : String) (tree : Tree) :
    modify path f (modify path g tree) = modify path (f ∘ g) tree := by
  induction tree using Tree.induction with
  | nil => rw [modify_nil, modify_nil, modify_nil]
  | cons node nodes ihchildren ihnodes =>
      rw [modify_cons path g, modify_cons path (f ∘ g)]
      by_cases hpath : node.path = path
      · rw [if_pos hpath, if_pos hpath, modify_cons, if_pos ((hg.path node).trans hpath),
          Function.comp_apply]
      · rw [if_neg hpath, if_neg hpath]
        by_cases hbelow : Path.isBelow node.path path = true
        · -- The directory keeps its path, so the second change goes the same way.
          have hsame : (node.mapChildren (modify path g)).path = node.path := rfl
          rw [if_pos hbelow, if_pos hbelow, modify_cons, hsame, if_neg hpath, if_pos hbelow,
            FileNode.mapChildren_mapChildren]
          rw [FileNode.mapChildren_congr (f := modify path f ∘ modify path g) ihchildren]
        · rw [if_neg hbelow, if_neg hbelow, modify_cons, if_neg hpath, if_neg hbelow, ihnodes]

/-- What is found under a path after a change there. -/
theorem find?_modify (hf : Refills f) (path : String) (tree : Tree) :
    find? path (modify path f tree) = (find? path tree).map f := by
  induction tree using Tree.induction with
  | nil => rw [modify_nil, find?_nil, Option.map_none]
  | cons node nodes ihchildren ihnodes =>
      rw [modify_cons, find?_cons path node]
      by_cases hpath : node.path = path
      · rw [if_pos hpath, if_pos hpath, find?_cons, if_pos ((hf.path node).trans hpath),
          Option.map_some]
      · rw [if_neg hpath, if_neg hpath]
        by_cases hbelow : Path.isBelow node.path path = true
        · have hsame : (node.mapChildren (modify path f)).path = node.path := rfl
          rw [if_pos hbelow, if_pos hbelow, find?_cons, hsame, if_neg hpath, if_pos hbelow,
            FileNode.childList_mapChildren (modify_nil path f), ihchildren]
        · rw [if_neg hbelow, if_neg hbelow, find?_cons, if_neg hpath, if_neg hbelow, ihnodes]

theorem path_of_find? {path : String} {tree : Tree} {node : FileNode}
    (h : find? path tree = some node) : node.path = path := by
  induction tree using Tree.induction with
  | nil =>
      rw [find?_nil] at h
      exact absurd h (by simp only [reduceCtorEq, not_false_eq_true])
  | cons first nodes ihchildren ihnodes =>
      rw [find?_cons] at h
      by_cases hpath : first.path = path
      · rw [if_pos hpath, Option.some.injEq] at h
        rw [← h]
        exact hpath
      · rw [if_neg hpath] at h
        by_cases hbelow : Path.isBelow first.path path = true
        · rw [if_pos hbelow] at h
          exact ihchildren h
        · rw [if_neg hbelow] at h
          exact ihnodes h

theorem filePaths_cons (node : FileNode) (nodes : Tree) :
    filePaths (node :: nodes) = node.files.map FileNode.path ++ filePaths nodes := by
  rw [filePaths, filePaths, files, filesAmong, List.map_append]
  rfl

theorem mem_filePaths_iff (path : String) (tree : Tree) :
    path ∈ tree.filePaths ↔ ∃ file ∈ filesAmong tree, file.path = path := by
  rw [filePaths, files, List.mem_map]

/-- Every file of a rooted tree has its own path. -/
theorem filePaths_nodup {tree : Tree} (h : Rooted base tree) : tree.filePaths.Nodup := by
  induction tree using Tree.induction generalizing base with
  | nil => exact List.nodup_nil
  | cons node nodes ihchildren ihnodes =>
      rcases (rooted_cons_iff node nodes).mp h with ⟨hnode, hname, hnodes⟩
      rw [filePaths_cons, List.nodup_append]
      refine ⟨?_, ihnodes hnodes, fun path hpath path' hpath' he => ?_⟩
      · rw [FileNode.files_eq]
        by_cases hkind : node.kind = .file
        · rw [if_pos hkind, List.map_singleton]
          exact List.pairwise_singleton _ node.path
        · rw [if_neg hkind]
          exact ihchildren hnode.childList
      · -- The path of the node leads to what is below it and to nothing beside it.
        rcases List.mem_map.mp hpath with ⟨file, hfile, rfl⟩
        rcases (mem_filePaths_iff path' nodes).mp hpath' with ⟨file', hfile', rfl⟩
        have hleads := leads_of_mem_files hnode hfile
        rw [he] at hleads
        exact not_leads_of_mem_filesAmong hnode hname hnodes hfile' hleads

theorem kind_of_mem_filesAmong {tree : Tree} {file : FileNode} (h : file ∈ filesAmong tree) :
    file.kind = .file := by
  induction tree using Tree.induction with
  | nil => exact absurd h (by simp only [filesAmong, List.not_mem_nil, not_false_eq_true])
  | cons node nodes ihchildren ihnodes =>
      rw [mem_filesAmong_cons, FileNode.files_eq] at h
      rcases h with h | h
      · by_cases hkind : node.kind = .file
        · rw [if_pos hkind, List.mem_singleton] at h
          rw [h]
          exact hkind
        · rw [if_neg hkind] at h
          exact ihchildren h
      · exact ihnodes h

/-- Under the path of a file of a rooted tree a file is found. -/
theorem exists_find?_of_mem_filePaths {tree : Tree} (h : Rooted base tree) {path : String}
    (hpath : path ∈ tree.filePaths) :
    ∃ file ∈ filesAmong tree, find? path tree = some file ∧ file.kind = .file := by
  rcases (mem_filePaths_iff path tree).mp hpath with ⟨file, hfile, rfl⟩
  exact ⟨file, hfile, find?_of_mem_files h hfile, kind_of_mem_filesAmong hfile⟩

section MapFiles

/-- The files of a tree after a change of each. -/
theorem files_mapFiles (hf : Refills f) (tree : Tree) :
    filesAmong (mapFiles f tree) = (filesAmong tree).map f := by
  induction tree using Tree.induction with
  | nil => rw [mapFiles_nil, filesAmong, List.map_nil]
  | cons node nodes ihchildren ihnodes =>
      rw [mapFiles_cons, filesAmong, filesAmong, List.map_append, ihnodes, FileNode.files_eq node]
      by_cases hkind : node.kind = .file
      · rw [if_pos hkind, if_pos hkind, FileNode.files_eq, if_pos ((hf.kind node).trans hkind),
          List.map_singleton]
      · rw [if_neg hkind, if_neg hkind, FileNode.files_mapChildren (mapFiles_nil f), if_neg hkind,
          ihchildren]

/-- Only what happens to the files that there are makes a difference. -/
theorem mapFiles_congr {tree : Tree} (h : ∀ file ∈ filesAmong tree, f file = g file) :
    mapFiles f tree = mapFiles g tree := by
  induction tree using Tree.induction with
  | nil => rw [mapFiles_nil, mapFiles_nil]
  | cons node nodes ihchildren ihnodes =>
      have hnodes : ∀ file ∈ filesAmong nodes, f file = g file := fun file hfile =>
        h file ((mem_filesAmong_cons node file nodes).mpr (Or.inr hfile))
      have hnode : ∀ file ∈ node.files, f file = g file := fun file hfile =>
        h file ((mem_filesAmong_cons node file nodes).mpr (Or.inl hfile))
      rw [FileNode.files_eq] at hnode
      rw [mapFiles_cons, mapFiles_cons, ihnodes hnodes]
      by_cases hkind : node.kind = .file
      · rw [if_pos hkind] at hnode
        rw [if_pos hkind, if_pos hkind, hnode node (List.mem_singleton_self node)]
      · rw [if_neg hkind] at hnode
        rw [if_neg hkind, if_neg hkind, FileNode.mapChildren_congr (ihchildren hnode)]

theorem mapFiles_id (tree : Tree) : mapFiles id tree = tree := by
  induction tree using Tree.induction with
  | nil => exact mapFiles_nil id
  | cons node nodes ihchildren ihnodes =>
      rw [mapFiles_cons, ihnodes, FileNode.mapChildren_eq_self ihchildren, id, ite_self]

/-- A change of every file that changes none of them changes nothing. -/
theorem mapFiles_eq_self {tree : Tree} (h : ∀ file ∈ filesAmong tree, f file = file) :
    mapFiles f tree = tree :=
  (mapFiles_congr h).trans (mapFiles_id tree)

theorem mapFiles_mapFiles (f : FileNode → FileNode) (hg : Refills g) (tree : Tree) :
    mapFiles f (mapFiles g tree) = mapFiles (f ∘ g) tree := by
  induction tree using Tree.induction with
  | nil => rw [mapFiles_nil, mapFiles_nil, mapFiles_nil]
  | cons node nodes ihchildren ihnodes =>
      rw [mapFiles_cons, mapFiles_cons, mapFiles_cons, ihnodes]
      by_cases hkind : node.kind = .file
      · rw [if_pos hkind, if_pos ((hg.kind node).trans hkind), if_pos hkind, Function.comp_apply]
      · have hsame : (node.mapChildren (mapFiles g)).kind = node.kind := rfl
        rw [if_neg hkind, hsame, if_neg hkind, if_neg hkind, FileNode.mapChildren_mapChildren]
        rw [FileNode.mapChildren_congr (f := mapFiles f ∘ mapFiles g) ihchildren]

/-- The nodes of a tree after a change of each file. -/
theorem nodes_mapFiles (hf : Refills f) {tree : Tree} (h : tree.FilesAreLeaves) :
    nodes (mapFiles f tree) = tree.nodes.map (FileNode.mapFiles f) := by
  induction tree using Tree.induction with
  | nil => rw [mapFiles_nil, nodes_nil, List.map_nil]
  | cons node nodes ihchildren ihnodes =>
      rcases (filesAreLeaves_cons_iff node nodes).mp h with ⟨hleaf, hchildren, hnodes⟩
      rw [mapFiles_cons, nodes_cons, nodes_cons, List.map_cons, List.map_append, ihnodes hnodes,
        FileNode.mapFiles_eq]
      by_cases hkind : node.kind = .file
      · rw [if_pos hkind, if_pos hkind, hf.childList, hleaf hkind, nodes_nil, List.map_nil]
      · rw [if_neg hkind, if_neg hkind, FileNode.childList_mapChildren (mapFiles_nil f),
          ihchildren hchildren]
        rfl

/-- A change of every file does not lead the search for a path astray. -/
theorem find?_mapFiles (hf : Refills f) {tree : Tree} (h : tree.FilesAreLeaves) (path : String) :
    find? path (mapFiles f tree) = (find? path tree).map (FileNode.mapFiles f) := by
  induction tree using Tree.induction with
  | nil => rw [mapFiles_nil, find?_nil, Option.map_none]
  | cons node nodes ihchildren ihnodes =>
      rcases (filesAreLeaves_cons_iff node nodes).mp h with ⟨hleaf, hchildren, hnodes⟩
      have hsame : (FileNode.mapFiles f node).path = node.path := by
        rw [FileNode.mapFiles_eq]
        by_cases hkind : node.kind = .file
        · rw [if_pos hkind, hf.path]
        · rw [if_neg hkind]
          rfl
      -- A file has no nodes below it, with whatever it is filled.
      have hbelow : (FileNode.mapFiles f node).childList = mapFiles f node.childList := by
        rw [FileNode.mapFiles_eq]
        by_cases hkind : node.kind = .file
        · rw [if_pos hkind, hf.childList, hleaf hkind, mapFiles_nil]
        · rw [if_neg hkind]
          exact FileNode.childList_mapChildren (mapFiles_nil f) node
      change find? path (FileNode.mapFiles f node :: mapFiles f nodes) = _
      rw [find?_cons, find?_cons path node, hsame, hbelow, ihchildren hchildren, ihnodes hnodes]
      split_ifs <;> rfl

/-- A change of a file that is found, in a tree whose files were changed before, is one more change
    of every file. -/
theorem modify_mapFiles (f : FileNode → FileNode) (hg : Refills g) {tree : Tree}
    (hdistinct : tree.Distinct) (hleaves : tree.FilesAreLeaves) {path : String} {file : FileNode}
    (hfind : find? path tree = some file) (hkind : file.kind = .file) :
    modify path f (mapFiles g tree) = mapFiles (changeAt path f ∘ g) tree := by
  -- Where no node has the path, the second change makes no difference.
  have hothers : ∀ others : Tree, (∀ n ∈ others.nodes, n.path ≠ path) →
      mapFiles (changeAt path f ∘ g) others = mapFiles g others := fun others hne =>
    mapFiles_congr fun other hother => if_neg fun he =>
      hne other (mem_nodes_of_mem_filesAmong hother) ((hg.path other).symm.trans he)
  induction tree using Tree.induction with
  | nil => exact absurd (find?_nil path ▸ hfind) nofun
  | cons node nodes ihchildren ihnodes =>
      rcases (distinct_cons_iff node nodes).mp hdistinct with ⟨hnode, hchildren, hnodes, hapart⟩
      rcases (filesAreLeaves_cons_iff node nodes).mp hleaves with ⟨hleaf, hbelow, hbehind⟩
      rw [find?_cons] at hfind
      rw [mapFiles_cons, mapFiles_cons]
      by_cases hsame : node.path = path
      · rw [if_pos hsame, Option.some.injEq] at hfind
        rw [← hfind] at hkind
        have hrest := hothers nodes fun n hn he => hnode n (Or.inr hn) (he.trans hsame.symm)
        rw [if_pos hkind, if_pos hkind, modify_cons, if_pos ((hg.path node).trans hsame), hrest,
          Function.comp_apply, changeAt, if_pos ((hg.path node).trans hsame)]
      · rw [if_neg hsame] at hfind
        have hpath : file.path = path := by
          split_ifs at hfind <;> exact path_of_find? hfind
        by_cases hinto : Path.isBelow node.path path = true
        · rw [if_pos hinto] at hfind
          have hin := mem_nodes_of_find? hfind
          have hdir : node.kind ≠ .file := fun he => by
            rw [hleaf he, find?_nil] at hfind
            exact absurd hfind nofun
          have hrest := hothers nodes fun n hn he =>
            hapart file hin n hn (hpath.trans he.symm)
          have hkeep : (node.mapChildren (mapFiles g)).path = node.path := rfl
          rw [if_neg hdir, if_neg hdir, modify_cons, hkeep, if_neg hsame, if_pos hinto, hrest,
            FileNode.mapChildren_mapChildren]
          rw [FileNode.mapChildren_congr (f := modify path f ∘ mapFiles g)
            (ihchildren hchildren hbelow hfind)]
        · rw [if_neg hinto] at hfind
          have hin := mem_nodes_of_find? hfind
          have hfirst := hothers [node] fun n hn he => by
            rw [mem_nodes_cons, nodes_nil] at hn
            rcases hn with rfl | hn | hn
            · exact hsame he
            · exact hapart n hn file hin (he.trans hpath.symm)
            · exact List.not_mem_nil hn
          rw [mapFiles_cons, mapFiles_nil, mapFiles_cons, mapFiles_nil, List.cons.injEq] at hfirst
          have hkeep : (if node.kind = .file then g node else node.mapChildren (mapFiles g)).path =
              node.path := by
            split_ifs
            · exact hg.path node
            · rfl
          rw [hfirst.1, modify_cons, hkeep, if_neg hsame, if_neg hinto,
            ihnodes hnodes hbehind hfind]

end MapFiles

/-- A change of a file is a change of all files by a function that leaves the others alone. -/
theorem modify_eq_mapFiles (f : FileNode → FileNode) {path : String} {tree : Tree}
    (h : Rooted base tree) (hpath : path ∈ tree.filePaths) :
    modify path f tree = mapFiles (changeAt path f) tree := by
  rcases exists_find?_of_mem_filePaths h hpath with ⟨file, -, hfind, hkind⟩
  have hmodify := modify_mapFiles f (g := id) (fun _ => ⟨rfl, rfl, rfl, rfl⟩) h.distinct
    h.filesAreLeaves hfind hkind
  rwa [mapFiles_id] at hmodify

/-- A tree has other statuses and contents than another one, but only in files with some of the
    paths. -/
def RefilledAt (paths : List String) (tree tree' : Tree) : Prop :=
  ∃ f, Refills f ∧ (∀ node, node.path ∉ paths → f node = node) ∧ tree' = tree.mapFiles f

namespace RefilledAt

variable {paths paths' : List String} {tree tree' tree'' : Tree}

theorem refl (paths : List String) (tree : Tree) : RefilledAt paths tree tree :=
  ⟨id, fun _ => ⟨rfl, rfl, rfl, rfl⟩, fun _ _ => rfl, (mapFiles_eq_self fun _ _ => rfl).symm⟩

theorem mono (h : RefilledAt paths tree tree') (hpaths : ∀ path ∈ paths, path ∈ paths') :
    RefilledAt paths' tree tree' := by
  rcases h with ⟨f, hf, hothers, htree⟩
  exact ⟨f, hf, fun node hnode => hothers node fun hin => hnode (hpaths _ hin), htree⟩

theorem trans (h : RefilledAt paths tree tree') (h' : RefilledAt paths tree' tree'') :
    RefilledAt paths tree tree'' := by
  rcases h with ⟨f, hf, hothers, rfl⟩
  rcases h' with ⟨g, hg, hothers', rfl⟩
  refine ⟨g ∘ f, hg.comp hf, fun node hnode => ?_, mapFiles_mapFiles g hf tree⟩
  rw [Function.comp_apply, hothers node hnode, hothers' node hnode]

theorem rooted (h : RefilledAt paths tree tree') (hrooted : Rooted base tree) :
    Rooted base tree' := by
  rcases h with ⟨f, hf, -, rfl⟩
  exact rooted_mapFiles hf hrooted

theorem filePaths_eq (h : RefilledAt paths tree tree') : tree'.filePaths = tree.filePaths := by
  rcases h with ⟨f, hf, -, rfl⟩
  rw [filePaths, filePaths, files, files, files_mapFiles hf, List.map_map]
  exact List.map_congr_left fun node _ => hf.path node

/-- A file with another path is as it was. -/
theorem find?_eq (h : RefilledAt paths tree tree') (hrooted : Rooted base tree) {path : String}
    (hpath : path ∈ tree.filePaths) (hnot : path ∉ paths) : find? path tree' = find? path tree := by
  rcases h with ⟨f, hf, hothers, rfl⟩
  rcases exists_find?_of_mem_filePaths hrooted hpath with ⟨file, -, hfind, hkind⟩
  have hsame : f file = file := hothers file (by rw [path_of_find? hfind]; exact hnot)
  rw [find?_mapFiles hf hrooted.filesAreLeaves, hfind, Option.map_some, FileNode.mapFiles_eq,
    if_pos hkind, hsame]

end RefilledAt

theorem refilledAt_modify (hf : Refills f) {tree : Tree} (h : Rooted base tree) {path : String}
    (hpath : path ∈ tree.filePaths) : RefilledAt [path] tree (modify path f tree) := by
  refine ⟨changeAt path f, hf.changeAt path, fun node hnode => ?_, modify_eq_mapFiles f h hpath⟩
  exact if_neg fun he => hnode (List.mem_singleton.mpr he)

end Tree

end Replatform
