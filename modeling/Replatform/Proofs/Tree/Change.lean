import Replatform.Proofs.Tree.Refill

/-!
# Changing the Node That Is Found

What a caller can rely on who looks a path up in a tree in order to change the node there. The search
that finds the node and the one that changes it are two functions, and nothing in their definitions
says that they come to the same node. `modify_congr` says that they do: a change depends on what the
function does to the node that is found, and on nothing else.

That no other node changes is a statement about the whole tree. The nodes above the changed one are
not the same as before, since it is among what is below them. So a tree is laid out in rows, one node
in each with its depth, and nothing in it of what is below. In the rows of a tree a change replaces one
row. The induction only needs that no path is repeated and that the node is found, so it goes for all
trees that are valid and not just for those that are rooted.

## Main definitions

* `FileNode.bare`: A node without what is below it.
* `Tree.rows`: The nodes of a tree and their depths, one by one.
* `Tree.LooksUp`: Looking a path up and changing the node there.

## Theorems

* `modify_congr`: A change goes to the node that is found.
* `rows_modify`: A change replaces one row.
* `Rooted.looksUp`, `looksUp_build`: What a lookup does in the trees that are built from paths.
-/

namespace Replatform

/-- A node without what is below it. -/
def FileNode.bare (node : FileNode) : FileNode :=
  node.mapChildren fun _ => []

theorem FileNode.bare_mapChildren (f : List FileNode → List FileNode) (node : FileNode) :
    (node.mapChildren f).bare = node.bare := by
  rw [bare, mapChildren_mapChildren]
  rfl

namespace Tree

open FileNode (outlineAmong)

/-- The nodes of a tree and their depths, one by one. -/
def rows (tree : Tree) : List (Nat × FileNode) :=
  tree.outline.map fun entry => (entry.1, entry.2.bare)

/-- Looking a path up in a tree, and changing the node that is found. -/
structure LooksUp (path : String) (tree : Tree) : Prop where
  /-- No two nodes have the same path. -/
  once : tree.Distinct
  /-- What is found is the node with the path. -/
  found : ∀ node, find? path tree = some node ↔ node ∈ tree.nodes ∧ node.path = path
  /-- Nothing is found if no node has the path, and only then. -/
  missing : find? path tree = none ↔ ∀ node ∈ tree.nodes, node.path ≠ path
  /-- The node that is handed out for a change is the one that is found. -/
  handed : ∀ node f, find? path tree = some node →
    modify path f tree = modify path (fun _ => f node) tree
  /-- Where nothing is found nothing is changed. -/
  untouched : ∀ f, find? path tree = none → modify path f tree = tree
  /-- What is found after a change. -/
  changed : ∀ f, Refills f → find? path (modify path f tree) = (find? path tree).map f
  /-- Every node is where it was, and as it was unless it has the path. -/
  rows : ∀ f, Refills f → rows (modify path f tree) =
    tree.outline.map fun entry => (entry.1, (changeAt path f entry.2).bare)
  /-- So are the files. -/
  files : ∀ f, Refills f → files (modify path f tree) = tree.files.map (changeAt path f)
  /-- The files have the same paths, in the same order. -/
  filePaths : ∀ f, Refills f → filePaths (modify path f tree) = tree.filePaths

variable {base path : String} {node : FileNode} {tree : Tree} {f g : FileNode → FileNode}

/-- A change goes to the node that is found. -/
theorem modify_congr (hfind : find? path tree = some node) (hfg : f node = g node) :
    modify path f tree = modify path g tree := by
  induction tree using Tree.induction with
  | nil => exact absurd (find?_nil path ▸ hfind) nofun
  | cons first rest ihchildren ihrest =>
      rw [find?_cons] at hfind
      rw [modify_cons, modify_cons]
      by_cases hpath : first.path = path
      · rw [if_pos hpath, Option.some.injEq] at hfind
        rw [if_pos hpath, if_pos hpath, hfind, hfg]
      · rw [if_neg hpath] at hfind
        rw [if_neg hpath, if_neg hpath]
        by_cases hbelow : Path.isBelow first.path path = true
        · rw [if_pos hbelow] at hfind
          rw [if_pos hbelow, if_pos hbelow, FileNode.mapChildren_congr (ihchildren hfind)]
        · rw [if_neg hbelow] at hfind
          rw [if_neg hbelow, if_neg hbelow, ihrest hfind]

section Rows

theorem mem_nodes_of_mem_outlineAmong {depth : Nat} {entry : Nat × FileNode}
    (h : entry ∈ outlineAmong depth tree) : entry.2 ∈ tree.nodes :=
  map_snd_outlineAmong depth tree ▸ List.mem_map_of_mem h

/-- Where no node has the path no row is changed. -/
theorem map_outlineAmong_changeAt (depth : Nat) (h : ∀ m ∈ tree.nodes, m.path ≠ path) :
    (outlineAmong depth tree).map (fun entry => (entry.1, (changeAt path f entry.2).bare)) =
      (outlineAmong depth tree).map fun entry => (entry.1, entry.2.bare) := by
  refine List.map_congr_left fun entry hentry => ?_
  rw [changeAt, if_neg (h _ (mem_nodes_of_mem_outlineAmong hentry))]

theorem map_outlineAmong_modify (hf : Refills f) (depth : Nat) (h : tree.Distinct)
    (hfind : find? path tree = some node) :
    (outlineAmong depth (modify path f tree)).map (fun entry => (entry.1, entry.2.bare)) =
      (outlineAmong depth tree).map fun entry => (entry.1, (changeAt path f entry.2).bare) := by
  induction tree using Tree.induction generalizing depth with
  | nil => exact absurd (find?_nil path ▸ hfind) nofun
  | cons first rest ihchildren ihrest =>
      rcases (distinct_cons_iff first rest).mp h with ⟨hfirst, hchildren, hrest, hapart⟩
      rw [find?_cons] at hfind
      rw [modify_cons, outlineAmong_cons depth first, List.map_cons, List.map_append]
      by_cases hpath : first.path = path
      · rw [if_pos hpath, outlineAmong_cons, List.map_cons, List.map_append, hf.childList,
          map_outlineAmong_changeAt _ fun m hm => hpath ▸ hfirst m (Or.inl hm),
          map_outlineAmong_changeAt _ fun m hm => hpath ▸ hfirst m (Or.inr hm), changeAt,
          if_pos hpath]
      · rw [if_neg hpath] at hfind
        rw [if_neg hpath, changeAt, if_neg hpath]
        by_cases hbelow : Path.isBelow first.path path = true
        · rw [if_pos hbelow] at hfind
          -- The node is below the first one, so none behind it has the path.
          have hnone : ∀ m ∈ nodes rest, m.path ≠ path := fun m hm =>
            path_of_find? hfind ▸ (hapart node (mem_nodes_of_find? hfind) m hm).symm
          rw [if_pos hbelow, outlineAmong_cons, List.map_cons, List.map_append,
            FileNode.bare_mapChildren, FileNode.childList_mapChildren (modify_nil path f),
            ihchildren _ hchildren hfind, map_outlineAmong_changeAt _ hnone]
        · rw [if_neg hbelow] at hfind
          have hnone : ∀ m ∈ nodes first.childList, m.path ≠ path := fun m hm =>
            path_of_find? hfind ▸ hapart m hm node (mem_nodes_of_find? hfind)
          rw [if_neg hbelow, outlineAmong_cons, List.map_cons, List.map_append,
            ihrest _ hrest hfind, map_outlineAmong_changeAt _ hnone]

/-- Where paths are different a change replaces one row. -/
theorem rows_modify (hf : Refills f) (h : tree.Distinct) (hfind : find? path tree = some node) :
    (modify path f tree).rows =
      tree.outline.map fun entry => (entry.1, (changeAt path f entry.2).bare) :=
  map_outlineAmong_modify hf 0 h hfind

end Rows

theorem Rooted.find?_eq_some_iff (h : Rooted base tree) :
    find? path tree = some node ↔ node ∈ tree.nodes ∧ node.path = path := by
  constructor
  · exact fun hfind => ⟨mem_nodes_of_find? hfind, path_of_find? hfind⟩
  · rintro ⟨hmem, rfl⟩
    exact h.find?_of_mem_nodes hmem

theorem Rooted.find?_eq_none_iff (h : Rooted base tree) :
    find? path tree = none ↔ ∀ node ∈ tree.nodes, node.path ≠ path := by
  rw [Option.eq_none_iff_forall_ne_some]
  exact forall_congr' fun node => (not_congr h.find?_eq_some_iff).trans not_and

/-- What a lookup does in a tree whose nodes are in their places. -/
theorem Rooted.looksUp (h : Rooted base tree) (path : String) : tree.LooksUp path where
  once := h.distinct
  found := fun _ => h.find?_eq_some_iff
  missing := h.find?_eq_none_iff
  handed := fun _ _ hfind => modify_congr hfind rfl
  untouched := fun f hnone => modify_of_find?_eq_none f hnone
  changed := fun _ hf => find?_modify hf path tree
  rows := by
    intro f hf
    cases hfind : find? path tree with
    | some node => exact rows_modify hf h.distinct hfind
    | none =>
        rw [modify_of_find?_eq_none f hfind]
        exact (map_outlineAmong_changeAt 0 (h.find?_eq_none_iff.mp hfind)).symm
  files := fun _ hf => files_modify hf path h
  filePaths := by
    intro f hf
    have hfiles : files (modify path f tree) = tree.files.map (changeAt path f) :=
      files_modify hf path h
    rw [filePaths, filePaths, hfiles, List.map_map]
    exact List.map_congr_left fun file _ => (hf.changeAt path).path file

/-- What a lookup does in a tree that was built, whatever path it is for. -/
theorem looksUp_build (paths : List String) (path : String) : (build paths).LooksUp path :=
  (rooted_build paths).looksUp path

/-- A directory whose name is the beginning of the name beside it is not in the way. -/
example : (find? "src/libs/x.ts" (build ["src/lib/db.ts", "src/libs/x.ts"])).map FileNode.name =
    some "x.ts" := by
  decide +kernel

end Tree

end Replatform
