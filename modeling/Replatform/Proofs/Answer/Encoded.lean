import Replatform.Proofs.Answer.Plan
import Replatform.Proofs.Json.Span
import Replatform.Proofs.Text
import Replatform.Proofs.Tree.Built
import Replatform.Wire.Tree

/-!
# Trees Read Back

A tree that was written as JSON is a plan. The reader of plans was not made for such trees: it
guesses from the members of an object what the object is. A node has a path, which is complete
wherever the node stands, and a list of children if it is a directory, and so every guess is right.

The text of a tree is read at all if it does not nest too deep. It nests twice as deep as the paths
have names, and the paths of directories have fewer names than those of the files below them.

## Main definitions

* `FileNode.sortedMembers`: The members of a written node, in the order of their keys.
* `FileNode.declared`, `Tree.declared`: The JSON forms with members in the order of declaration.

## Theorems

* `Answer.collect_toJson`: What is collected from a written tree.
* `Tree.means_and_isValue`: How deep a written tree is.
* `Tree.parse?_render_build`: Either text of a tree means the tree.
* `Answer.plan_encoded`: A tree that was built from paths is read back.
-/

namespace Replatform

namespace FileNode

variable {node : FileNode}

/-- The members of a written node that are texts, in the order of their declaration. -/
def textMembers (node : FileNode) : List (String × Json) :=
  [("path", .str node.path), ("name", .str node.name), ("type", .str node.kind.label),
    ("status", node.status.toJson)] ++
  (node.content.map fun text => ("content", .str text)).toList

/-- The members of a written node in the order of their declaration, if its children are written
    by `write`. -/
def membersWith (write : FileNode → Json) (node : FileNode) : List (String × Json) :=
  node.textMembers ++ (node.children.map fun nodes => ("children", .arr (nodes.map write))).toList

theorem jsonAmong_eq (nodes : List FileNode) : jsonAmong nodes = nodes.map toJson := by
  induction nodes with
  | nil => rw [jsonAmong, List.map_nil]
  | cons node nodes ih => rw [jsonAmong, ih, List.map_cons, toJson]

theorem jsonMembers_eq (node : FileNode) : jsonMembers node = node.membersWith toJson := by
  rcases node with ⟨path, name, kind, status, _ | content, _ | children⟩ <;>
    simp only [jsonMembers, membersWith, jsonAmong_eq, Option.map_none, Option.map_some] <;> rfl

/-- The members of a written node, in the order of their keys. -/
def sortedMembers (node : FileNode) : List (String × Json) :=
  (jsonMembers node).foldl (fun acc m => Json.placeMember m.1 m.2 acc) []

theorem toJson_eq (node : FileNode) : node.toJson = .obj node.sortedMembers :=
  rfl

section Lookup

theorem lookup_sortedMembers (key : String) (node : FileNode) :
    List.lookup key node.sortedMembers = List.lookup key (node.membersWith toJson).reverse := by
  rw [sortedMembers, Json.lookup_foldl_placeMember, List.lookup_nil, Option.or_none, jsonMembers_eq]

theorem lookup_path (node : FileNode) :
    List.lookup "path" node.sortedMembers = some (.str node.path) := by
  rw [lookup_sortedMembers]
  rcases node with ⟨path, name, kind, status, _ | content, _ | children⟩ <;> rfl

theorem lookup_type (node : FileNode) :
    List.lookup "type" node.sortedMembers = some (.str node.kind.label) := by
  rw [lookup_sortedMembers]
  rcases node with ⟨path, name, kind, status, _ | content, _ | children⟩ <;> rfl

theorem lookup_children (node : FileNode) :
    List.lookup "children" node.sortedMembers =
      node.children.map fun nodes => .arr (nodes.map toJson) := by
  rw [lookup_sortedMembers]
  rcases node with ⟨path, name, kind, status, _ | content, _ | children⟩ <;> rfl

theorem wrapperKey?_sortedMembers (node : FileNode) :
    Answer.wrapperKey? node.sortedMembers = none := by
  refine List.find?_eq_none.mpr fun key hkey => ?_
  rw [lookup_sortedMembers]
  simp only [Answer.wrapperKeys, List.mem_cons, List.not_mem_nil, or_false] at hkey
  rcases hkey with rfl | rfl | rfl <;>
    rcases node with ⟨path, name, kind, status, _ | content, _ | children⟩ <;>
    exact Bool.false_ne_true

/-- A node is called by its path. -/
theorem textField?_sortedMembers (node : FileNode) :
    Answer.textField? node.sortedMembers ["path"] = some (Text.trim node.path) := by
  rw [Answer.textField?, List.findSome?_cons, lookup_path]
  rfl

theorem label?_sortedMembers (node : FileNode) :
    Answer.label? node.sortedMembers = some (Text.trim node.path) := by
  rw [Answer.label?, textField?_sortedMembers, Option.some_or]

end Lookup

section Written

mutual

/-- The JSON form of a node with its members in the order of their declaration. -/
def declared : FileNode → Json
  | ⟨path, name, kind, status, content, none⟩ =>
    .obj (textMembers ⟨path, name, kind, status, content, none⟩)
  | ⟨path, name, kind, status, content, some nodes⟩ =>
    .obj (textMembers ⟨path, name, kind, status, content, some nodes⟩ ++
      [("children", .arr (declaredAmong nodes))])

/-- The JSON forms of some nodes, with their members in this order. -/
def declaredAmong : List FileNode → List Json
  | [] => []
  | node :: nodes => declared node :: declaredAmong nodes

end

theorem declaredAmong_eq (nodes : List FileNode) : declaredAmong nodes = nodes.map declared := by
  induction nodes with
  | nil => rw [declaredAmong, List.map_nil]
  | cons node nodes ih => rw [declaredAmong, ih, List.map_cons]

theorem declared_eq (node : FileNode) : node.declared = .obj (node.membersWith declared) := by
  rcases node with ⟨path, name, kind, status, content, _ | children⟩
  · rw [declared, membersWith, Option.map_none, Option.toList_none, List.append_nil]
  · rw [declared, declaredAmong_eq, membersWith, Option.map_some, Option.toList_some]

variable {depth : ℕ}

/-- The text of a node means the node in either order, if that holds of its children. -/
theorem means_declared (h : ∀ nodes, node.children = some nodes →
    Json.Means depth (.arr (nodes.map declared)) (.arr (nodes.map toJson))) :
    Json.Means (depth + 1) node.declared node.toJson := by
  have hstr : ∀ {key s}, (key : String) = key ∧ Json.Means depth (.str s) (.str s) :=
    ⟨rfl, .str depth _⟩
  rw [declared_eq, toJson, jsonMembers_eq]
  unfold membersWith textMembers
  refine .obj (List.rel_append (List.rel_append ?_ ?_) ?_)
  · exact .cons hstr (.cons hstr (.cons hstr (.cons hstr .nil)))
  · cases node.content with
    | none => exact .nil
    | some text => exact .cons hstr .nil
  · cases hnodes : node.children with
    | none => exact .nil
    | some nodes => exact .cons ⟨rfl, h nodes hnodes⟩ .nil

/-- Every member of a written node is a text, apart from the list of the children. -/
theorem value_of_mem_membersWith {m : String × Json} (hm : m ∈ node.membersWith toJson) :
    (∃ s, m.2 = .str s) ∨ ∃ nodes, node.children = some nodes ∧ m.2 = .arr (nodes.map toJson) := by
  rw [membersWith, textMembers, List.mem_append, List.mem_append, Option.mem_toList,
    Option.mem_toList] at hm
  rcases hm with (hm | hm) | hm
  · simp only [List.mem_cons, List.not_mem_nil, or_false] at hm
    rcases hm with rfl | rfl | rfl | rfl <;> exact Or.inl ⟨_, rfl⟩
  · rcases Option.mem_map.mp hm with ⟨text, -, rfl⟩
    exact Or.inl ⟨text, rfl⟩
  · rcases Option.mem_map.mp hm with ⟨nodes, hnodes, rfl⟩
    exact Or.inr ⟨nodes, hnodes, rfl⟩

theorem isValue_toJson (h : ∀ nodes, node.children = some nodes →
    Json.IsValue depth (.arr (nodes.map toJson))) : Json.IsValue (depth + 1) node.toJson := by
  refine Json.isValue_ofMembers fun m hm => ?_
  rw [jsonMembers_eq] at hm
  rcases value_of_mem_membersWith hm with ⟨s, hs⟩ | ⟨nodes, hnodes, hvalue⟩
  · rw [hs]
    exact .str depth s
  · rw [hvalue]
    exact h nodes hnodes

end Written

end FileNode

namespace Tree

/-- The JSON form of a tree with the members of its nodes in the order of their declaration. -/
def declared (tree : Tree) : Json :=
  .arr (tree.map FileNode.declared)

/-- A written tree nests twice as deep as its paths have names, since the children of a directory
    are in a list that is in an object. -/
theorem means_and_isValue {base : String} {tree : Tree} {n : ℕ} (h : tree.Rooted base)
    (hnames : ∀ m ∈ visits tree,
      (Path.normalSegments m.path).length ≤ (Path.normalSegments base).length + n) :
    ∀ node ∈ tree, Json.Means (2 * n) node.declared node.toJson ∧
      Json.IsValue (2 * n) node.toJson := by
  induction tree using Tree.induction generalizing base n with
  | nil => exact nofun
  | cons node nodes ihchildren ihnodes =>
      rcases (rooted_cons_iff node nodes).mp h with ⟨hnode, -, hnodes⟩
      have hpath : (Path.normalSegments node.path).length =
          (Path.normalSegments base).length + 1 := by
        rw [hnode.path_eq, Path.normalSegments_childPath base hnode.isName, List.length_append,
          List.length_singleton]
      simp only [mem_visits_cons, hnode.visits_eq, List.mem_cons, or_imp, forall_and,
        forall_eq] at hnames
      rcases hnames with ⟨⟨hself, hbelow⟩, hbeside⟩
      refine List.forall_mem_cons.mpr ⟨?_, ihnodes hnodes hbeside⟩
      -- The node has a name of its own.
      rcases Nat.exists_eq_add_one.mpr (show 0 < n by omega) with ⟨k, rfl⟩
      have hchildren := ihchildren (n := k) hnode.childList fun m hm => by
        have hm := hbelow m hm
        omega
      have hlist : ∀ children, node.children = some children → node.childList = children :=
        fun children hsome => by rw [FileNode.childList, hsome, Option.getD_some]
      constructor
      · refine FileNode.means_declared fun children hsome => .arr fun child hchild => ?_
        exact (hchildren child (hlist children hsome ▸ hchild)).1
      · refine FileNode.isValue_toJson fun children hsome => .arr fun item hitem => ?_
        rcases List.mem_map.mp hitem with ⟨child, hchild, rfl⟩
        exact (hchildren child (hlist children hsome ▸ hchild)).2

variable {paths : List String} {n : ℕ}

/-- The paths of a tree that was built have no more names than those it was built from. -/
theorem length_names_build (h : ∀ path ∈ paths, (Path.normalSegments path).length ≤ n) :
    ∀ m ∈ visits (build paths), (Path.normalSegments m.path).length ≤ n := by
  intro m hm
  rcases (exists_mem_visits_build_iff paths m.path m.kind).mp ⟨m, hm, rfl, rfl⟩ with ⟨-, -, hkind⟩
  -- A file has the names of one of the paths, and a directory some of them.
  have hfront : ∃ names ∈ paths.map Path.normalSegments, Path.normalSegments m.path <+: names := by
    cases hnode : m.kind with
    | file =>
        rw [hnode] at hkind
        exact ⟨_, (kindAmong?_eq_file_iff.mp hkind).1, List.prefix_rfl⟩
    | directory =>
        rw [hnode] at hkind
        rcases kindAmong?_eq_directory_iff.mp hkind with ⟨names, hnames, hextends⟩
        exact ⟨names, hnames, hextends.1⟩
  rcases hfront with ⟨names, hnames, hfront⟩
  rcases List.mem_map.mp hnames with ⟨path, hpath, rfl⟩
  exact Nat.le_trans hfront.length_le (h path hpath)

/-- Either text of a tree that was built means the tree. -/
theorem parse?_render_build (h : ∀ path ∈ paths, (Path.normalSegments path).length ≤ 63) :
    Json.parse? (Json.render (build paths).toJson) = some (build paths).toJson ∧
      Json.parse? (Json.render (build paths).declared) = some (build paths).toJson := by
  have hroot : (Path.normalSegments "").length = 0 := rfl
  have hnodes := means_and_isValue (n := 63) (rooted_build paths) fun m hm => by
    rw [hroot, Nat.zero_add]
    exact length_names_build h m hm
  constructor
  · have hvalue : Json.IsValue (2 * 63 + 1) (build paths).toJson := .arr fun item hitem => by
      rcases List.mem_map.mp hitem with ⟨node, hnode, rfl⟩
      exact (hnodes node hnode).2
    exact Json.parse?_render hvalue
  · have hmeans : Json.Means (2 * 63 + 1) (build paths).declared (build paths).toJson :=
      .arr fun node hnode => (hnodes node hnode).1
    exact hmeans.parse?

end Tree

namespace Answer

section Collect

variable {base : String} {node : FileNode} {tree : Tree}

theorem under_root (path : String) : under "" path = path :=
  if_pos rfl

/-- From a written node its own path is collected if it is a file, and otherwise what is collected
    from its children. -/
theorem collect_node (h : node.Rooted base) :
    collect "" node.toJson =
      if node.kind = .file then [Text.trim node.path]
      else (node.childList.map FileNode.toJson).flatMap (collect "") := by
  have hkey := node.wrapperKey?_sortedMembers
  have hlabel := node.label?_sortedMembers
  have hchildren := node.lookup_children
  rw [FileNode.toJson_eq]
  cases hnodes : node.children with
  | none =>
      rw [hnodes, Option.map_none] at hchildren
      have hleaf : ∀ items, List.lookup "children" node.sortedMembers ≠ some (.arr items) :=
        fun items h => Option.some_ne_none _ (h.symm.trans hchildren)
      rw [collect_leaf hkey hlabel hleaf, node.lookup_type, FileNode.childList, hnodes,
        Option.getD_none, List.map_nil, List.flatMap_nil, under_root]
      cases node.kind <;> rfl
  | some nodes =>
      rw [hnodes, Option.map_some] at hchildren
      have hkind : ¬ node.kind = .file := fun hfile => by
        rw [h.children_eq_none hfile] at hnodes
        exact absurd hnodes.symm (Option.some_ne_none nodes)
      have hpath : (textField? node.sortedMembers ["path"]).isSome = true := by
        rw [node.textField?_sortedMembers, Option.isSome_some]
      rw [collect_directory hkey hlabel hchildren, if_pos hpath, if_neg hkind, FileNode.childList,
        hnodes, Option.getD_some]

/-- What is collected from a written tree are the paths of its files. -/
theorem collect_toJson (h : tree.Rooted base) :
    collect "" tree.toJson = tree.filePaths.map Text.trim := by
  rw [Tree.toJson, collect_arr]
  induction tree using Tree.induction generalizing base with
  | nil => rfl
  | cons node nodes ihchildren ihnodes =>
      rcases (Tree.rooted_cons_iff node nodes).mp h with ⟨hnode, -, hnodes⟩
      rw [List.map_cons, List.flatMap_cons, collect_node hnode, ihnodes hnodes,
        ihchildren hnode.childList, Tree.filePaths_cons, List.map_append, FileNode.files_eq]
      split_ifs <;> rfl

end Collect

section Plan

variable {paths : List String}

/-- The files of a tree that was built are clean if the paths that it was built from are. -/
theorem isClean_of_mem_filePaths (hslashes : ∀ path ∈ paths, '\\' ∉ (Path.normalize path).toList)
    (htrimmed : ∀ path ∈ paths, Text.trim (Path.normalize path) = Path.normalize path) :
    ∀ path ∈ (Tree.build paths).filePaths, IsClean path := by
  intro path hpath
  have hmem := ((Tree.mem_filePaths_build paths path).mp hpath).1
  rcases Path.mem_normals_iff.mp hmem with ⟨hnormal, hne, -⟩
  rcases List.mem_map.mp (List.mem_filter.mp hmem).1 with ⟨raw, hraw, rfl⟩
  exact ⟨hnormal, hne, htrimmed raw hraw, hslashes raw hraw⟩

/-- A tree that was built from paths is read back as the list of its files, from any text that means
    the tree. It can be written with the members of its nodes in any order. -/
theorem plan_encoded (paths : List String)
    (hlength : ∀ path ∈ paths, (Path.normalSegments path).length ≤ 63)
    (hslashes : ∀ path ∈ paths, '\\' ∉ (Path.normalize path).toList)
    (htrimmed : ∀ path ∈ paths, Text.trim (Path.normalize path) = Path.normalize path) :
    plan (Json.render (Tree.build paths).toJson) = (Tree.build paths).filePaths ∧
      plan (Json.render (Tree.build paths).declared) = (Tree.build paths).filePaths ∧
      ∀ text, Json.parse? (Text.trim text) = some (Tree.build paths).toJson →
        plan text = (Tree.build paths).filePaths := by
  have hplan : ∀ text, Json.parse? (Text.trim text) = some (Tree.build paths).toJson →
      plan text = (Tree.build paths).filePaths := by
    intro text htext
    have hclean := isClean_of_mem_filePaths hslashes htrimmed
    have htrim : (Tree.build paths).filePaths.map Text.trim = (Tree.build paths).filePaths := by
      rw [List.map_congr_left fun path hpath => (hclean path hpath).trimmed, List.map_id']
    rw [plan_of_extract? (extract?_of_parse? htext), collect_toJson (Tree.rooted_build paths), htrim,
      sanitize_of_isClean hclean (Tree.filePaths_nodup (Tree.rooted_build paths))]
  rcases Tree.parse?_render_build hlength with ⟨hsorted, hdeclared⟩
  refine ⟨hplan _ ?_, hplan _ ?_, hplan⟩
  · rw [Tree.toJson, Json.trim_render_arr]
    exact hsorted
  · rw [Tree.declared, Json.trim_render_arr]
    exact hdeclared

/-- A path that is a directory of another, and one path in two spellings. -/
theorem plan_encoded_nested :
    plan (Json.render (Tree.build ["z.ts", "lib/a.ts", "lib", "lib/b/c.ts", "./z.ts"]).declared) =
      ["lib/b/c.ts", "lib/a.ts", "z.ts"] := by
  have hfiles : (Tree.build ["z.ts", "lib/a.ts", "lib", "lib/b/c.ts", "./z.ts"]).filePaths =
      ["lib/b/c.ts", "lib/a.ts", "z.ts"] := by
    decide +kernel
  have hplan := plan_encoded ["z.ts", "lib/a.ts", "lib", "lib/b/c.ts", "./z.ts"] (by decide +kernel)
    (by decide +kernel) (by decide +kernel)
  rw [hplan.2.1, hfiles]

end Plan

end Answer

end Replatform
