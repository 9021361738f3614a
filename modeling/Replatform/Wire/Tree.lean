import Replatform.Json.Decode
import Replatform.Tree.Node

/-!
# Trees on the Wire

The JSON form of file nodes. A node without content or without children leaves the
member out, so that it can be told from one whose content or list of children is
empty.

## Main definitions

* `FileStatus.label`, `FileStatus.toJson`, `FileStatus.decoder`: Statuses by name.
* `FileNode.toJson`, `FileNode.decoder`: Nodes.
-/

namespace Replatform

open Json (Decoder Fields)

namespace NodeKind

/-- The name of a kind. -/
def label : NodeKind → String
  | .file => "file"
  | .directory => "directory"

/-- Read a kind. -/
def decoder : Decoder NodeKind :=
  .choice ([file, directory].map fun k => (k.label, k))

end NodeKind

namespace FileStatus

/-- The name of a status. -/
def label : FileStatus → String
  | .pending => "pending"
  | .inProgress => "in-progress"
  | .done => "done"
  | .error => "error"

/-- The JSON form of a status. -/
def toJson (s : FileStatus) : Json :=
  .str s.label

/-- The statuses by name. -/
def alternatives : List (String × FileStatus) :=
  [pending, inProgress, done, error].map fun s => (s.label, s)

/-- Read a status. -/
def decoder : Decoder FileStatus :=
  .choice alternatives

end FileStatus

namespace FileNode

mutual

/-- The members of the JSON form of a node, in no particular order. -/
def jsonMembers : FileNode → List (String × Json)
  | ⟨path, name, kind, status, content, children⟩ =>
    [("path", .str path), ("name", .str name), ("type", .str kind.label),
      ("status", status.toJson)] ++
    (match content with
      | some text => [("content", .str text)]
      | none => []) ++
    (match children with
      | some nodes => [("children", .arr (jsonAmong nodes))]
      | none => [])

/-- The JSON forms of some nodes. -/
def jsonAmong : List FileNode → List Json
  | [] => []
  | node :: nodes => Json.ofMembers (jsonMembers node) :: jsonAmong nodes

end

/-- The JSON form of a node. -/
def toJson (node : FileNode) : Json :=
  Json.ofMembers (jsonMembers node)

/-- Read a node. The depth bounds the recursion, since the children of a node are two
    levels below it. -/
def decoder : Decoder FileNode
  | 0, _ => none
  | depth + 1, s => do
    let f ← Fields.of? ["path", "name", "type", "status", "content", "children"] (depth + 1) s
    let path ← f.required? "path" .string
    let name ← f.required? "name" .string
    let kind ← f.required? "type" NodeKind.decoder
    let status ← f.withDefault? "status" FileStatus.decoder .pending
    let content ← f.withDefault? "content" (Decoder.nullable .string) none
    let children ← match List.lookup "children" f.found with
      | none | some .null => some none
      | some (.array items) =>
        match depth with
        | 0 => none
        | depth + 1 => (items.mapM (decoder depth)).map some
      | some _ => none
    some { path, name, kind, status, content, children }

end FileNode

/-- The JSON form of a tree. -/
def Tree.toJson (tree : Tree) : Json :=
  .arr (tree.map FileNode.toJson)

/-- Read a tree. -/
def Tree.decoder : Decoder Tree :=
  .list FileNode.decoder

end Replatform
