import Replatform.Json.Value
import Replatform.Table

/-!
# Typed Decoding

Reading a JSON tree as a value of a given type. A decoder looks only at what the
type has: unknown members of a record are passed over whatever they hold, and are
the reason why decoding starts from `Json.Source` and not from `Json`.

A record is an object with each field at most once, under its name or an alias, or
an array of its fields in order. A field that is left out takes its default if it
has one; in an object, a nullable field may be left out as well. An alternative
without data is its name as a string, or an object with that name as its only key
and `null` as its value.

Every array and object opened on the way spends one unit of the nesting depth.

## Main definitions

* `Json.Decoder`: Reading a value of a type.
* `Json.Decoder.string`, `nat`, `float`, `bool`, `nullable`, `list`, `names`, `table`,
  `choice`: The decoders of plain types.
* `Json.Fields`: The fields of a record.
* `Json.decode?`: Reading a whole text.
-/

namespace Replatform

namespace Json

/-- Reads a tree that may nest to the given depth. -/
abbrev Decoder (α : Type) := Nat → Source → Option α

namespace Decoder

/-- Any string. -/
def string : Decoder String
  | _, .string body => text? body
  | _, _ => none

/-- An integer that is at least zero and less than `bound`. -/
def nat (bound : Nat) : Decoder Nat
  | _, .number n =>
    match n.int? with
    | some i => if 0 ≤ i ∧ i < bound then some i.toNat else none
    | none => none
  | _, _ => none

/-- An unsigned integer of 64 bits. -/
def word : Decoder Nat :=
  nat UInt64.size

/-- An unsigned integer of 32 bits. -/
def halfWord : Decoder Nat :=
  nat UInt32.size

/-- Any number. -/
def float : Decoder Float
  | _, .number n => n.value?.bind number?
  | _, _ => none

/-- `true` or `false`. -/
def bool : Decoder Bool
  | _, .bool b => some b
  | _, _ => none

/-- A value or `null`. -/
def nullable {α : Type} (d : Decoder α) : Decoder (Option α)
  | _, .null => some none
  | depth, s => (d depth s).map some

/-- An array of values. -/
def list {α : Type} (d : Decoder α) : Decoder (List α)
  | depth + 1, .array items => items.mapM (d depth)
  | _, _ => none

/-- An array of strings, as a set. -/
def names : Decoder Names :=
  fun depth s => (list string depth s).map Names.ofList

/-- An object as a table, where of a repeated key the last one counts. -/
def table {α : Type} (d : Decoder α) : Decoder (Table α)
  | depth + 1, .object members =>
    (members.mapM fun (m : List Char × Source) => do
      return (← text? m.1, ← d depth m.2)).map Table.ofList
  | _, _ => none

/-- One of some named alternatives without data, where `isVoid` says what may stand for the
    data that is missing. -/
def choiceWith {α : Type} (isVoid : Source → Bool) (alternatives : List (String × α)) : Decoder α
  | _, .string body => (text? body).bind fun name => List.lookup name alternatives
  | _ + 1, .object [(key, value)] =>
    if isVoid value then (text? key).bind fun name => List.lookup name alternatives else none
  | _, _ => none

/-- The value is `null`. -/
def isNull : Source → Bool
  | .null => true
  | _ => false

/-- The value is `null` or an object without members. -/
def isHollow : Source → Bool
  | .null | .object [] => true
  | _ => false

/-- One of some named alternatives without data. -/
def choice {α : Type} (alternatives : List (String × α)) : Decoder α :=
  choiceWith isNull alternatives

/-- One of some named alternatives without data, inside of what was read before it was known
    what it is. There an empty object is as good as `null`. -/
def lateChoice {α : Type} (alternatives : List (String × α)) : Decoder α :=
  choiceWith isHollow alternatives

end Decoder

/-- A field of a record: its name and the other names it is known under. -/
structure FieldName where
  name : String
  aliases : List String := []

instance : Coe String FieldName := ⟨fun name => { name }⟩

/-- The fields of a record as found in a tree. -/
structure Fields where
  /-- How deep the values of the fields may nest. -/
  depth : Nat
  /-- The record was written as an array. -/
  positional : Bool
  /-- The fields that are there. -/
  found : List (String × Source)

namespace Fields

/-- Sort the members of an object by field, none if a field occurs twice. -/
def ofMembers? (fields : List FieldName) :
    List (List Char × Source) → Option (List (String × Source))
  | [] => some []
  | (key, value) :: members => do
    let key ← text? key
    let found ← ofMembers? fields members
    match fields.find? fun f => f.name == key || f.aliases.contains key with
    | none => some found
    | some f => if found.any (·.1 == f.name) then none else some ((f.name, value) :: found)

/-- The fields of a record. -/
def of? (fields : List FieldName) : Nat → Source → Option Fields
  | depth + 1, .object members =>
    (ofMembers? fields members).map fun found => { depth, positional := false, found }
  | depth + 1, .array items =>
    if fields.length < items.length then none
    else some { depth, positional := true, found := (fields.map FieldName.name).zip items }
  | _, _ => none

variable {α : Type}

/-- The value of a field that must be there. -/
def required? (f : Fields) (name : String) (d : Decoder α) : Option α :=
  (List.lookup name f.found).bind (d f.depth)

/-- The value of a field that may be left out. -/
def withDefault? (f : Fields) (name : String) (d : Decoder α) (default : α) : Option α :=
  match List.lookup name f.found with
  | some s => d f.depth s
  | none => some default

/-- The value of a nullable field without a default: an object may leave it out. -/
def nullable? (f : Fields) (name : String) (d : Decoder α) : Option (Option α) :=
  match List.lookup name f.found with
  | some s => d.nullable f.depth s
  | none => if f.positional then none else some none

end Fields

/-- Read a whole text. -/
def decode? {α : Type} (d : Decoder α) (text : String) : Option α :=
  (Source.read? text).bind (d maxDepth)

end Json

end Replatform
