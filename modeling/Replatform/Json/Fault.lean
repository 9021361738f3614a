import Replatform.Json.Decode

/-!
# Where a Text Fails to Have a Shape

A text that is to be read as a value of a certain shape is looked at from its beginning,
and reading ends at the first thing that does not fit, whatever is behind it. When that
thing is a string in a place where no string may stand, the complaint about it quotes
the string.

So that the first misfit is found in a text that is no JSON as a whole, such a text is
taken as far as it goes, as if it ended with what was read last.

## Main definitions

* `Json.Source.readPrefix`: The tree of a text as far as it goes.
* `Json.Shape`: What is expected.
* `Json.Shape.misfit`: The first thing that does not fit.
* `Json.strayString?`: The string that is the first misfit of a text.
-/

namespace Replatform

namespace Json

namespace Source

mutual

/-- The value at the start of `cs` as far as it goes, and what follows it if it is complete. -/
def prefixValue? : Nat → List Char → Option (Source × Option (List Char))
  | 0, _ => none
  | fuel + 1, cs =>
    match skipSpace cs with
    | '{' :: rest =>
      match skipSpace rest with
      | '}' :: rest => some (.object [], some rest)
      | rest =>
        let r := prefixMembers fuel rest
        some (.object r.1, r.2)
    | '[' :: rest =>
      match skipSpace rest with
      | ']' :: rest => some (.array [], some rest)
      | rest =>
        let r := prefixItems fuel rest
        some (.array r.1, r.2)
    | rest => (readValue? (fuel + 1) rest).map fun r => (r.1, some r.2)

/-- The items of an array as far as they go, and what follows the array if it is complete. -/
def prefixItems : Nat → List Char → List Source × Option (List Char)
  | 0, _ => ([], none)
  | fuel + 1, cs =>
    match prefixValue? fuel cs with
    | none => ([], none)
    | some (item, none) => ([item], none)
    | some (item, some rest) =>
      match skipSpace rest with
      | ',' :: rest =>
        let r := prefixItems fuel rest
        (item :: r.1, r.2)
      | ']' :: rest => ([item], some rest)
      | _ => ([item], none)

/-- The members of an object as far as they go, and what follows the object if it is
    complete. -/
def prefixMembers : Nat → List Char → List (List Char × Source) × Option (List Char)
  | 0, _ => ([], none)
  | fuel + 1, cs =>
    match skipSpace cs with
    | '"' :: rest =>
      match readString? rest with
      | none => ([], none)
      | some (key, rest) =>
        match skipSpace rest with
        | ':' :: rest =>
          match prefixValue? fuel rest with
          | none => ([], none)
          | some (value, none) => ([(key, value)], none)
          | some (value, some rest) =>
            match skipSpace rest with
            | ',' :: rest =>
              let r := prefixMembers fuel rest
              ((key, value) :: r.1, r.2)
            | '}' :: rest => ([(key, value)], some rest)
            | _ => ([(key, value)], none)
        | _ => ([], none)
    | _ => ([], none)

end

/-- The tree at the start of a text as far as it goes. -/
def readPrefix? (text : String) : Option Source :=
  (prefixValue? (text.length + 1) text.toList).map Prod.fst

end Source

/-- What is expected in a place. -/
inductive Shape where
  | text
  /-- A truth value. -/
  | flag
  | list (item : Shape)
  /-- A record with some fields, of which those in `required` must be there. -/
  | record (required : List String) (fields : List (String × Shape))
  /-- Something, or `null`. -/
  | nullable (shape : Shape)

namespace Shape

/-- What is expected if it is not `null`. -/
def core : Shape → Shape
  | .nullable shape => core shape
  | shape => shape

/-- `null` is as good as anything. -/
def isNullable : Shape → Bool
  | .nullable _ => true
  | _ => false

end Shape

/-- What comes of comparing a tree with what is expected. -/
inductive Misfit where
  /-- Everything fits. -/
  | nothing
  /-- The first misfit is a string where none may stand. -/
  | stray (text : String)
  /-- The first misfit is something else. -/
  | other
deriving DecidableEq, Repr

mutual

/-- The first misfit of a tree whose arrays and objects may nest `depth` deep. -/
def misfit (shape : Shape) : (depth : Nat) → Source → Misfit
  | _, .null => if shape.isNullable then .nothing else .other
  | _, .bool _ =>
    match shape.core with
    | .flag => .nothing
    | _ => .other
  | _, .number _ => .other
  | _, .string body =>
    match text? body, shape.core with
    | none, _ => .other
    | some _, .text => .nothing
    | some t, _ => .stray t
  | 0, .array _ | 0, .object _ => .other
  | depth + 1, .array items =>
    match shape.core with
    | .list item => itemsMisfit item depth items
    | .record required fields => positionalMisfit required fields depth items
    | _ => .other
  | depth + 1, .object members =>
    match shape.core with
    | .record required fields => membersMisfit required fields [] depth members
    | _ => .other

/-- The first misfit among the items of a list. -/
def itemsMisfit (item : Shape) (depth : Nat) : List Source → Misfit
  | [] => .nothing
  | s :: ss =>
    match misfit item depth s with
    | .nothing => itemsMisfit item depth ss
    | m => m

/-- The first misfit among the fields of a record in their order. -/
def positionalMisfit (required : List String) :
    List (String × Shape) → (depth : Nat) → List Source → Misfit
  | fields, _, [] => if fields.any (required.contains ·.1) then .other else .nothing
  | [], _, _ :: _ => .other
  | (_, shape) :: fields, depth, s :: ss =>
    match misfit shape depth s with
    | .nothing => positionalMisfit required fields depth ss
    | m => m

/-- The first misfit among the members of a record, when the fields in `seen` came before. -/
def membersMisfit (required : List String) (fields : List (String × Shape)) :
    (seen : List String) → (depth : Nat) → List (List Char × Source) → Misfit
  | seen, _, [] => if required.all seen.contains then .nothing else .other
  | seen, depth, (key, s) :: ss =>
    match text? key with
    | none => .other
    | some name =>
      match List.lookup name fields with
      | none => membersMisfit required fields seen depth ss
      | some shape =>
        if seen.contains name then .other
        else
          match misfit shape depth s with
          | .nothing => membersMisfit required fields (name :: seen) depth ss
          | m => m

end

/-- The string that is the first misfit of a text. -/
def strayString? (shape : Shape) (text : String) : Option String :=
  match (Source.readPrefix? text).map (misfit shape maxDepth) with
  | some (.stray t) => some t
  | _ => none

end Json

end Replatform
