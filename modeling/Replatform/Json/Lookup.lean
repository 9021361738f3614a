import Replatform.Json.Decode

/-!
# Members That May Be Missing

Looking members of an object up by their keys, where a member that is `null` counts as
missing. A member that is there but is not of the expected kind is a failure, unlike one
that is missing.

## Main definitions

* `Json.Source.member?`: A member that is there.
* `Json.Source.get?`, `getD?`, `optional?`: Its value, or what stands for it.
-/

namespace Replatform

namespace Json

namespace Source

variable {α : Type}

/-- The first member with a key, if it is there and not `null`. -/
def member? (s : Source) (key : String) : Option Source :=
  match s with
  | .object members =>
    match members.find? fun m => text? m.1 == some key with
    | some (_, .null) => none
    | some (_, value) => some value
    | none => none
  | _ => none

/-- The value of a member that must be there. -/
def get? (s : Source) (key : String) (d : Decoder α) : Option α :=
  (s.member? key).bind (d maxDepth)

/-- The value of a member, or `default` if it is missing. -/
def getD? (s : Source) (key : String) (d : Decoder α) (default : α) : Option α :=
  match s.member? key with
  | none => some default
  | some value => d maxDepth value

/-- The value of a member, if it is there. -/
def optional? (s : Source) (key : String) (d : Decoder α) : Option (Option α) :=
  s.getD? key (fun depth value => (d depth value).map some) none

/-- The member is there. -/
def has (s : Source) (key : String) : Bool :=
  (s.member? key).isSome

end Source

namespace Decoder

/-- Any tree, as it is. -/
def raw : Decoder Source :=
  fun _ s => some s

/-- An array of two values. -/
def pair {α β : Type} (first : Decoder α) (second : Decoder β) : Decoder (α × β)
  | depth + 1, .array [x, y] => do return (← first depth x, ← second depth y)
  | _, _ => none

end Decoder

end Json

end Replatform
