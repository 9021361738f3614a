import Replatform.Repository.Error

/-!
# Source Cache

The contents of legacy files that were read already, by repository and path. A cache
either keeps what it is given until it is told to forget it, or, having no room or no
lifetime to give, keeps nothing. Only successful reads are stored.

## Main definitions

* `Cache`: What was read.
* `Cache.get?`, `Cache.insert`: Looking up and storing.
* `Cache.forget`, `Cache.clear`: Dropping a repository, or all of them.
-/

namespace Replatform

/-- The contents that were read already. -/
structure Cache where
  /-- The cache keeps what it is given. -/
  keeps : Bool := true
  /-- The contents by repository and path, the latest first. -/
  entries : List ((String × String) × String) := []
deriving DecidableEq, Repr, Inhabited

namespace Cache

/-- An empty cache with room for `capacity` files, which live for some milliseconds or for
    good. -/
def ofCapacity (capacity : Nat) (lifetime : Option Nat) : Cache :=
  { keeps := capacity != 0 && lifetime != some 0 }

/-- The content of a file. -/
def get? (c : Cache) (repo path : String) : Option String :=
  List.lookup (repo, path) c.entries

/-- Store the content of a file. -/
def insert (c : Cache) (repo path content : String) : Cache :=
  if c.keeps then
    { c with entries := ((repo, path), content) :: c.entries.filter (·.1 ≠ (repo, path)) }
  else c

/-- Forget a repository. -/
def forget (c : Cache) (repo : String) : Cache :=
  { c with entries := c.entries.filter (·.1.1 ≠ repo) }

/-- Forget everything. -/
def clear (c : Cache) : Cache :=
  { c with entries := [] }

end Cache

end Replatform
