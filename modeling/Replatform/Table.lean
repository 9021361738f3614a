import Replatform.Names

/-!
# Tables Keyed by Strings

A finite map from strings, kept as the list of its entries in ascending order of
their keys. Like `Names`, a table is determined by what it holds, and listing it
is listing it in order.

## Main definitions

* `Table`: Entries with strictly ascending keys.
* `Table.insert`, `Table.ofList`, `Table.get?`: Building and reading.
* `Table.modify`: Change the value of a key that is present.
-/

namespace Replatform

/-- A finite map from strings, listed by strictly ascending key. -/
structure Table (α : Type) where
  /-- The entries in the order of their keys. -/
  entries : List (String × α)
  ascending : (entries.map Prod.fst).Pairwise (· < ·)
deriving DecidableEq, Repr

namespace Table

variable {α : Type}

/-- Put an entry in its place, over the one with the same key if there is one. -/
def place (k : String) (v : α) : List (String × α) → List (String × α)
  | [] => [(k, v)]
  | e :: es =>
    if k < e.1 then (k, v) :: e :: es
    else if k = e.1 then (k, v) :: es
    else e :: place k v es

theorem map_fst_place (k : String) (v : α) (l : List (String × α)) :
    (place k v l).map Prod.fst = Names.place k (l.map Prod.fst) := by
  induction l with
  | nil => rfl
  | cons e es ih =>
    simp only [place, List.map_cons, Names.place]
    split
    · rfl
    · split
      · next h => simp [h]
      · simp [ih]

/-- The table without entries. -/
def empty : Table α := ⟨[], Names.ascending_nil⟩

instance : EmptyCollection (Table α) := ⟨empty⟩
instance : Inhabited (Table α) := ⟨empty⟩

/-- Set the value of a key. -/
def insert (t : Table α) (k : String) (v : α) : Table α :=
  ⟨place k v t.entries, by
    rw [map_fst_place]
    exact Names.place_ascending k t.ascending⟩

/-- The table of a list of entries, later ones over earlier ones. -/
def ofList (l : List (String × α)) : Table α :=
  l.foldl (fun t e => t.insert e.1 e.2) empty

/-- The value of a key. -/
def get? (t : Table α) (k : String) : Option α :=
  (t.entries.find? (·.1 == k)).map Prod.snd

/-- The key has a value. -/
def contains (t : Table α) (k : String) : Bool :=
  t.entries.any (·.1 == k)

/-- The keys in order. -/
def keys (t : Table α) : List String :=
  t.entries.map Prod.fst

/-- The number of entries. -/
def size (t : Table α) : Nat :=
  t.entries.length

/-- The table has no entry. -/
def isEmpty (t : Table α) : Bool :=
  t.entries.isEmpty

/-- Change every value, knowing its key. -/
def map {β : Type} (f : String → α → β) (t : Table α) : Table β :=
  ⟨t.entries.map fun e => (e.1, f e.1 e.2), by
    rw [List.map_map]
    exact t.ascending⟩

/-- Set the value of a key that has one already, and leave any other table as it is. -/
def replace (t : Table α) (k : String) (v : α) : Table α :=
  t.map fun key old => if key = k then v else old

/-- The table of a function on a set of keys. -/
def ofNames (s : Names) (f : String → α) : Table α :=
  ⟨s.toList.map fun k => (k, f k), by
    rw [List.map_map, show Prod.fst ∘ (fun k => (k, f k)) = id from rfl, List.map_id]
    exact s.ascending⟩

end Table

end Replatform
