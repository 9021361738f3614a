import Replatform.Repository.Basic
import Replatform.Table
import Replatform.Tree.Build

/-!
# A Repository in Memory

A repository that holds its files itself, and in which some may be listed but not be
readable.

## Main definitions

* `Shelf`: The files.
* `Shelf.repository`: The repository.
-/

namespace Replatform

/-- The files of a repository. -/
structure Shelf where
  files : Table String := ∅
  /-- The files that cannot be read. -/
  unreadable : Table RepositoryError := ∅
  /-- Why the repository cannot be listed. -/
  listError : Option RepositoryError := none
deriving DecidableEq, Repr

namespace Shelf

/-- Add a file that can be read. -/
def withFile (s : Shelf) (path content : String) : Shelf :=
  { s with files := s.files.insert path content }

/-- Let a file not be readable. -/
def withUnreadable (s : Shelf) (path : String) (e : RepositoryError) : Shelf :=
  { s with
    files := if s.files.contains path then s.files else s.files.insert path ""
    unreadable := s.unreadable.insert path e }

/-- The tree of the files. -/
def list (s : Shelf) : Except RepositoryError Tree :=
  match s.listError with
  | some e => .error e
  | none => .ok (Tree.build s.files.keys)

/-- The content of a file. -/
def read (s : Shelf) (path : String) : Except RepositoryError String :=
  match s.unreadable.get? path with
  | some e => .error e
  | none =>
    match s.files.get? path with
    | some content => .ok content
    | none => .error (.notFound path)

/-- The repository that holds the files, at whatever address. -/
def repository : Repository Shelf where
  list _ _ s := ({ result := s.list }, s)
  read _ _ path s := ({ result := s.read path }, s)

end Shelf

end Replatform
