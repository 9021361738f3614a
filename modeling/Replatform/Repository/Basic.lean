import Replatform.Repository.Error
import Replatform.Service.Basic
import Replatform.Tree.Node

/-!
# Repositories

Where the legacy files come from. Like a service, a repository is known by its
behaviour: it lists the tree behind an address, and it gives the content of a file.

## Main definitions

* `Repository`: A behaviour.
-/

namespace Replatform

/-- A repository, where `σ` is what it remembers. -/
structure Repository (σ : Type) where
  list : Caller → (url : String) → σ → Reply RepositoryError Tree × σ
  read : Caller → (url path : String) → σ → Reply RepositoryError String × σ

end Replatform
