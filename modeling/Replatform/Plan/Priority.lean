import Replatform.Path
import Replatform.Sort
import Replatform.Text.Search

/-!
# Priorities

Files are put into tiers by their paths, and ordered by tier and path. The tiers
are tried in the order test, root configuration, shared code, server code, user
interface: a test is a test wherever it stands, and only a file at the root can be
root configuration. Names are compared without regard to the case of ASCII letters.

## Main definitions

* `Tier`: The tiers in descending priority.
* `Tier.ofPath`: The tier of a path.
* `isApiPath`: The path lies below a directory with server code.
* `Priority.before`: The order of paths by tier and then by path.
* `Priority.first`: The first paths in that order.
-/

namespace Replatform

/-- How early files are looked at. -/
inductive Tier where
  | rootConfig
  | shared
  | component
  | api
  | other
  | test
deriving DecidableEq, Repr

namespace Tier

/-- The position of a tier, the highest priority first. -/
def rank : Tier → Nat
  | .rootConfig => 0
  | .shared => 1
  | .component => 2
  | .api => 3
  | .other => 4
  | .test => 5

/-- The text with ASCII letters in lower case. -/
def fold (s : String) : String :=
  s.map Char.toLower

/-- Names of configuration files. -/
def configNames : List String :=
  ["package.json", "tsconfig.json", "jsconfig.json", "cargo.toml", "pyproject.toml",
    "requirements.txt", "go.mod", "composer.json", "dockerfile", "makefile", ".gitignore",
    ".env", ".env.example", ".eslintrc", ".prettierrc"]

/-- Extensions of configuration files. -/
def configExtensions : List String := ["json", "toml", "yaml", "yml"]

/-- Directories with shared code. -/
def sharedDirs : List String :=
  ["lib", "libs", "utils", "util", "helpers", "types", "typings", "hooks", "store", "stores",
    "state", "context", "contexts", "shared", "common", "constants", "models", "config"]

/-- Names of files with shared code, without extension. -/
def sharedStems : List String := ["types", "constants", "utils", "store", "config"]

/-- Directories with server code. -/
def apiDirs : List String :=
  ["api", "apis", "routes", "controllers", "handlers", "endpoints", "server"]

/-- Directories with user interface code. -/
def uiDirs : List String :=
  ["components", "component", "ui", "pages", "views", "layouts", "screens", "widgets"]

/-- Extensions of user interface code. -/
def uiExtensions : List String := ["tsx", "jsx", "vue", "svelte"]

/-- Directories with tests. -/
def testDirs : List String := ["test", "tests", "__tests__", "spec", "e2e"]

/-- The name, in lower case, is that of a test. -/
def isTestName (name : String) : Bool :=
  Text.contains name ".test." || Text.contains name ".spec." || Text.endsWith name "_test.go"

/-- The name, in lower case, is that of a configuration file. -/
def isConfigName (name : String) : Bool :=
  name ∈ configNames || Text.startsWith name ".env" ||
    (Path.extension name).getD "" ∈ configExtensions ||
    Text.endsWith (Path.stripExtension name) ".config"

/-- The name begins with `use` and a capital letter. -/
def isHookName (name : String) : Bool :=
  match name.toList with
  | 'u' :: 's' :: 'e' :: c :: _ => c.isUpper
  | _ => false

/-- The tier of a path. -/
def ofPath (path : String) : Tier :=
  let name := fold (Path.fileName path)
  let dirs := (Path.dirSegments path).map fold
  let within (set : List String) : Bool := dirs.any (set.contains ·)
  if isTestName name || within testDirs then .test
  else if dirs.isEmpty && isConfigName name then .rootConfig
  else if within sharedDirs || sharedStems.contains (Path.fileStem name) ||
      (isHookName (Path.fileName path) && !within uiDirs) then .shared
  else if within apiDirs then .api
  else if within uiDirs || uiExtensions.contains ((Path.extension name).getD "") then .component
  else .other

end Tier

/-- The path lies below a directory with server code. -/
def isApiPath (path : String) : Bool :=
  (Path.dirSegments path).any fun d => Tier.apiDirs.contains (Tier.fold d)

namespace Priority

/-- `a` comes no later than `b` by tier and then by path. -/
def before (a b : String) : Bool :=
  let ra := (Tier.ofPath a).rank
  let rb := (Tier.ofPath b).rank
  ra < rb || (ra == rb && a ≤ b)

/-- The members of a set in the order of their priority. -/
def sort (paths : Names) : List String :=
  sortBy before paths.toList

/-- The first `limit` of some paths in the order of their priority, each once. -/
def first (paths : List String) (limit : Nat) : List String :=
  (sort (Names.ofList paths)).take limit

end Priority

end Replatform
