/-!
# Progress and Verdicts

The counter that is shown while files are generated, and the outcome of checking
the generated project.

## Main definitions

* `Progress`: How many files of how many, and which one is in work.
* `Verdict`: Whether the project passed, and what was found.
-/

namespace Replatform

/-- How far a generation has come. -/
structure Progress where
  current : Nat
  total : Nat
  currentFile : String
deriving DecidableEq, Repr, Inhabited

namespace Progress

/-- Nothing done yet. -/
def start (total : Nat) : Progress :=
  { current := 0, total, currentFile := "" }

/-- Begin a file. -/
def begin (p : Progress) (file : String) : Progress :=
  { p with currentFile := file }

/-- Count the file in work, up to the total. -/
def complete (p : Progress) : Progress :=
  { p with current := min (p.current + 1) p.total }

end Progress

/-- The outcome of a verification. -/
structure Verdict where
  passed : Bool := false
  /-- Every issue seen in any pass, each once. -/
  issues : List String := []
  /-- The issues that stand against a pass. -/
  unresolved : List String := []
  /-- How many times a pass replaced a file. -/
  fixesApplied : Nat := 0
  passes : Nat := 0
deriving DecidableEq, Repr, Inhabited

end Replatform
