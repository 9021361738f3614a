import Replatform.Analysis
import Replatform.Plan.Context

/-!
# Prompts

The texts that are sent to the generation service: one for each kind of request, and
the instructions that go along with them.

## Main definitions

* `Prompt.analysisSystem`, `structureSystem`, `generationSystem`, `verificationSystem`:
  The instructions.
* `Prompt.analysis`, `structureOf`, `generation`, `verification`, `diagram`: The texts.
-/

namespace Replatform

namespace Prompt

/-- The instruction for the analysis. -/
def analysisSystem : String :=
  "You are a senior software architect planning the migration of a " ++
  "legacy codebase to a modern stack. Answer with a single JSON object and nothing else."

/-- The instruction for the plan. -/
def structureSystem : String :=
  "You design file layouts for modern projects. Answer with a JSON " ++
  "array of file paths and nothing else."

/-- The instruction for a file. -/
def generationSystem : String :=
  "You are an expert engineer rewriting legacy code for a modern " ++
  "stack. Output only the complete content of the requested file, in one fenced code block."

/-- The instruction for a review. -/
def verificationSystem : String :=
  "You review generated projects for cross-file consistency. " ++
  "Answer with a single JSON object and nothing else."

/-- One line for each entry. -/
def bullets (entries : List String) : String :=
  String.join (entries.map fun e => "- " ++ e ++ "\n")

/-- How much of the introduction to a project is shown, in characters. -/
def readmeChars : Nat := 8000

/-- Ask for an analysis of the legacy repository. -/
def analysis (url : String) (paths : List String) (readme stack : Option String) : String :=
  "Analyze the legacy repository at " ++ url ++ ".\n\n" ++
  (match stack with
    | some s => "The requested target stack is: " ++ s ++ "\n\n"
    | none => "") ++
  "Files in scope:\n" ++ bullets paths ++
  (match readme with
    | some text =>
      if Text.isBlankText text then "" else "\nREADME:\n" ++ (truncate text readmeChars).1 ++ "\n"
    | none => "") ++
  "\nReturn JSON with the fields: summary, complexity (Low|Medium|High), dependencies, " ++
  "patterns, risks, sourceFramework, recommendedTarget, architecture, migrationNotes, and " ++
  "mappings: an array of \x7bsourcePath, targetPath, rationale, confidence\x7d pairing legacy files " ++
  "with the target files they become."

/-- Ask for the files of the new project, given the text of the legacy sources. -/
def structureOf (a : Analysis) (overview : String) (stack : Option String) : String :=
  "Plan the complete file structure of the migrated project.\n\nTarget stack: " ++
  stack.getD a.recommendedTarget ++ "\nLegacy framework: " ++ a.sourceFramework ++
  "\nArchitecture: " ++ a.architecture ++ "\n" ++
  (match a.migrationNotes with
    | some notes => "Migration notes: " ++ notes ++ "\n"
    | none => "") ++
  "\nLegacy sources:\n" ++ overview ++
  "\n\nReturn a JSON array of root-relative file paths (no directories) for every file " ++
  "the new project needs, including configuration and manifest files."

/-- Ask for one file, given the text of its context and the paths of all files. -/
def generation (target : String) (a : Analysis) (context : String) (paths : List String) : String :=
  "Generate the file `" ++ target ++ "` of the migrated project.\n\nTarget stack: " ++
  a.recommendedTarget ++ "\nMigration summary: " ++ a.summary ++ "\n" ++
  "\nProject files (import only from these):\n" ++ bullets paths ++
  (if context = "" then
    "\nNo legacy source corresponds to this file; write it from the project plan.\n"
  else "\nLegacy context:\n" ++ context ++ "\n") ++
  "\nOutput only the full content of `" ++ target ++ "`."

/-- The files of a project with their contents, one below the other. -/
def snapshot (files : SourceFiles) : String :=
  String.join (files.entries.map fun f => "=== FILE: " ++ f.1 ++ " ===\n" ++ f.2 ++ "\n\n")

/-- Ask for a review of the project in a pass, with at most `budget` characters of it. -/
def verification (files : SourceFiles) (issues : List String) (pass passes budget : Nat) : String :=
  "Verification pass " ++ toString pass ++ " of " ++ toString passes ++
  ". Check the project below for broken imports, " ++
  "missing exports, mismatched names and inconsistent types between files.\n" ++
  (if issues = [] then "" else "\nStatic check found:\n" ++ bullets issues) ++
  "\nProject:\n" ++ (truncate (snapshot files) budget).1 ++
  "\nReturn JSON \x7b\"passed\": bool, \"issues\": [string], \"fixes\": [\x7b\"path\": string, " ++
  "\"content\": string\x7d]\x7d where each fix is the complete corrected content of an existing file."

/-- Ask for a picture of the architecture. -/
def diagram (a : Analysis) : String :=
  "Draw a clean architecture diagram of the migrated system.\n\nTarget stack: " ++
  a.recommendedTarget ++ "\nArchitecture: " ++ a.architecture ++ "\nKey patterns: " ++
  ", ".intercalate a.patterns

end Prompt

end Replatform
