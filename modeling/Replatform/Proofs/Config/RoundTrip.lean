import Replatform.Config.Document
import Replatform.Proofs.Service.Delays
import Replatform.Proofs.Toml.Document

/-!
# Configurations That Are Kept

A configuration that is written and read again is what it was. Every field has a standard value that
takes its place when it is missing, so a field that went by another name, or was written as something
that cannot be read as what it is, would be lost without notice. What has to be shown of each group of
settings is that all of its fields are found and read, and that they can be written in the first
place. The document that connects the two is none of its concern (`Toml.exists_document`).

Integers are the one thing that may not fit. TOML has 64 bits for them with the sign, and a
configuration may hold more (`Config.Fits`). The two floats are within the unit interval once a
configuration has been checked, where a sign can only be that of zero.

Groups of settings are read with their fields as a variable, not as a list of entries. There are
numbers among them that are compared with bounds of 64 bits, and nothing should begin to compute them.

## Main definitions

* `Config.Fits`: The integers of a configuration have the widths of their fields, and fit TOML.
* `Config.entries`, `Config.tables`, `Config.fields`: What a document is made of.

## Theorems

* `InUnit.isWritable`: A float of the unit interval can be written.
* `ModelNames.ofToml?_toToml`, and the like: A group of settings is read as it was written.
* `Config.ofToml?_fields`: All settings are read as they were written.
* `Config.roundTrips`: A configuration is read from what is written of it.
-/

namespace Replatform

open Toml (Fields IsKey IsWritable Plain Proper Value plainValues)

/-- In the unit interval only zero can have a sign. -/
theorem InUnit.isWritable {x : Float} (h : InUnit x) : IsWritable x := by
  have hlow : ¬ x < 0.0 := fun hlt => float_lt_irrefl x (float_lt_of_lt_of_le hlt h.1)
  have hhigh : ¬ 1.0 < x := fun hlt => float_lt_irrefl 1.0 (float_lt_of_lt_of_le hlt h.2)
  exact ⟨h.isFinite, (isShare_of_compare h.isFinite hlow hhigh).positive⟩

theorem lt_half_of_lt {n : ℕ} (h : n < UInt32.size) : n < UInt64.size / 2 :=
  h.trans (by decide)

theorem lt_of_lt_half {n : ℕ} (h : n < UInt64.size / 2) : n < UInt64.size :=
  h.trans (by decide)

namespace Toml

/-- The fields of a record can be written if their names are keys and their values fit. -/
theorem proper_zip {names : List String} {values : List Plain} (hlength : names.length = values.length)
    (hkeys : ∀ name ∈ names, IsKey name) (hnodup : names.Nodup) (hfits : ∀ p ∈ values, p.Fits) :
    Proper (names.zip values) := by
  have hnames : (names.zip values).map Prod.fst = names := List.map_fst_zip hlength.le
  exact ⟨hnames.symm ▸ hkeys, fun e he => hfits e.2 (List.of_mem_zip he).2, hnames.symm ▸ hnodup⟩

section Reading

variable {f : Fields} {name : String}

/-- A field that is there does not take its standard value. -/
theorem get?_found {α : Type} {read : Value → Option α} {v : Value} {a : α}
    (hfound : List.lookup name f = some v) (hread : read v = some a) (default : α) :
    f.get? name read default = some a := by
  rw [Fields.get?, hfound]
  exact hread

theorem get?_nat {n bound : ℕ} (hfound : List.lookup name f = some (.integer n)) (h : n < bound)
    (default : ℕ) : f.get? name (Value.nat? bound) default = some n :=
  get?_found hfound (if_pos ⟨Int.natCast_nonneg n, Int.ofNat_lt.mpr h⟩) default

theorem mapM_string? (items : List String) :
    (items.map Value.string).mapM Value.string? = some items := by
  induction items with
  | nil => rfl
  | cons item items ih =>
      rw [List.map_cons, List.mapM_cons, ih]
      rfl

end Reading

end Toml

namespace ModelNames

theorem ofToml?_toToml (m : ModelNames) : ofToml? (.table (plainValues m.toToml)) = some m :=
  rfl

theorem proper_toToml (m : ModelNames) : Proper m.toToml := by
  refine Toml.proper_zip rfl (by decide) (by decide) ?_
  simp only [List.forall_mem_cons]
  exact ⟨trivial, trivial, trivial, trivial, trivial, List.forall_mem_nil _⟩

end ModelNames

/-- The budgets have 32 bits. -/
structure ThinkingBudgets.Fits (b : ThinkingBudgets) : Prop where
  analysis : b.analysis < UInt32.size
  layout : b.layout < UInt32.size
  generation : b.generation < UInt32.size
  verification : b.verification < UInt32.size

namespace ThinkingBudgets

variable {b : ThinkingBudgets}

theorem ofToml?_toToml (h : b.Fits) : ofToml? (.table (plainValues b.toToml)) = some b := by
  obtain ⟨f, hf⟩ : ∃ f, plainValues b.toToml = f := ⟨_, rfl⟩
  have hanalysis : ∀ d, Fields.get? f "analysis" (Value.nat? UInt32.size) d = some b.analysis :=
    Toml.get?_nat (by rw [← hf]; rfl) h.analysis
  have hlayout : ∀ d, Fields.get? f "structure" (Value.nat? UInt32.size) d = some b.layout :=
    Toml.get?_nat (by rw [← hf]; rfl) h.layout
  have hgeneration : ∀ d, Fields.get? f "generation" (Value.nat? UInt32.size) d = some b.generation :=
    Toml.get?_nat (by rw [← hf]; rfl) h.generation
  have hverification : ∀ d,
      Fields.get? f "verification" (Value.nat? UInt32.size) d = some b.verification :=
    Toml.get?_nat (by rw [← hf]; rfl) h.verification
  rw [hf, ofToml?]
  simp only [Fields.of?, Option.bind_eq_bind, Option.bind_some, hanalysis, hlayout, hgeneration,
    hverification]
  rfl

theorem proper_toToml (h : b.Fits) : Proper b.toToml := by
  refine Toml.proper_zip rfl (by decide) (by decide) ?_
  simp only [List.forall_mem_cons]
  exact ⟨lt_half_of_lt h.analysis, lt_half_of_lt h.layout, lt_half_of_lt h.generation,
    lt_half_of_lt h.verification, List.forall_mem_nil _⟩

end ThinkingBudgets

/-- The number of retries has 32 bits, and the delays fit TOML. -/
structure RetryPolicy.Fits (p : RetryPolicy) : Prop where
  maxRetries : p.maxRetries < UInt32.size
  baseDelayMs : p.baseDelayMs < UInt64.size / 2
  maxDelayMs : p.maxDelayMs < UInt64.size / 2

namespace RetryPolicy

variable {p : RetryPolicy}

theorem ofToml?_toToml (h : p.Fits) : ofToml? (.table (plainValues p.toToml)) = some p := by
  obtain ⟨f, hf⟩ : ∃ f, plainValues p.toToml = f := ⟨_, rfl⟩
  have hretries : ∀ d, Fields.get? f "maxRetries" (Value.nat? UInt32.size) d = some p.maxRetries :=
    Toml.get?_nat (by rw [← hf]; rfl) h.maxRetries
  have hbase : ∀ d, Fields.get? f "baseDelayMs" (Value.nat? UInt64.size) d = some p.baseDelayMs :=
    Toml.get?_nat (by rw [← hf]; rfl) (lt_of_lt_half h.baseDelayMs)
  have hmax : ∀ d, Fields.get? f "maxDelayMs" (Value.nat? UInt64.size) d = some p.maxDelayMs :=
    Toml.get?_nat (by rw [← hf]; rfl) (lt_of_lt_half h.maxDelayMs)
  have hjitter : ∀ d, Fields.get? f "jitter" Value.float? d = some p.jitter :=
    Toml.get?_found (v := .float p.jitter) (by rw [← hf]; rfl) rfl
  rw [hf, ofToml?]
  simp only [Fields.of?, Option.bind_eq_bind, Option.bind_some, hretries, hbase, hmax, hjitter]
  rfl

theorem proper_toToml (h : p.Fits) (hjitter : IsWritable p.jitter) : Proper p.toToml := by
  refine Toml.proper_zip rfl (by decide) (by decide) ?_
  simp only [List.forall_mem_cons]
  exact ⟨lt_half_of_lt h.maxRetries, h.baseDelayMs, h.maxDelayMs, hjitter, List.forall_mem_nil _⟩

end RetryPolicy

/-- The limits fit TOML. -/
structure ContextLimits.Fits (l : ContextLimits) : Prop where
  primaryFileChars : l.primaryFileChars < UInt64.size / 2
  relatedFileChars : l.relatedFileChars < UInt64.size / 2
  relatedTotalChars : l.relatedTotalChars < UInt64.size / 2
  legacyTotalChars : l.legacyTotalChars < UInt64.size / 2
  relatedFileCount : l.relatedFileCount < UInt64.size / 2
  generatedDependencyCount : l.generatedDependencyCount < UInt64.size / 2

namespace ContextLimits

variable {l : ContextLimits}

theorem ofToml?_toToml (h : l.Fits) : ofToml? (.table (plainValues l.toToml)) = some l := by
  obtain ⟨f, hf⟩ : ∃ f, plainValues l.toToml = f := ⟨_, rfl⟩
  have hprimary : ∀ d,
      Fields.get? f "primaryFileChars" (Value.nat? UInt64.size) d = some l.primaryFileChars :=
    Toml.get?_nat (by rw [← hf]; rfl) (lt_of_lt_half h.primaryFileChars)
  have hrelated : ∀ d,
      Fields.get? f "relatedFileChars" (Value.nat? UInt64.size) d = some l.relatedFileChars :=
    Toml.get?_nat (by rw [← hf]; rfl) (lt_of_lt_half h.relatedFileChars)
  have hrelatedTotal : ∀ d,
      Fields.get? f "relatedTotalChars" (Value.nat? UInt64.size) d = some l.relatedTotalChars :=
    Toml.get?_nat (by rw [← hf]; rfl) (lt_of_lt_half h.relatedTotalChars)
  have hlegacy : ∀ d,
      Fields.get? f "legacyTotalChars" (Value.nat? UInt64.size) d = some l.legacyTotalChars :=
    Toml.get?_nat (by rw [← hf]; rfl) (lt_of_lt_half h.legacyTotalChars)
  have hcount : ∀ d,
      Fields.get? f "relatedFileCount" (Value.nat? UInt64.size) d = some l.relatedFileCount :=
    Toml.get?_nat (by rw [← hf]; rfl) (lt_of_lt_half h.relatedFileCount)
  have hdependencies : ∀ d, Fields.get? f "generatedDependencyCount" (Value.nat? UInt64.size) d =
      some l.generatedDependencyCount :=
    Toml.get?_nat (by rw [← hf]; rfl) (lt_of_lt_half h.generatedDependencyCount)
  rw [hf, ofToml?]
  simp only [Fields.of?, Option.bind_eq_bind, Option.bind_some, hprimary, hrelated, hrelatedTotal,
    hlegacy, hcount, hdependencies]
  rfl

theorem proper_toToml (h : l.Fits) : Proper l.toToml := by
  refine Toml.proper_zip rfl (by decide) (by decide) ?_
  simp only [List.forall_mem_cons]
  exact ⟨h.primaryFileChars, h.relatedFileChars, h.relatedTotalChars, h.legacyTotalChars,
    h.relatedFileCount, h.generatedDependencyCount, List.forall_mem_nil _⟩

end ContextLimits

namespace Scope

theorem ofToml?_toToml (s : Scope) : ofToml? (.table (plainValues s.toToml)) = some s := by
  obtain ⟨f, hf⟩ : ∃ f, plainValues s.toToml = f := ⟨_, rfl⟩
  have hincludes : ∀ d, Fields.get? f "include" Value.strings? d = some s.includes :=
    Toml.get?_found (v := .array (s.includes.map .string)) (by rw [← hf]; rfl)
      (Toml.mapM_string? s.includes)
  have hexcludes : ∀ d, Fields.get? f "exclude" Value.strings? d = some s.excludes :=
    Toml.get?_found (v := .array (s.excludes.map .string)) (by rw [← hf]; rfl)
      (Toml.mapM_string? s.excludes)
  rw [hf, ofToml?]
  simp only [Fields.of?, Option.bind_eq_bind, Option.bind_some, hincludes, hexcludes]
  rfl

theorem proper_toToml (s : Scope) : Proper s.toToml := by
  refine Toml.proper_zip rfl (by decide) (by decide) ?_
  simp only [List.forall_mem_cons]
  exact ⟨trivial, trivial, List.forall_mem_nil _⟩

end Scope

namespace Config

/-- All integers have the widths of their fields, and those of 64 bits fit TOML. -/
structure Fits (c : Config) : Prop where
  thinking : c.thinking.Fits
  retry : c.retry.Fits
  context : c.context.Fits
  scaffoldFileLimit : c.scaffoldFileLimit < UInt64.size / 2
  verificationPasses : c.verificationPasses < UInt32.size

/-- The entries of a document that are in none of its tables. -/
def entries (c : Config) : List (String × Plain) :=
  [("scaffoldFileLimit", .natural c.scaffoldFileLimit),
    ("verificationPasses", .natural c.verificationPasses),
    ("fallbackThreshold", .float c.fallbackThreshold), ("generateDiagram", .bool c.generateDiagram)] ++
    (c.targetStack.map fun stack => ("targetStack", Plain.string stack)).toList

/-- The tables of a document. -/
def tables (c : Config) : List (String × List (String × Plain)) :=
  [("models", c.models.toToml), ("thinking", c.thinking.toToml), ("retry", c.retry.toToml),
    ("context", c.context.toToml), ("scope", c.scope.toToml)]

/-- The fields of a document. -/
def fields (c : Config) : Fields :=
  plainValues c.entries ++ c.tables.map fun t => (t.1, .table (plainValues t.2))

/-- The keys of the entries. The last one may be missing. -/
def entryNames : List String :=
  ["scaffoldFileLimit", "verificationPasses", "fallbackThreshold", "generateDiagram", "targetStack"]

/-- The keys of the tables. -/
def tableNames : List String :=
  ["models", "thinking", "retry", "context", "scope"]

variable {c : Config}

theorem isUnit_iff {x : Float} : isUnit x = true ↔ InUnit x := by
  rw [isUnit, Bool.and_eq_true, decide_eq_true_iff, decide_eq_true_iff]
  rfl

theorem inUnit_of_validate (h : c.validate = .ok ()) :
    InUnit c.fallbackThreshold ∧ InUnit c.retry.jitter := by
  -- The names of the models are looked at between the two floats.
  cases hmodel : c.blankModel? with
  | some field =>
      rw [validate, hmodel] at h
      split_ifs at h
  | none =>
      rw [validate, hmodel] at h
      simp only [] at h
      split_ifs at h with hpasses hthreshold hjitter
      rw [Bool.not_eq_true', Bool.not_eq_false] at hthreshold hjitter
      exact ⟨isUnit_iff.mp hthreshold, isUnit_iff.mp hjitter⟩

section Writing

theorem entries_prefix (c : Config) : c.entries.map Prod.fst <+: entryNames := by
  rw [entries]
  cases c.targetStack with
  | none => exact ⟨["targetStack"], rfl⟩
  | some stack => exact ⟨[], rfl⟩

theorem proper_entries (h : c.Fits) (hthreshold : IsWritable c.fallbackThreshold) :
    Proper c.entries := by
  have hkeys : ∀ key ∈ entryNames, IsKey key := by decide
  have hnodup : entryNames.Nodup := by decide
  have hstack : ∀ e ∈ (c.targetStack.map fun stack => ("targetStack", Plain.string stack)).toList,
      e.2.Fits := by
    cases c.targetStack with
    | none => exact List.forall_mem_nil _
    | some stack => exact List.forall_mem_singleton.mpr trivial
  refine ⟨fun key hkey => hkeys key (c.entries_prefix.subset hkey), ?_,
    c.entries_prefix.sublist.nodup hnodup⟩
  simp only [entries, List.forall_mem_append, List.forall_mem_cons]
  exact ⟨⟨h.scaffoldFileLimit, lt_half_of_lt h.verificationPasses, hthreshold, trivial,
    List.forall_mem_nil _⟩, hstack⟩

theorem proper_tables (h : c.Fits) (hjitter : IsWritable c.retry.jitter) :
    ∀ t ∈ c.tables, Proper t.2 := by
  simp only [tables, List.forall_mem_cons]
  exact ⟨c.models.proper_toToml, ThinkingBudgets.proper_toToml h.thinking,
    RetryPolicy.proper_toToml h.retry hjitter, ContextLimits.proper_toToml h.context,
    c.scope.proper_toToml, List.forall_mem_nil _⟩

/-- No entry has the name of a table. -/
theorem nodup_keys (c : Config) : (c.entries.map Prod.fst ++ c.tables.map Prod.fst).Nodup := by
  have hnodup : (entryNames ++ tableNames).Nodup := by decide
  exact (c.entries_prefix.sublist.append_right tableNames).nodup hnodup

end Writing

section Reading

/-- All fields of a document are found, but that of a target stack is only there if there is one. -/
theorem lookup_fields (c : Config) :
    List.lookup "models" c.fields = some (.table (plainValues c.models.toToml)) ∧
    List.lookup "thinking" c.fields = some (.table (plainValues c.thinking.toToml)) ∧
    List.lookup "retry" c.fields = some (.table (plainValues c.retry.toToml)) ∧
    List.lookup "context" c.fields = some (.table (plainValues c.context.toToml)) ∧
    List.lookup "scope" c.fields = some (.table (plainValues c.scope.toToml)) ∧
    List.lookup "scaffoldFileLimit" c.fields = some (.integer c.scaffoldFileLimit) ∧
    List.lookup "verificationPasses" c.fields = some (.integer c.verificationPasses) ∧
    List.lookup "fallbackThreshold" c.fields = some (.float c.fallbackThreshold) ∧
    List.lookup "generateDiagram" c.fields = some (.bool c.generateDiagram) ∧
    List.lookup "targetStack" c.fields = c.targetStack.map .string := by
  rw [fields, entries]
  cases c.targetStack with
  | none => exact ⟨rfl, rfl, rfl, rfl, rfl, rfl, rfl, rfl, rfl, rfl⟩
  | some stack => exact ⟨rfl, rfl, rfl, rfl, rfl, rfl, rfl, rfl, rfl, rfl⟩

/-- All settings are read as they were written. -/
theorem ofToml?_fields (h : c.Fits) : ofToml? (.table c.fields) = some c := by
  obtain ⟨f, hf⟩ : ∃ f, c.fields = f := ⟨_, rfl⟩
  rcases hf ▸ c.lookup_fields with
    ⟨hmodels, hthinking, hretry, hcontext, hscope, hlimit, hpasses, hthreshold, hdiagram, hstack⟩
  have hthreshold : ∀ d, Fields.get? f "fallbackThreshold" Value.float? d = some c.fallbackThreshold :=
    Toml.get?_found hthreshold rfl
  have hdiagram : ∀ d, Fields.get? f "generateDiagram" Value.bool? d = some c.generateDiagram :=
    Toml.get?_found hdiagram rfl
  -- If there is no stack, the standard value is none either.
  have hstack : Fields.get? f "targetStack" (fun v => v.string?.map some) none = some c.targetStack := by
    rw [Fields.get?, hstack]
    cases c.targetStack <;> rfl
  rw [hf, ofToml?]
  simp only [Fields.of?, Option.bind_eq_bind, Option.bind_some,
    Toml.get?_found hmodels c.models.ofToml?_toToml,
    Toml.get?_found hthinking (ThinkingBudgets.ofToml?_toToml h.thinking),
    Toml.get?_found hretry (RetryPolicy.ofToml?_toToml h.retry),
    Toml.get?_found hcontext (ContextLimits.ofToml?_toToml h.context),
    Toml.get?_found hscope c.scope.ofToml?_toToml,
    Toml.get?_nat hlimit (lt_of_lt_half h.scaffoldFileLimit),
    Toml.get?_nat hpasses h.verificationPasses, hthreshold, hdiagram, hstack]
  rfl

end Reading

/-- A configuration that passes the check can be written if its integers fit, and is read from what is
    written of it. -/
theorem roundTrips (hvalid : c.validate = .ok ()) (hfits : c.Fits) :
    ∃ text, c.write? = some text ∧ read text = .ok c := by
  rcases inUnit_of_validate hvalid with ⟨hthreshold, hjitter⟩
  have hnames : ∀ name ∈ c.tables.map Prod.fst, IsKey name :=
    show ∀ name ∈ tableNames, IsKey name by decide
  rcases Toml.exists_document (proper_entries hfits hthreshold.isWritable) hnames
    (proper_tables hfits hjitter.isWritable) c.nodup_keys with ⟨text, hwrite, hread⟩
  have hback : (Toml.read? text).bind ofToml? = some c := by
    rw [hread]
    exact ofToml?_fields hfits
  refine ⟨text, hwrite, ?_⟩
  rw [read, hback]
  simp only [hvalid]
  rfl

/-- Names, patterns and a stack that are written in different ways, and floats that are. -/
def motley : Config where
  models :=
    { analysis := "a \"quoted\" name", layout := "C:\\models\\layout", verification := "two\nlines" }
  retry := { maxDelayMs := 9223372036854775807, jitter := -0.0 }
  fallbackThreshold := 1e-7
  scope := ⟨["it's \"all\"", "src/**"], ["\u0001\u007f"]⟩
  targetStack := some "'''\t\"\"\"\r\n\u00e9"

theorem roundTrips_motley :
    motley.validate = .ok () ∧ motley.Fits ∧
      ∃ text, motley.write? = some text ∧ read text = .ok motley := by
  have hvalid : motley.validate = .ok () := by decide +kernel
  have hfits : motley.Fits := by
    constructor
    · constructor <;> decide
    · constructor <;> decide
    · constructor <;> decide
    · decide
    · decide
  exact ⟨hvalid, hfits, roundTrips hvalid hfits⟩

end Config

end Replatform
