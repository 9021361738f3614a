import Replatform.Proofs.Migration.Scope
import Replatform.Proofs.Session.History

/-!
# Isolation by Scope

A scope says which legacy files a migration considers, and everything that is in another file should stay
there. There are three places where a migration comes to the content of a legacy file: the introduction
to the project that the analysis looks for, the files that are read for the plan, and the cache. The last
two are about files that the analysis has put in scope. The introduction is looked for in the whole
repository, whatever the scope says.

So there are two kinds of migration. If no introduction is found that the scope rejects, then no rejected
file is read, and the whole migration is the same over every repository that differs in rejected files
only. Otherwise the introduction is read, unless the signal has been aborted by then or the cache has it,
and what it says is sent to the service with the first request. `Isolates` says both of everything that
begins with an analysis and goes on with a run that has files in scope.

## Main definitions

* `World.Between`: Something was done between two worlds.
* `Repository.refill`: The same repository with another text in the rejected files.
* `Orchestrator.Strays`: An analysis finds an introduction that the scope rejects.
* `Orchestrator.Isolates`: How far rejected files are kept away from a task.
* `Orchestrator.Onward`: What can follow an analysis.
* `Orchestrator.ScopeIsolation`: How far rejected files are kept away from the phases.

## Theorems

* `Onward.upon_apply`: Repositories make a difference only when the introduction is read.
* `Onward.since_leaves`: Which files are read.
* `Onward.requests_refill`: What a rejected introduction says is sent to the service.
* `Onward.isolates`: What follows an analysis is isolated up to that.
* `Orchestrator.scopeIsolation`: So are the phases, in a row and one after another.
* `Orchestrator.not_isolated_excludingReadme`: A migration in which a rejected file is read.
-/

namespace Replatform

variable {σ : Type}

/-- Something was done between two worlds. -/
def World.Between (w w' : World σ) (d : Deed) : Prop :=
  ∃ deeds, w'.deeds = deeds ++ w.deeds ∧ d ∈ deeds

/-- The repository with a text in every file that a scope rejects. -/
def Repository.refill (scope : Scope) (text : String) (r : Repository σ) : Repository σ where
  list := r.list
  read caller url path :=
    if scope.allows path then r.read caller url path else fun state => (⟨[], .ok text⟩, state)

namespace Repository

variable {scope : Scope} {path : String}

theorem sameWithin_refill (scope : Scope) (text : String) (r : Repository σ) :
    r.SameWithin scope (r.refill scope text) :=
  ⟨rfl, fun _ _ _ hpath => if_pos hpath⟩

theorem readFile_refill (r : Repository σ) (signal : SignalId) (url : String) (w : World σ)
    (text : String) (hpath : scope.allows path = false) :
    (r.refill scope text).readFile signal url path w =
      .ok (.ok text) { w.note (.read url path) with cache := w.cache.insert url path text } := by
  have hread : ((r.refill scope text).read · url path) = fun _ state => (⟨[], .ok text⟩, state) :=
    funext fun _ => if_neg (Bool.eq_false_iff.mp hpath)
  rw [readFile, hread]
  rfl

end Repository

namespace Orchestrator

/-- An analysis comes to the point at which it looks for an introduction to the project, under a signal
    that is live, and finds one that the scope rejects. -/
structure Strays (o : Orchestrator σ) (url : String) (signal : SignalId) (w : World σ) (run : Run)
    (w₁ : World σ) (path : String) : Prop where
  surveyed : o.survey url signal w = .ok run w₁
  found : run.legacyTree.readme? = some path
  rejected : o.config.scope.allows path = false
  live : w₁.signals.isAborted signal = false

/-- A file may be read by a task that begins with an analysis: it is in scope, or it is an introduction
    that the scope rejects and that the cache does not have. -/
def MayRead (o : Orchestrator σ) (url : String) (signal : SignalId) (w : World σ)
    (url' path : String) : Prop :=
  o.config.scope.allows path = true ∨
    url' = url ∧ ∃ run w₁, o.Strays url signal w run w₁ path ∧ w₁.cache.get? url path = none

/-- How far a scope keeps the files that it rejects away from a task that begins with an analysis. -/
structure Isolates (o : Orchestrator σ) (url : String) (signal : SignalId) (w : World σ)
    (task : Orchestrator σ → Work σ MigrationError Run) : Prop where
  /-- A rejected file is read if it is an introduction that the cache does not have, and only then. -/
  reads : ∀ {url' path : String}, o.config.scope.allows path = false →
    (w.Between (leaves (task o) w) (.read url' path) ↔
      url' = url ∧ ∃ run w₁, o.Strays url signal w run w₁ path ∧ w₁.cache.get? url path = none)
  /-- Otherwise the whole task is the same whatever the rejected files are. -/
  same : (∀ run w₁ path, o.Strays url signal w run w₁ path → w₁.cache.get? url path ≠ none) →
    ∀ r', o.repository.SameWithin o.config.scope r' → task (o.upon r') w = task o w
  /-- But what such an introduction says is in the requests. -/
  differs : ∀ {run w₁ path}, o.Strays url signal w run w₁ path → w₁.cache.get? url path = none →
    ∃ text text',
      (leaves (task (o.upon (o.repository.refill o.config.scope text))) w).requests ≠
        (leaves (task (o.upon (o.repository.refill o.config.scope text'))) w).requests
  /-- So is what the cache has of one. -/
  cached : ∀ {run w₁ path content}, o.Strays url signal w run w₁ path →
    w₁.cache.get? url path = some content →
    w.Between (leaves (task o) w) (.asked (o.analysisRequest { run with readme := some content }))
  /-- The run that the task comes to has files in scope only. -/
  inScope : Ends (task o) w (fun run _ => run.InScope o.config.scope) (fun _ _ => True)

/-- What goes on after an analysis is the same over repositories that differ out of scope only, reads
    files in scope and adds none to them. -/
structure Onward (o : Orchestrator σ) (next : Orchestrator σ → Run → Work σ MigrationError Run) :
    Prop where
  same : ∀ {r'}, o.repository.SameWithin o.config.scope r' →
    ∀ {run : Run}, run.InScope o.config.scope → ∀ w, next (o.upon r') run w = next o run w
  reads : ∀ {run : Run}, run.InScope o.config.scope → ∀ w : World σ,
    w.Since (Deed.ReadsWithin o.config.scope) (leaves (next o run) w)
  inScope : ∀ {run : Run}, run.InScope o.config.scope → ∀ w,
    Ends (next o run) w (fun run' _ => run'.InScope o.config.scope) (fun _ _ => True)

end Orchestrator

theorem World.Between.of_since {allowed : Deed → Prop} {w w₁ w' : World σ} {d : Deed}
    (h : w.Since allowed w₁) (h' : (w₁.note d).Since allowed w') : w.Between w' d := by
  rcases h with ⟨deeds, hw₁, -⟩
  rcases h' with ⟨deeds', hw', -⟩
  refine ⟨deeds' ++ d :: deeds, ?_, List.mem_append_right _ List.mem_cons_self⟩
  rw [hw', World.note, hw₁, List.append_assoc, List.cons_append]

theorem World.Between.allowed {allowed : Deed → Prop} {w w' : World σ} {d : Deed}
    (hd : w.Between w' d) (h : w.Since allowed w') : allowed d := by
  rcases hd with ⟨deeds, hw', hd⟩
  rcases h with ⟨deeds', hw'', hall⟩
  exact hall d (List.append_cancel_right (hw'.symm.trans hw'') ▸ hd)

namespace Orchestrator

variable {o : Orchestrator σ} {signal : SignalId} {run : Run} {url path : String}

/-- An analysis over another repository, which what comes after the introduction has no part in. -/
theorem upon_analyze (o : Orchestrator σ) (r' : Repository σ) (url : String) (signal : SignalId) :
    (o.upon r').analyze url signal = (do
      let started ← Work.now
      let run ← (o.upon r').survey url signal
      let readme ← (o.upon r').readReadme signal run
      o.introduced signal { run with readme } started) :=
  rfl

namespace Onward

variable {next : Orchestrator σ → Run → Work σ MigrationError Run} {w w₀ w₁ : World σ}
  {r' : Repository σ}

/-- Without a run there is nothing to go on with. -/
theorem upon_apply_of_error {stop : Stop MigrationError}
    (hr' : o.repository.SameWithin o.config.scope r') (hsurvey : o.survey url signal w = .error stop w₁) :
    ((o.upon r').analyze url signal >>= next (o.upon r')) w = .error stop w₁ := by
  have hnow : (Work.now : Work σ MigrationError Nat) w = .ok w.now w := rfl
  simp only [upon_analyze, bind_assoc]
  rw [bind_of_ok hnow, upon_survey hr', bind_of_error hsurvey]

/-- Once there is a run, it is only the reading of the introduction in which repositories can differ. -/
theorem upon_apply (h : o.Onward next) (hr' : o.repository.SameWithin o.config.scope r')
    (hsurvey : o.survey url signal w = .ok run w₁) :
    ((o.upon r').analyze url signal >>= next (o.upon r')) w =
      ((o.upon r').readReadme signal run >>= fun readme =>
        o.introduced signal { run with readme } w.now >>= next o) w₁ := by
  have hnow : (Work.now : Work σ MigrationError Nat) w = .ok w.now w := rfl
  have hrun := ((o.ends_survey url signal w).of_ok hsurvey).2
  simp only [upon_analyze, bind_assoc]
  rw [bind_of_ok hnow, upon_survey hr', bind_of_ok hsurvey]
  -- The analysis itself asks the service only, and leaves a run with the same files in scope.
  refine bind_congr_at rfl fun readme w₂ _ => bind_congr_at rfl fun run' w₃ hrun' => ?_
  have hintroduced := o.ends_introduced signal { run with readme } hrun w.now w₂
  exact h.same hr' (hintroduced.of_ok hrun') w₃

/-- The same over the repository that there is. -/
theorem apply (h : o.Onward next) (hsurvey : o.survey url signal w = .ok run w₁) :
    (o.analyze url signal >>= next o) w =
      (o.readReadme signal run >>= fun readme =>
        o.introduced signal { run with readme } w.now >>= next o) w₁ :=
  h.upon_apply (.refl _ _) hsurvey

/-- What is read since an earlier world may be read if this was so up to what comes after the
    analysis. -/
theorem since_bind (h : o.Onward next) (run : Run) (hrun : run.InScope o.config.scope) {started : Nat}
    {may : String → String → Prop} (hmay : ∀ url path, o.config.scope.allows path = true → may url path)
    (hw : EndsSince (Deed.ReadsOnly may) w₀ (o.introduced signal run started) w) :
    EndsSince (Deed.ReadsOnly may) w₀ (o.introduced signal run started >>= next o) w := by
  refine (ends_bind _ _ _ _ _).mpr ?_
  refine (hw.and (o.ends_introduced signal run hrun started w)).mono (fun run' w' h' => ?_)
    (fun _ _ h' => h'.1)
  exact ends_iff_leaves.mpr (h'.1.trans ((h.reads h'.2 w').mono fun d hd => hd.mono hmay))

/-- The same if it was so up to what comes after the introduction. -/
theorem since_of_readReadme (h : o.Onward next) (hsurvey : o.survey url signal w = .ok run w₁)
    {may : String → String → Prop} (hmay : ∀ url path, o.config.scope.allows path = true → may url path)
    (hw : EndsSince (Deed.ReadsOnly may) w₀ (o.readReadme signal run) w₁) :
    w₀.Since (Deed.ReadsOnly may) (leaves (o.analyze url signal >>= next o) w) := by
  have hrun := ((o.ends_survey url signal w).of_ok hsurvey).2
  refine ends_iff_leaves.mp ?_
  rw [ends_of_eq (h.apply hsurvey), ends_bind]
  refine hw.mono (fun readme w₂ h₂ => ?_) (fun _ _ h₂ => h₂)
  exact h.since_bind { run with readme } hrun hmay
    ((o.aside_introduced signal _ w.now).after h₂)

/-- Every file that is read is in scope, or it is an introduction that the scope rejects. -/
theorem since_leaves (h : o.Onward next) (url : String) (signal : SignalId) (w : World σ) :
    w.Since (Deed.ReadsOnly (o.MayRead url signal w))
      (leaves (o.analyze url signal >>= next o) w) := by
  cases hsurvey : o.survey url signal w with
  | error stop w₁ =>
      have hend : (o.analyze url signal >>= next o) w = .error stop w₁ :=
        upon_apply_of_error (.refl _ _) hsurvey
      have hends : EndsSince (Deed.ReadsOnly (o.MayRead url signal w)) w (o.survey url signal) w :=
        o.aside_survey signal url w
      have hleaves := ends_iff_leaves.mp hends
      rw [leaves, hsurvey] at hleaves
      rw [leaves, hend]
      exact hleaves
  | ok run w₁ =>
      have hsince : w.Since (Deed.ReadsOnly (o.MayRead url signal w)) w₁ := since_survey hsurvey
      have hurl := ((o.ends_survey url signal w).of_ok hsurvey).1
      refine h.since_of_readReadme hsurvey (fun _ _ => Or.inl) ?_
      have hreadme : EndsSince (Deed.ReadsOnly (o.MayRead url signal w)) w₁
          (o.readReadme signal run) w₁ := since_readReadme o run w₁ fun path hfound hlive hmissing => ?_
      · exact hreadme.after hsince
      by_cases hallows : o.config.scope.allows path = true
      · exact Or.inl hallows
      · rw [hurl] at hmissing ⊢
        exact Or.inr ⟨rfl, run, w₁, ⟨hsurvey, hfound, Bool.eq_false_iff.mpr hallows, hlive⟩, hmissing⟩

/-- What such an introduction says is what is read. -/
theorem readReadme_refill (hs : o.Strays url signal w run w₁ path)
    (hmissing : w₁.cache.get? url path = none) (text : String) :
    ∃ w₂, (o.upon (o.repository.refill o.config.scope text)).readReadme signal run w₁ =
        .ok (some text) w₂ ∧
      w₂.signals.isAborted signal = false ∧ w₂.requests = w₁.requests := by
  rcases (o.ends_survey url signal w).of_ok hs.surveyed with ⟨rfl, -⟩
  have hsource : (o.upon (o.repository.refill o.config.scope text)).readSource run.repoUrl path signal w₁ =
      .ok (.ok text) { w₁.note (.read run.repoUrl path) with
        cache := w₁.cache.insert run.repoUrl path text } := by
    have hfile := o.repository.readFile_refill signal run.repoUrl w₁ text hs.rejected
    rw [readSource_apply, if_neg (Bool.eq_false_iff.mp hs.live), hmissing]
    simp only [upon, Work.asPhase, Work.mapError, hfile]
  refine ⟨{ w₁.note (.read run.repoUrl path) with
    cache := w₁.cache.insert run.repoUrl path text }, ?_, hs.live, ?_⟩
  · rw [readReadme, hs.found]
    exact bind_of_ok hsource
  · exact (World.seen_note World.requestOf? w₁ (.read run.repoUrl path)).trans (List.append_nil _)

/-- What an introduction says that the scope rejects is in the request for the analysis. -/
theorem requests_refill (h : o.Onward next) (hs : o.Strays url signal w run w₁ path)
    (hmissing : w₁.cache.get? url path = none) (text : String) :
    w₁.requests ++ [o.analysisRequest { run with readme := some text }] <+:
      (leaves ((o.upon (o.repository.refill o.config.scope text)).analyze url signal >>=
        next (o.upon (o.repository.refill o.config.scope text))) w).requests := by
  have hsame := o.repository.sameWithin_refill o.config.scope text
  have hrun := ((o.ends_survey url signal w).of_ok hs.surveyed).2
  rcases readReadme_refill hs hmissing text with ⟨w₂, hread, hlive, hrequests⟩
  have hend := (h.upon_apply hsame hs.surveyed).trans (bind_of_ok hread)
  have hasked : EndsSince (Deed.ReadsOnly fun _ _ => True)
      (w₂.note (.asked (o.analysisRequest { run with readme := some text })))
      (o.introduced signal { run with readme := some text } w.now) w₂ :=
    since_introduced hlive _ w.now
  have hlater := h.since_bind { run with readme := some text } hrun (fun _ _ _ => trivial) hasked
  have hprefix := (ends_iff_leaves.mp ((ends_of_eq hend _ _).mpr hlater)).seen_isPrefix World.requestOf?
  rw [World.seen_note] at hprefix
  rwa [← hrequests]

end Onward

/-- Two lists that begin alike go on alike if they are the same. -/
theorem eq_of_isPrefix {α : Type} {l m m' : List α} {a b : α} (ha : l ++ [a] <+: m)
    (hb : l ++ [b] <+: m') (h : m = m') : a = b := by
  rcases ha with ⟨later, rfl⟩
  rcases hb with ⟨later', rfl⟩
  rw [List.append_assoc, List.append_assoc] at h
  exact (List.cons.inj (List.append_cancel_left h)).1

/-- What an introduction says can be told from the request for the analysis. -/
theorem analysisRequest_ne (o : Orchestrator σ) (run : Run) :
    o.analysisRequest { run with readme := some "a" } ≠ o.analysisRequest { run with readme := some "b" } := by
  intro heq
  have hprompt : Prompt.analysis run.repoUrl run.scopedFiles (some "a") o.config.targetStack =
      Prompt.analysis run.repoUrl run.scopedFiles (some "b") o.config.targetStack :=
    Contents.text.inj (congrArg Request.contents heq)
  unfold Prompt.analysis at hprompt
  simp only [String.append_left_inj, String.append_right_inj] at hprompt
  revert hprompt
  decide

/-- A scope isolates whatever begins with an analysis and goes on like that. -/
theorem Onward.isolates {next : Orchestrator σ → Run → Work σ MigrationError Run} (h : o.Onward next)
    (url : String) (signal : SignalId) (w : World σ) :
    o.Isolates url signal w fun o => o.analyze url signal >>= next o where
  reads {url' path} hpath := by
    refine ⟨fun hread => ?_, ?_⟩
    · exact (hread.allowed (h.since_leaves url signal w)).resolve_left (Bool.eq_false_iff.mp hpath)
    · rintro ⟨rfl, run, w₁, hs, hmissing⟩
      have hbefore : w.Since (Deed.ReadsOnly fun _ _ => True) w₁ := since_survey hs.surveyed
      rcases (o.ends_survey url' signal w).of_ok hs.surveyed with ⟨rfl, -⟩
      exact .of_since hbefore (h.since_of_readReadme hs.surveyed (fun _ _ _ => trivial)
        (since_readReadme_of_missing hs.found hs.live hmissing))
  same hcached r' hr' := by
    cases hsurvey : o.survey url signal w with
    | error stop w₁ =>
        exact (upon_apply_of_error hr' hsurvey).trans (upon_apply_of_error (.refl _ _) hsurvey).symm
    | ok run w₁ =>
        refine (h.upon_apply hr' hsurvey).trans (Eq.trans ?_ (h.apply hsurvey).symm)
        refine bind_congr_at (upon_readReadme hr' w₁ fun path hfound hlive hmissing => ?_) fun _ _ _ => rfl
        have hurl := ((o.ends_survey url signal w).of_ok hsurvey).1
        by_contra hrejected
        rw [hurl] at hmissing
        exact hcached run w₁ path ⟨hsurvey, hfound, Bool.eq_false_iff.mpr hrejected, hlive⟩ hmissing
  differs {run w₁ path} hs hmissing := by
    -- Up to the analysis the requests are the same, so that the next would have to be the same as well.
    refine ⟨"a", "b", fun hsame => o.analysisRequest_ne run ?_⟩
    exact eq_of_isPrefix (h.requests_refill hs hmissing "a") (h.requests_refill hs hmissing "b") hsame
  cached {run w₁ path content} hs hcached := by
    have hbefore : w.Since (Deed.ReadsOnly fun _ _ => True) w₁ := since_survey hs.surveyed
    rcases (o.ends_survey url signal w).of_ok hs.surveyed with ⟨rfl, hrun⟩
    have hread : o.readReadme signal run w₁ = .ok (some content) w₁ := by
      have hsource : o.readSource run.repoUrl path signal w₁ = .ok (.ok content) w₁ := by
        rw [readSource_apply, if_neg (Bool.eq_false_iff.mp hs.live), hcached]
      rw [readReadme, hs.found]
      exact bind_of_ok hsource
    have hend := (h.apply hs.surveyed).trans (bind_of_ok hread)
    have hasked : EndsSince (Deed.ReadsOnly fun _ _ => True)
        (w₁.note (.asked (o.analysisRequest { run with readme := some content })))
        (o.introduced signal { run with readme := some content } w.now) w₁ :=
      since_introduced hs.live _ w.now
    have hlater := h.since_bind { run with readme := some content } hrun
      (fun _ _ _ => trivial) hasked
    exact .of_since hbefore (ends_iff_leaves.mp ((ends_of_eq hend _ _).mpr hlater))
  inScope := by
    rw [ends_bind]
    exact (o.ends_inScope url signal w).mono (fun _ w' hrun => h.inScope hrun w') (fun _ _ _ => trivial)

/-- Nothing at all can follow an analysis. -/
theorem onward_pure (o : Orchestrator σ) : o.Onward fun _ run => pure run where
  same _ _ _ _ := rfl
  reads _ w := .refl w
  inScope hrun _ := hrun

/-- The phases after the analysis read files in scope, and add none to them. -/
theorem ends_reads_onward (o : Orchestrator σ) (signal : SignalId) (hrun : run.InScope o.config.scope)
    (w : World σ) :
    Ends (Session.onward o signal) (w, run)
      (fun _ s => Run.ReadsWithin o.config.scope (w, run) s)
      (fun _ s => Run.ReadsWithin o.config.scope (w, run) s) := by
  rw [Session.onward, ends_bind]
  have hscaffold : Ends (o.scaffold signal) (w, run)
      (fun _ s => Run.ReadsWithin o.config.scope (w, run) s)
      (fun _ s => Run.ReadsWithin o.config.scope (w, run) s) :=
    o.ends_reads_scaffold signal w hrun
  refine hscaffold.mono (fun _ s hs => ?_) (fun _ _ hs => hs)
  have hnext : Leads (Run.ReadsWithin o.config.scope) (o.generate signal >>= fun _ => o.verifyIfAny signal) :=
    (o.reads_generate signal).bind fun _ => o.reads_verifyIfAny signal
  exact (hnext.ends s).mono (fun _ _ hs' => Composes.trans hs hs')
    (fun _ _ hs' => Composes.trans hs hs')

/-- The other phases can follow an analysis in a row. -/
theorem onward_phases (o : Orchestrator σ) (signal : SignalId) :
    o.Onward fun o run => do
      let result ← WorkOn.startingWith run (Session.onward o signal)
      return result.2 where
  same {r'} hr' {run} hrun w := by
    have hphases : Session.onward (o.upon r') signal (w, run) = Session.onward o signal (w, run) :=
      bind_congr_at (upon_scaffold hr' w hrun) fun _ _ _ => rfl
    refine bind_congr_at ?_ fun _ _ _ => rfl
    simp only [WorkOn.startingWith, hphases]
  reads {run} hrun w := by
    refine ends_iff_leaves.mp ?_
    rw [ends_bind, WorkOn.ends_startingWith]
    exact (o.ends_reads_onward signal hrun w).mono (fun _ _ hs => hs.since) (fun _ _ hs => hs.since)
  inScope {run} hrun w := by
    rw [ends_bind, WorkOn.ends_startingWith]
    refine (o.ends_reads_onward signal hrun w).mono (fun _ s hs => ?_) (fun _ _ _ => trivial)
    rw [ends_pure, Run.InScope, hs.scopedFiles]
    exact hrun

theorem isolates_analyze (o : Orchestrator σ) (url : String) (signal : SignalId) (w : World σ) :
    o.Isolates url signal w fun o => o.analyze url signal := by
  have h := o.onward_pure.isolates url signal w
  simp only [bind_pure] at h
  exact h

theorem isolates_runAll (o : Orchestrator σ) (url : String) (signal : SignalId) (w : World σ) :
    o.Isolates url signal w fun o => o.runAll url signal :=
  (o.onward_phases signal).isolates url signal w

/-- How far a scope keeps the files that it rejects away from the phases of a migration. -/
structure ScopeIsolation (o : Orchestrator σ) (url : String) (signal : SignalId) (w : World σ) :
    Prop where
  analyze : o.Isolates url signal w fun o => o.analyze url signal
  runAll : o.Isolates url signal w fun o => o.runAll url signal
  /-- Phases that are called on a run with files in scope read files in scope, and the run that they
      leave has files in scope. -/
  reads : ∀ run : Run, run.InScope o.config.scope → ∀ calls : List (PhaseCall × SignalId × World σ),
    List.Forall₂ (fun c w' => c.2.2.Since (Deed.ReadsWithin o.config.scope) w') calls
        (o.callEach run calls).1 ∧
      (o.callEach run calls).2.InScope o.config.scope
  /-- They do the same whatever the rejected files are. -/
  same : ∀ r', o.repository.SameWithin o.config.scope r' → ∀ run : Run, run.InScope o.config.scope →
    ∀ calls : List (PhaseCall × SignalId × World σ), (o.upon r').callEach run calls = o.callEach run calls

/-- A scope keeps the files that it rejects away from the phases of a migration, except for what an
    introduction to the project says. -/
theorem scopeIsolation (o : Orchestrator σ) (url : String) (signal : SignalId) (w : World σ) :
    o.ScopeIsolation url signal w where
  analyze := o.isolates_analyze url signal w
  runAll := o.isolates_runAll url signal w
  reads _ hrun calls := o.callEach_reads hrun calls
  same _ hr' _ hrun calls := upon_callEach hr' hrun calls

/-- An orchestrator over a repository with an introduction that the scope rejects. -/
def excludingReadme : Orchestrator (List (Reply ServiceError Response)) :=
  { Session.fromShelf with
    repository :=
      { list := fun _ _ replies => (⟨[], .ok (Tree.build ["README.md", "main.js"])⟩, replies)
        read := fun _ _ _ replies => (⟨[], .ok "1"⟩, replies) }
    config :=
      { verificationPasses := 1, generateDiagram := false, scope := { excludes := ["README.md"] } } }

/-- The introduction is read although the scope rejects it, and the requests are others if it says
    something else. -/
theorem not_isolated_excludingReadme :
    let o := excludingReadme
    let other := o.upon (o.repository.refill o.config.scope "2")
    let w : World (List (Reply ServiceError Response)) :=
      { state := Session.texts ["\x7b\x7d", "[\"a.ts\"]", "1", "\x7b\x7d"] }
    o.config.scope.allows "README.md" = false ∧ stopOf? (o.runAll "r" 0) w = none ∧
      w.Between (leaves (o.runAll "r" 0) w) (.read "r" "README.md") ∧
      o.repository.SameWithin o.config.scope other.repository ∧
      (leaves (other.runAll "r" 0) w).requests ≠ (leaves (o.runAll "r" 0) w).requests := by
  refine ⟨by decide +kernel, by decide +kernel, ?_, ?_, by decide +kernel⟩
  · exact ⟨_, (List.append_nil _).symm, by decide +kernel⟩
  · exact Repository.sameWithin_refill _ _ _

end Orchestrator

end Replatform
