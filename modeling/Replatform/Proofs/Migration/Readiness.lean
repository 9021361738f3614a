import Replatform.Proofs.Migration.Phases
import Replatform.Proofs.Migration.Settling
import Replatform.Proofs.Plan.Order
import Replatform.Proofs.Work.Calls

/-!
# What a File Is Generated From

The prompt of a file is made when the file has its turn, and what it holds of other files is
what the tree holds of them at that moment. `approach` is the generation up to that moment and
`resume` what follows, and a generation is one after the other, for whichever target one stops.

Two things come together here. The schedule puts what a target depends on before it, unless
that is on a cycle or behind one, so all of it is settled when the target has its turn. And the
generation never comes back to a file, so that what the prompt shows of a file is what is left
of it in the end, whichever way the generation ends.

## Main definitions

* `Generation.approach`, `Generation.resume`: A generation before and after the turn of a target.
* `Generation.Ready`: What a target depends on is settled and at hand.

## Theorems

* `generateAll_eq_approach_resume`: The generation passes through the turn of each target.
* `mem_finished`, `finished_sublist`: Those of some files that are finished.
* `ready_of_settled`: What a target depends on is ready when the files before it are settled.
* `prompt_from_settled`: What the prompt of a target is made from.
-/

namespace Replatform

variable {σ : Type}

namespace Schedule

variable (targets : List String) (matched : MatchTable) (g : Graph) (horizon : Nat)

theorem mem_order_plan (t : String) :
    t ∈ (plan targets matched g horizon).order ↔ t ∈ targets := by
  rcases plan_parts targets matched g horizon with ⟨taken, -, hperm, -⟩
  rw [hperm.mem_iff, Priority.mem_sort, Names.mem_ofList]

theorem nodup_order_plan : (plan targets matched g horizon).order.Nodup := by
  rcases plan_parts targets matched g horizon with ⟨taken, -, hperm, -⟩
  exact hperm.nodup_iff.mpr (Priority.sort_nodup _)

/-- What a target depends on is among those before it, unless it is at the end. -/
theorem mem_before_of_mem_dependenciesOf_plan {t d : String} {before behind : List String}
    (horder : (plan targets matched g horizon).order = before ++ t :: behind)
    (hd : d ∈ (plan targets matched g horizon).dependenciesOf t)
    (hnot : d ∉ (plan targets matched g horizon).cyclic) : d ∈ before := by
  have hlt := idxOf_lt_of_mem_dependenciesOf_plan targets matched g horizon hd hnot
  have hnodup := nodup_order_plan targets matched g horizon
  rw [horder] at hlt hnodup
  have ht : t ∉ before := fun hin =>
    (List.nodup_append.mp hnodup).2.2 t hin t List.mem_cons_self rfl
  rw [List.idxOf_append (a := t), if_neg ht, List.idxOf_cons_self] at hlt
  by_cases hin : d ∈ before
  · exact hin
  · rw [List.idxOf_append, if_neg hin] at hlt
    omega

end Schedule

namespace Generation

open Tree (find?)

/-- A file with its content, if it is finished. -/
def finished? (tree : Tree) (path : String) : Option (String × String) :=
  match find? path tree with
  | some node =>
    match node.status, node.content with
    | .done, some content => some (path, content)
    | _, _ => none
  | none => none

theorem finished?_eq_some_iff (tree : Tree) (path : String) (e : String × String) :
    finished? tree path = some e ↔ e.1 = path ∧
      ∃ node, find? path tree = some node ∧ node.status = .done ∧ node.content = some e.2 := by
  unfold finished?
  constructor
  · intro h
    cases hfind : find? path tree with
    | none =>
        rw [hfind] at h
        simp only [reduceCtorEq] at h
    | some node =>
        rw [hfind] at h
        rcases node with ⟨p, name, kind, _ | _ | _ | _, _ | content, children⟩ <;>
          simp only [reduceCtorEq, Option.some.injEq] at h
        rw [← h]
        exact ⟨rfl, _, rfl, rfl, rfl⟩
  · rintro ⟨rfl, node, hfind, hstatus, hcontent⟩
    rw [hfind]
    simp only [hstatus, hcontent]

theorem mem_finished (tree : Tree) (paths : List String) (path content : String) :
    (path, content) ∈ finished tree paths ↔ path ∈ paths ∧
      ∃ node, find? path tree = some node ∧ node.status = .done ∧ node.content = some content := by
  change (path, content) ∈ paths.filterMap (finished? tree) ↔ _
  rw [List.mem_filterMap]
  constructor
  · rintro ⟨path', hmem, h⟩
    rcases (finished?_eq_some_iff tree path' _).mp h with ⟨rfl, hnode⟩
    exact ⟨hmem, hnode⟩
  · rintro ⟨hmem, hnode⟩
    exact ⟨path, hmem, (finished?_eq_some_iff tree path _).mpr ⟨rfl, hnode⟩⟩

/-- The finished files are listed in the order in which they were asked for. -/
theorem finished_sublist (tree : Tree) (paths : List String) :
    ((finished tree paths).map Prod.fst).Sublist paths := by
  change ((paths.filterMap (finished? tree)).map Prod.fst).Sublist paths
  induction paths with
  | nil => exact List.nil_sublist []
  | cons path paths ih =>
      rw [List.filterMap_cons]
      cases h : finished? tree path with
      | none => exact ih.cons path
      | some e =>
          have hpath := ((finished?_eq_some_iff tree path e).mp h).1
          simp only [List.map_cons, hpath]
          exact ih.cons_cons path

/-- What a target depends on is settled as far as it can be, and what is finished of it is at hand, by
    priority. -/
structure Ready (schedule : Schedule) (tree : Tree) (target : String)
    (ready : List (String × String)) : Prop where
  /-- Only what is on a cycle or behind one may still be open. -/
  settled : ∀ d ∈ schedule.dependenciesOf target, d ∉ schedule.cyclic →
    ∃ node, find? d tree = some node ∧ (node.status = .done ∨ node.status = .error)
  exact : ∀ d, d ∈ ready.map Prod.fst ↔ d ∈ schedule.dependenciesOf target ∧
    ∃ node, find? d tree = some node ∧ node.status = .done
  sorted : (ready.map Prod.fst).Pairwise fun a b => Priority.before a b = true
  nodup : (ready.map Prod.fst).Nodup

/-- Files are finished in a tree, with these contents. -/
def Holds (tree : Tree) (ready : List (String × String)) : Prop :=
  ∀ d content, (d, content) ∈ ready →
    ∃ node, find? d tree = some node ∧ node.status = .done ∧ node.content = some content

theorem holds_finished (tree : Tree) (paths : List String) : Holds tree (finished tree paths) :=
  fun d content h => ((mem_finished tree paths d content).mp h).2

section Moment

variable (s : Service σ) (c : Config) (inputs : Inputs) (signal : SignalId)

/-- A generation up to the moment at which a target has its turn. -/
def approach (earlier : List String) (target : String) :
    WorkOn Tree σ MigrationError GenerationOutcome :=
  announce inputs >>= fun o => generateEach s c inputs signal earlier o >>= begin signal target

/-- A generation from the turn of a target on. -/
def resume (target : String) (later : List String) (o : GenerationOutcome) :
    WorkOn Tree σ MigrationError GenerationOutcome :=
  turn s c inputs signal target o >>= fun o => generateEach s c inputs signal later o >>= conclude

variable {earlier later : List String} {target : String}

/-- A generation passes through the turn of each target. -/
theorem generateAll_eq_approach_resume
    (horder : inputs.schedule.order = earlier ++ target :: later) :
    generateAll s c inputs signal =
      approach s c inputs signal earlier target >>= resume s c inputs signal target later := by
  rw [generateAll_eq, horder, approach, bind_assoc]
  simp only [generateEach_append, generateEach_cons, bind_assoc]
  rfl

/-- When a target has its turn, the targets before it are settled, and there is room for the rest. -/
theorem ends_approach (horder : inputs.schedule.order = earlier ++ target :: later) (w : World σ)
    (tree : Tree) :
    Ends (approach s c inputs signal earlier target) (w, tree)
      (fun o st => o.progress.current + (target :: later).length ≤ o.progress.total ∧
        ∃ results, results.map Prod.fst = earlier ∧ st.2 = settle results tree)
      (fun _ _ => True) := by
  have hlength : inputs.schedule.order.length = earlier.length + (target :: later).length := by
    rw [horder, List.length_append]
  rw [approach, ends_bind]
  refine (ends_announce inputs w tree).mono (fun o st hst => ?_) (fun _ _ _ => trivial)
  rcases st with ⟨w₁, tree₁⟩
  rcases hst with ⟨rfl, rfl, -⟩
  have hroom : (Progress.start inputs.schedule.order.length).current + earlier.length ≤
      (Progress.start inputs.schedule.order.length).total := by
    rw [Progress.start_current, Progress.start_total, hlength]
    omega
  rw [ends_bind]
  refine (ends_generateEach s c inputs signal earlier hroom w₁ tree₁).mono (fun o₁ st hst => ?_)
    (fun _ _ _ => trivial)
  rcases st with ⟨w₂, tree₂⟩
  rcases hst with ⟨hup, results, hresults⟩
  refine (ends_begin signal target o₁ w₂ tree₂).mono (fun o₂ st hst => ?_) (fun _ _ _ => trivial)
  rcases hst with ⟨rfl, htree, -⟩
  refine ⟨?_, results, hresults.paths, htree.trans hresults.settled⟩
  have htotal := hup.total
  have hcurrent := hresults.current
  simp only [Progress.begin_current, Progress.begin_total, Progress.start_current,
    Progress.start_total] at htotal hcurrent ⊢
  omega

/-- From the turn of a target on only this one and those behind it are refilled. -/
theorem ends_resume {o : GenerationOutcome}
    (hroom : o.progress.current + (target :: later).length ≤ o.progress.total) (w : World σ)
    {tree : Tree} (hrooted : Tree.Rooted "" tree)
    (hfiles : ∀ t ∈ target :: later, t ∈ tree.filePaths) :
    Ends (resume s c inputs signal target later o) (w, tree)
      (fun _ st => Tree.RefilledAt (target :: later) tree st.2)
      (fun _ st => Tree.RefilledAt (target :: later) tree st.2) := by
  rw [List.length_cons] at hroom
  have htarget : target ∈ tree.filePaths := hfiles target List.mem_cons_self
  rw [resume, ends_bind]
  refine (ends_turn s c inputs signal target (by omega) w tree).mono (fun o₁ st hst => ?_)
    (fun stop st hst => ?_)
  · rcases st with ⟨w₁, tree₁⟩
    rcases hst with ⟨hup, result, rfl, -, -, hcurrent⟩
    have hstep := Tree.refilledAt_modify (refills_fill result) hrooted htarget
    have hlater : ∀ t ∈ later, t ∈ (Tree.modify target (fill result) tree).filePaths :=
      fun t ht => hstep.filePaths_eq ▸ hfiles t (List.mem_cons_of_mem target ht)
    -- What is refilled behind the target is put on top of the target.
    have hall : ∀ tree' : Tree,
        Tree.RefilledAt later (Tree.modify target (fill result) tree) tree' →
        Tree.RefilledAt (target :: later) tree tree' := by
      intro tree' h
      refine (hstep.mono fun t ht => ?_).trans (h.mono fun t ht => List.mem_cons_of_mem target ht)
      rw [List.mem_singleton.mp ht]
      exact List.mem_cons_self
    have hroom' : o₁.progress.current + later.length ≤ o₁.progress.total := by
      rw [hup.total, hcurrent]
      omega
    rw [ends_bind]
    refine (ends_generateEach s c inputs signal later hroom' w₁ _).mono (fun o₂ st hst => ?_)
      (fun stop st hst => ?_)
    · rcases st with ⟨w₂, tree₂⟩
      rcases hst with ⟨-, results, hresults⟩
      refine (ends_conclude o₂ w₂ tree₂).mono (fun _ st hst => ?_) (fun _ _ hf => hf.elim)
      have hend : st.2 = settle results (Tree.modify target (fill result) tree) :=
        hst.2.1.trans hresults.settled
      rw [hend]
      refine hall _ (hresults.paths ▸ refilledAt_settle (hstep.rooted hrooted) fun r hr => ?_)
      exact hlater r.1 (hresults.paths ▸ List.mem_map.mpr ⟨r, hr, rfl⟩)
    · exact hall _ (hst.1.refilledAt (hstep.rooted hrooted) hlater)
  · refine (hst.1.refilledAt hrooted fun t ht => ?_).mono fun t ht => ?_
    · rw [List.mem_singleton.mp ht]
      exact htarget
    · rw [List.mem_singleton.mp ht]
      exact List.mem_cons_self

end Moment

section Planned

variable {targets : List String} {matched : MatchTable} {g : Graph} {horizon : Nat}
  {earlier later : List String} {target : String} {results : List (String × Option String)}
  {tree : Tree}

/-- When the targets before a target are settled and no other file is finished, what the target depends
    on is ready. -/
theorem ready_of_settled
    (horder : (Schedule.plan targets matched g horizon).order = earlier ++ target :: later)
    (hpaths : results.map Prod.fst = earlier) (hrooted : Tree.Rooted "" tree)
    (htargets : ∀ t ∈ targets, t ∈ tree.filePaths)
    (hfresh : ∀ file ∈ tree.files, file.status ≠ .done) :
    Ready (.plan targets matched g horizon) (settle results tree) target
        (finished (settle results tree)
          ((Schedule.plan targets matched g horizon).dependenciesOf target)) ∧
      ∀ d content, (d, content) ∈ finished (settle results tree)
        ((Schedule.plan targets matched g horizon).dependenciesOf target) → d ∈ earlier := by
  have hnodup := Schedule.nodup_order_plan targets matched g horizon
  rw [horder] at hnodup
  have hdistinct : (results.map Prod.fst).Nodup := hpaths ▸ (List.nodup_append.mp hnodup).1
  have horder' : ∀ t ∈ earlier ++ target :: later, t ∈ tree.filePaths := fun t ht =>
    htargets t ((Schedule.mem_order_plan targets matched g horizon t).mp (horder ▸ ht))
  have hfiles : ∀ r ∈ results, r.1 ∈ tree.filePaths := fun r hr =>
    horder' r.1 (List.mem_append_left _ (hpaths ▸ List.mem_map.mpr ⟨r, hr, rfl⟩))
  have hdeps : ∀ d ∈ (Schedule.plan targets matched g horizon).dependenciesOf target,
      d ∈ tree.filePaths := by
    intro d hd
    rw [Schedule.mem_dependenciesOf_plan] at hd
    exact htargets d hd.2.1
  -- A file that is finished by now was settled on the way, and has a content.
  have hdone : ∀ d ∈ (Schedule.plan targets matched g horizon).dependenciesOf target,
      ∀ node, find? d (settle results tree) = some node → node.status = .done →
        ∃ content, (d, some content) ∈ results ∧ node.content = some content :=
    fun d hd _ => exists_result_of_done hrooted hfiles hdistinct hfresh (hdeps d hd)
  have hsublist := (finished_sublist (settle results tree) _).trans
    (Schedule.dependenciesOf_plan_sublist targets matched g horizon target)
  refine ⟨⟨fun d hd hnot => ?_, fun d => ?_, ?_, ?_⟩, fun d content h => ?_⟩
  · -- What is before the target in the order has come to a result by now.
    have hbefore := Schedule.mem_before_of_mem_dependenciesOf_plan targets matched g horizon horder hd
      hnot
    rw [← hpaths, List.mem_map] at hbefore
    rcases hbefore with ⟨⟨path, result⟩, hmem, rfl⟩
    rcases exists_settled hrooted hfiles hdistinct hmem with ⟨file, hfile⟩
    refine ⟨_, hfile, ?_⟩
    cases result with
    | none => exact Or.inr rfl
    | some content => exact Or.inl rfl
  · rw [List.mem_map]
    constructor
    · rintro ⟨⟨path, content⟩, hmem, rfl⟩
      rcases (mem_finished _ _ path content).mp hmem with ⟨hd, node, hfind, hstatus, -⟩
      exact ⟨hd, node, hfind, hstatus⟩
    · rintro ⟨hd, node, hfind, hstatus⟩
      rcases hdone d hd node hfind hstatus with ⟨content, -, hcontent⟩
      exact ⟨(d, content), (mem_finished _ _ d content).mpr ⟨hd, node, hfind, hstatus, hcontent⟩, rfl⟩
  · exact (Priority.sort_pairwise _).sublist hsublist
  · exact hsublist.nodup (Priority.sort_nodup _)
  · rcases (mem_finished _ _ d content).mp h with ⟨hd, node, hfind, hstatus, -⟩
    rcases hdone d hd node hfind hstatus with ⟨content', hmem, -⟩
    exact hpaths ▸ List.mem_map.mpr ⟨_, hmem, rfl⟩

/-- What is at hand when a target has its turn is not touched any more. -/
theorem Holds.refilled {ready : List (String × String)} {paths : List String} {tree' : Tree}
    (h : Holds tree ready) (hrefilled : Tree.RefilledAt paths tree tree')
    (hrooted : Tree.Rooted "" tree)
    (hothers : ∀ d content, (d, content) ∈ ready → d ∈ tree.filePaths ∧ d ∉ paths) :
    Holds tree' ready := by
  intro d content hmem
  rcases hothers d content hmem with ⟨hin, hnot⟩
  rw [hrefilled.find?_eq hrooted hin hnot]
  exact h d content hmem

end Planned

end Generation

namespace Orchestrator

open Generation

variable (o : Orchestrator σ) (signal : SignalId)

/-- When a target of a planned generation has its turn, what it depends on is settled unless that is on
    a cycle or behind one. Its prompt is made from what is done of it, by priority, with the
    contents that are left in the end. -/
theorem prompt_from_settled (w : World σ) {r : Run} (hrooted : Tree.Rooted "" r.tree)
    (htargets : ∀ t ∈ r.targets, t ∈ r.tree.filePaths) {planned : Run}
    (hplanned : planned = o.withPlan r.clearFiles) {earlier later : List String} {target : String}
    (horder : planned.schedule.order = earlier ++ target :: later) :
    generateAll o.service o.config planned.inputs signal =
        approach o.service o.config planned.inputs signal earlier target >>=
          resume o.service o.config planned.inputs signal target later ∧
      Ends (approach o.service o.config planned.inputs signal earlier target) (w, planned.tree)
        (fun outcome st => ∃ ready,
          prompt o.config.context planned.inputs st.2 target none =
            Prompt.generation target planned.analysis
              (Context.assemble o.config.context {
                matched := (planned.matched.get? target).getD .unmatched
                sources := planned.sources
                graph := planned.graph
                generated := ready
                instructions := none }).text planned.schedule.order ∧
          ready = finished st.2 (planned.schedule.dependenciesOf target) ∧
          Ready planned.schedule st.2 target ready ∧ Holds st.2 ready ∧
          Ends (resume o.service o.config planned.inputs signal target later outcome) st
            (fun _ st' => Holds st'.2 ready) (fun _ st' => Holds st'.2 ready))
        (fun _ _ => True) := by
  refine ⟨generateAll_eq_approach_resume _ _ _ _ horder, ?_⟩
  refine (ends_approach _ _ _ _ horder w planned.tree).mono (fun outcome st hst => ?_)
    (fun _ _ _ => trivial)
  rcases hst with ⟨hroom, results, hpaths, htree⟩
  have hrooted' : Tree.Rooted "" planned.tree := by
    rw [hplanned]
    exact Run.rooted_clearFiles hrooted
  have htargets' : ∀ t ∈ r.targets, t ∈ planned.tree.filePaths := by
    intro t ht
    have hpath := htargets t ht
    rw [← Run.filePaths_clearFiles] at hpath
    rw [hplanned]
    exact hpath
  -- All files are begun anew, so nothing is done before it has its turn.
  have hfresh : ∀ file ∈ planned.tree.files, file.status ≠ .done := by
    rw [hplanned]
    exact r.not_done_clearFiles
  have hschedule : planned.schedule = .plan r.targets planned.matched r.graph
      Schedule.defaultHorizon := by
    rw [hplanned]
    rfl
  rw [hschedule] at horder
  have horder' : ∀ t ∈ earlier ++ target :: later, t ∈ planned.tree.filePaths := fun t ht =>
    htargets' t ((Schedule.mem_order_plan _ _ _ _ t).mp (horder ▸ ht))
  have hsettled : Tree.RefilledAt earlier planned.tree st.2 := by
    rw [htree, ← hpaths]
    refine refilledAt_settle hrooted' fun r' hr' => horder' r'.1 (List.mem_append_left _ ?_)
    exact hpaths ▸ List.mem_map.mpr ⟨r', hr', rfl⟩
  have hready := ready_of_settled horder hpaths hrooted' htargets' hfresh
  rw [← hschedule, ← htree] at hready
  refine ⟨_, rfl, rfl, hready.1, holds_finished _ _, ?_⟩
  -- From here on only the target and those behind it are refilled, and none of them is at hand.
  have hlater : ∀ t ∈ target :: later, t ∈ st.2.filePaths := fun t ht =>
    hsettled.filePaths_eq ▸ horder' t (List.mem_append_right _ ht)
  have hkept : ∀ tree', Tree.RefilledAt (target :: later) st.2 tree' →
      Holds tree' (finished st.2 (planned.schedule.dependenciesOf target)) := by
    intro tree' h
    refine (holds_finished _ _).refilled h (hsettled.rooted hrooted') fun d content hmem => ?_
    have hearlier := hready.2 d content hmem
    refine ⟨hsettled.filePaths_eq ▸ horder' d (List.mem_append_left _ hearlier), fun hin => ?_⟩
    have hnodup := Schedule.nodup_order_plan r.targets planned.matched r.graph
      Schedule.defaultHorizon
    rw [horder] at hnodup
    exact (List.nodup_append.mp hnodup).2.2 d hearlier d hin rfl
  rcases st with ⟨w₁, tree₁⟩
  exact (ends_resume _ _ _ _ hroom w₁ (hsettled.rooted hrooted') hlater).mono
    (fun _ st' h => hkept st'.2 h) (fun _ st' h => hkept st'.2 h)

/-- A legacy project of two files of which one imports the other, with the scaffold of a new one. -/
def importing : Run where
  sources := .ofList [("a.js", "1"), ("b.js", "import './a'")]
  graph := .build [("a.js", "1"), ("b.js", "import './a'")]
  analysis := { mappings := [{ source := "a.js", target := "a.ts" },
    { source := "b.js", target := "b.ts" }] }
  targets := ["a.ts", "b.ts"]
  tree := .build ["a.ts", "b.ts"]

/-- An orchestrator whose service has replies in store, and whose repository is empty. -/
def stocked : Orchestrator (List (Reply ServiceError Response)) where
  service := .inStore
  repository :=
    { list := fun _ _ replies => (⟨[], .error (.notFound "")⟩, replies)
      read := fun _ _ _ replies => (⟨[], .error (.notFound "")⟩, replies) }

-- The plan and the world are irreducible so that nothing is run while the statement is read.

/-- The plan for the scaffold. -/
@[irreducible] def importingPlan : Run :=
  stocked.withPlan importing.clearFiles

/-- Both files are answered. -/
@[irreducible] def answering : World (List (Reply ServiceError Response)) :=
  { state := [⟨[], .ok (.ofText "1")⟩, ⟨[], .ok (.ofText "2")⟩] }

/-- The second of two files is generated from the first one, which it imports. -/
theorem prompt_from_settled_import :
    importingPlan.schedule.order = ["a.ts"] ++ "b.ts" :: [] ∧
      Ends (approach stocked.service stocked.config importingPlan.inputs 0 ["a.ts"] "b.ts")
        (answering, importingPlan.tree)
        (fun outcome st => Ready importingPlan.schedule st.2 "b.ts" [("a.ts", "1")] ∧
          Ends (resume stocked.service stocked.config importingPlan.inputs 0 "b.ts" [] outcome) st
            (fun _ st' => Holds st'.2 [("a.ts", "1")]) (fun _ st' => Holds st'.2 [("a.ts", "1")]))
        (fun _ _ => False) := by
  have hrooted : Tree.Rooted "" importing.tree := Tree.rooted_build ["a.ts", "b.ts"]
  have htargets : ∀ t ∈ importing.targets, t ∈ importing.tree.filePaths := by decide +kernel
  have hplan : importingPlan = stocked.withPlan importing.clearFiles := by rw [importingPlan]
  have horder : importingPlan.schedule.order = ["a.ts"] ++ "b.ts" :: [] := by decide +kernel
  refine ⟨horder, ?_⟩
  have hready : Ends (approach stocked.service stocked.config importingPlan.inputs 0 ["a.ts"] "b.ts")
      (answering, importingPlan.tree)
      (fun _ st => finished st.2 (importingPlan.schedule.dependenciesOf "b.ts") = [("a.ts", "1")])
      (fun _ _ => False) := by decide +kernel
  have hends := (stocked.prompt_from_settled 0 answering hrooted htargets hplan horder).2
  refine (hends.and hready).mono (fun outcome st h => ?_) (fun stop st h => h.2)
  rcases h with ⟨⟨ready, -, hfinished, hsettled, -, hresume⟩, hcontent⟩
  rw [hcontent] at hfinished
  rw [hfinished] at hsettled hresume
  exact ⟨hsettled, hresume⟩

end Orchestrator

end Replatform
