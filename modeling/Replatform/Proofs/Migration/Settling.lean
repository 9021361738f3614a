import Replatform.Migration.Generation
import Replatform.Progress
import Replatform.Proofs.Tree.Refill
import Replatform.Proofs.Work.Deeds

/-!
# What a Generation Comes To

A file is generated by several changes of its node, but what is left of them when the file is
settled is one change: it is done and has a content, or it failed and has the content that it
had. `fill` is that change, and `settle` is what is left when several files are settled one
after another. Everything that can be said of a generation is said of a list of results.

The progress that is told meanwhile is a list of counts, and `Ascends` says that it leads from one
count up to another without ever going back. Such lists can be put together, so that the count of a
generation is that of its parts. The count itself stops at the total, as it has to if files were
counted that are not in the total, so that whoever counts has to show that there is room for one more.

`ends_generateFile` is what one file comes to and `ends_generateEach` what a list of files comes
to, by induction on the list. A generation that comes to nothing has settled the files before
some target, and `Broken` says in which state it has left that one: as it was or pending, if it
was cancelled, and in progress, if it was dropped.

A generation is a sequence of parts: what is told at the beginning, the turns of the files, each
of which is announced, and what is told at the end. `generateAll_eq` and `generateEach_append`
take it apart, so that one can stop and look around between any two of them.

## Main definitions

* `Progress.Ascends`: Counts that lead up from one to another.
* `World.Advances`: The counts that are told lead up from one to another.
* `World.Climbs`: What is told of the progress never goes down.
* `Generation.fill`, `Generation.settle`: What is left of results in the tree.
* `Generation.Settles`, `Generation.Broken`: What the generation of some files comes to.
* `Generation.announce`, `begin`, `turn`, `conclude`: The parts of a generation.

## Theorems

* `Ascends.append`, `Advances.trans`: Ways up, one after another.
* `advances_tell`: To tell a higher count is a way up.
* `Advances.climbs`: What is told on a way up from nothing.
* `generateAll_eq`, `generateEach_cons`, `generateEach_append`: What a generation is made of.
* `ends_generateFile`, `ends_regenerate`: One file is settled, or its generation is cancelled or
  dropped.
* `ends_generateEach`, `ends_generateAll`: Files are settled one after another.
* `refilledAt_settle`, `find?_settle`: What is in the tree when files are settled.
* `exists_settled`, `exists_result_of_done`: A file shows its result, and shows that it has one.
-/

namespace Replatform

variable {σ : Type}

/-- The progress that a deed tells. -/
def Deed.progress? : Deed → Option Progress
  | .told (.progress p) => some p
  | _ => none

/-- Progress is told that goes up from `p` to `q`, with the same total. -/
structure Progress.Ascends (p q : Progress) (told : List Progress) : Prop where
  total : q.total = p.total
  le : p.current ≤ q.current
  between : ∀ r ∈ told, r.total = p.total ∧ p.current ≤ r.current ∧ r.current ≤ q.current
  sorted : told.Pairwise fun a b => a.current ≤ b.current

namespace Progress

@[simp] theorem start_current (total : Nat) : (start total).current = 0 := rfl

@[simp] theorem start_total (total : Nat) : (start total).total = total := rfl

@[simp] theorem begin_current (p : Progress) (file : String) : (p.begin file).current = p.current :=
  rfl

@[simp] theorem begin_total (p : Progress) (file : String) : (p.begin file).total = p.total := rfl

@[simp] theorem complete_current (p : Progress) :
    p.complete.current = min (p.current + 1) p.total :=
  rfl

@[simp] theorem complete_total (p : Progress) : p.complete.total = p.total := rfl

variable {p q r : Progress}

theorem ascends_nil (p : Progress) : p.Ascends p [] :=
  ⟨rfl, Nat.le_refl _, fun _ h => absurd h List.not_mem_nil, List.Pairwise.nil⟩

theorem ascends_singleton (htotal : q.total = p.total) (hle : p.current ≤ q.current) :
    p.Ascends q [q] := by
  refine ⟨htotal, hle, fun r hr => ?_, List.pairwise_singleton _ q⟩
  rw [List.mem_singleton.mp hr]
  exact ⟨htotal, hle, Nat.le_refl _⟩

theorem Ascends.append {told told' : List Progress} (h : p.Ascends q told)
    (h' : q.Ascends r told') : p.Ascends r (told ++ told') := by
  refine ⟨h'.total.trans h.total, Nat.le_trans h.le h'.le, fun a ha => ?_, ?_⟩
  · rcases List.mem_append.mp ha with ha | ha
    · rcases h.between a ha with ⟨htotal, hlow, hhigh⟩
      exact ⟨htotal, hlow, Nat.le_trans hhigh h'.le⟩
    · rcases h'.between a ha with ⟨htotal, hlow, hhigh⟩
      exact ⟨htotal.trans h.total, Nat.le_trans h.le hlow, hhigh⟩
  · -- Whatever is told on the way up to `q` is below what is told from there on.
    refine List.pairwise_append.mpr ⟨h.sorted, h'.sorted, fun a ha b hb => ?_⟩
    exact Nat.le_trans (h.between a ha).2.2 (h'.between b hb).2.1

end Progress

namespace World

/-- The progress told so far, in order. -/
def progresses (w : World σ) : List Progress :=
  w.seen Deed.progress?

theorem progresses_tell (w : World σ) (e : Event) :
    (w.tell e).progresses = w.progresses ++ (Deed.progress? (.told e)).toList :=
  seen_note Deed.progress? w (.told e)

/-- To tell something else leaves the progress told so far. -/
theorem progresses_tell_of_none {e : Event} (h : Deed.progress? (.told e) = none) (w : World σ) :
    (w.tell e).progresses = w.progresses := by
  rw [progresses_tell, h, Option.toList_none, List.append_nil]

/-- What is told between two worlds leads from the progress `p` up to the progress `q`. -/
def Advances (w w' : World σ) (p q : Progress) : Prop :=
  ∃ told, w'.progresses = w.progresses ++ told ∧ p.Ascends q told

variable {w w' w'' : World σ} {p q r : Progress}

theorem Advances.of_eq (h : w'.progresses = w.progresses) (p : Progress) : w.Advances w' p p :=
  ⟨[], by rw [h, List.append_nil], Progress.ascends_nil p⟩

theorem Advances.trans (h : w.Advances w' p q) (h' : w'.Advances w'' q r) :
    w.Advances w'' p r := by
  rcases h with ⟨told, hw, hup⟩
  rcases h' with ⟨told', hw', hup'⟩
  exact ⟨told ++ told', by rw [hw', hw, List.append_assoc], hup.append hup'⟩

theorem Advances.total (h : w.Advances w' p q) : q.total = p.total := by
  rcases h with ⟨told, -, hup⟩
  exact hup.total

theorem advances_tell (w : World σ) (htotal : q.total = p.total) (hle : p.current ≤ q.current) :
    w.Advances (w.tell (.progress q)) p q :=
  ⟨[q], progresses_tell w (.progress q), Progress.ascends_singleton htotal hle⟩

/-- What is told of the progress between two worlds never goes down, and never beyond the total. -/
def Climbs (total : Nat) (w w' : World σ) : Prop :=
  ∃ told, w'.progresses = w.progresses ++ told ∧
    told.Pairwise (fun p q => p.current ≤ q.current) ∧
    ∀ p ∈ told, p.current ≤ p.total ∧ p.total = total

theorem Advances.climbs {total : Nat} {w w' : World σ} {q : Progress}
    (h : w.Advances w' (.start total) q) (hq : q.current ≤ q.total) : w.Climbs total w' := by
  rcases h with ⟨told, hw, hup⟩
  refine ⟨told, hw, hup.sorted, fun p hp => ?_⟩
  rcases hup.between p hp with ⟨htotal, -, hhigh⟩
  -- What was told on the way is below the end of it, and that is within the total.
  have hend := hup.total
  rw [Progress.start_total] at htotal hend
  exact ⟨by omega, htotal⟩

end World

variable {ε : Type}

theorem WorkOn.ends_check {τ : Type} (signal : SignalId) (w : World σ) (t : τ)
    (good : Unit → World σ × τ → Prop) (bad : Stop MigrationError → World σ × τ → Prop) :
    Ends (WorkOn.check signal) (w, t) good bad ↔
      if w.signals.isAborted signal = true then bad (.failed .cancelled) (w, t) else good () (w, t) := by
  rw [WorkOn.check, WorkOn.call, WorkOn.ends_ofWork, Work.asPhase, Work.ends_mapError, Work.check,
    ends_bind, ends_get, Work.ends_ofExcept, Signals.check]
  by_cases h : w.signals.isAborted signal = true
  · rw [if_pos h, if_pos h]
    exact Iff.rfl
  · rw [if_neg h, if_neg h]

namespace Generation

/-- What is left in the node of a file when it is generated, or when that failed. -/
def fill : Option String → FileNode → FileNode
  | some content, node => { node with status := .done, content := some content }
  | none, node => { node with status := .error }

theorem refills_fill (result : Option String) : Refills (fill result) := by
  cases result with
  | none => exact fun _ => ⟨rfl, rfl, rfl, rfl⟩
  | some content => exact fun _ => ⟨rfl, rfl, rfl, rfl⟩

theorem modify_fill_some (path content : String) (tree : Tree) :
    Tree.modify path (fill (some content)) tree =
      Tree.setStatus path .done (Tree.setContent path content tree) := by
  rw [Tree.setStatus, Tree.setContent, Tree.modify_modify _ (refills_content (some content))]
  rfl

/-- The tree after files have come to results, one after another. -/
def settle (results : List (String × Option String)) (tree : Tree) : Tree :=
  results.foldl (fun tree r => Tree.modify r.1 (fill r.2) tree) tree

/-- The files that are generated. -/
def generatedOf (results : List (String × Option String)) : List String :=
  (results.filter (·.2.isSome)).map Prod.fst

/-- The files that failed. -/
def failedOf (results : List (String × Option String)) : List String :=
  (results.filter (·.2.isNone)).map Prod.fst

/-- The targets came to results, on top of what there was before. -/
structure Settles (targets : List String) (results : List (String × Option String))
    (o o' : GenerationOutcome) (tree tree' : Tree) : Prop where
  paths : results.map Prod.fst = targets
  settled : tree' = settle results tree
  generated : o'.generated = o.generated ++ generatedOf results
  failed : o'.failed = o.failed ++ failedOf results
  current : o'.progress.current = o.progress.current + targets.length

/-- The targets came to nothing at one of them, when those before it had come to results. -/
def Broken (targets : List String) (stop : Stop MigrationError) (tree tree' : Tree) : Prop :=
  ∃ results target later, targets = results.map Prod.fst ++ target :: later ∧
    (stop = .failed .cancelled ∧ (tree' = settle results tree ∨
        tree' = Tree.setStatus target .pending (settle results tree)) ∨
      stop = .dropped ∧ tree' = Tree.setStatus target .inProgress (settle results tree))

section Parts

/-- What is told before the first file, and what there is to begin with. -/
def announce (inputs : Inputs) : WorkOn Tree σ MigrationError GenerationOutcome := do
  WorkOn.log .generate .info ("Generating " ++ toString inputs.schedule.order.length ++ " files")
  if inputs.schedule.cyclic ≠ [] then
    WorkOn.log .generate .warning (toString inputs.schedule.cyclic.length ++
      " files are in dependency cycles and were appended in priority order")
  WorkOn.tell (.progress (.start inputs.schedule.order.length))
  return { progress := .start inputs.schedule.order.length }

/-- What is told before a file, unless the migration is cancelled. -/
def begin (signal : SignalId) (target : String) (o : GenerationOutcome) :
    WorkOn Tree σ MigrationError GenerationOutcome := do
  WorkOn.check signal
  WorkOn.tell (.progress (o.progress.begin target))
  return { o with progress := o.progress.begin target }

/-- A file is generated from what the tree holds when it has its turn. -/
def turn (s : Service σ) (c : Config) (inputs : Inputs) (signal : SignalId) (target : String)
    (o : GenerationOutcome) : WorkOn Tree σ MigrationError GenerationOutcome := do
  let prompt := prompt c.context inputs (← WorkOn.held) target none
  let o := record target (← generateFile s c .generate signal target prompt) o
  WorkOn.tell (.progress o.progress.complete)
  return { o with progress := o.progress.complete }

/-- What is told after the last file. -/
def conclude (o : GenerationOutcome) : WorkOn Tree σ MigrationError GenerationOutcome := do
  if o.isComplete then
    WorkOn.log .generate .success ("Generated " ++ toString o.generated.length ++ " files")
  else
    WorkOn.log .generate .warning ("Generated " ++ toString o.generated.length ++ " files, " ++
      toString o.failed.length ++ " failed")
  return o

variable (s : Service σ) (c : Config) (inputs : Inputs) (signal : SignalId)

theorem generateEach_cons (target : String) (targets : List String) (o : GenerationOutcome) :
    generateEach s c inputs signal (target :: targets) o =
      begin signal target o >>= fun o => turn s c inputs signal target o >>= fun o =>
        generateEach s c inputs signal targets o := by
  simp only [generateEach, begin, turn, bind_assoc, pure_bind]

theorem generateEach_append (earlier later : List String) (o : GenerationOutcome) :
    generateEach s c inputs signal (earlier ++ later) o =
      generateEach s c inputs signal earlier o >>= generateEach s c inputs signal later := by
  induction earlier generalizing o with
  | nil => rw [List.nil_append, generateEach, pure_bind]
  | cons target earlier ih =>
      rw [List.cons_append, generateEach_cons, generateEach_cons, bind_assoc]
      simp only [bind_assoc, ih]

theorem generateAll_eq :
    generateAll s c inputs signal = announce inputs >>= fun o =>
      generateEach s c inputs signal inputs.schedule.order o >>= conclude := by
  unfold generateAll announce conclude
  by_cases hcyclic : inputs.schedule.cyclic ≠ []
  · simp only [if_pos hcyclic, bind_assoc, pure_bind]
  · simp only [if_neg hcyclic, bind_assoc, pure_bind]

end Parts

section Run

variable (s : Service σ) (c : Config) (inputs : Inputs) (signal : SignalId)

theorem ends_setStatus (target : String) (status : FileStatus) (w : World σ) (tree : Tree)
    (good : Unit → World σ × Tree → Prop) (bad : Stop ε → World σ × Tree → Prop) :
    Ends (setStatus target status) (w, tree) good bad ↔
      good () (w.tell (.fileStatus target status), Tree.setStatus target status tree) :=
  Iff.rfl

/-- A file is finished by telling its content and its status, with entries of the log around them. -/
theorem ends_finish_of {phase : Phase} {target content : String} {w : World σ} {tree : Tree}
    {good : Unit → World σ × Tree → Prop} {bad : Stop ε → World σ × Tree → Prop}
    (h : ∀ w₁ entry, (w₁ = w ∨ ∃ warning, w₁ = w.tell (.log warning)) →
      good () (((w₁.tell (.fileContent target content false)).tell (.fileStatus target .done)).tell
        (.log entry), Tree.setStatus target .done (Tree.setContent target content tree))) :
    Ends (finish phase target content : WorkOn Tree σ ε Unit) (w, tree) good bad := by
  unfold finish
  by_cases hblank : Text.isBlankText content = true
  · rw [if_pos hblank, ends_bind, WorkOn.ends_log]
    exact h _ _ (Or.inr ⟨_, rfl⟩)
  · rw [if_neg hblank]
    exact h w _ (Or.inl rfl)

/-- A file whose content is there is done. -/
theorem ends_finish (phase : Phase) (target content : String) (w : World σ) (tree : Tree) :
    Ends (finish phase target content : WorkOn Tree σ ε Unit) (w, tree)
      (fun _ st => st.1.progresses = w.progresses ∧
        st.2 = Tree.modify target (fill (some content)) tree)
      (fun _ _ => False) := by
  refine ends_finish_of fun w₁ entry hw₁ => ⟨?_, (modify_fill_some target content tree).symm⟩
  -- Nothing that is told here is progress.
  have hbefore : w₁.progresses = w.progresses := by
    rcases hw₁ with rfl | ⟨warning, rfl⟩
    · rfl
    · exact World.progresses_tell_of_none rfl w
  rw [World.progresses_tell_of_none rfl, World.progresses_tell_of_none rfl,
    World.progresses_tell_of_none rfl, hbefore]

theorem progress?_of_streams {target : String} {d : Deed} (h : Streams target d) :
    d.progress? = none := by
  cases d with
  | told e =>
      cases e with
      | progress p => exact h.elim
      | _ => rfl
  | _ => rfl

/-- A file comes to a result, unless its generation is cancelled or dropped. -/
theorem ends_generateFile (phase : Phase) (target prompt : String) (w : World σ) (tree : Tree) :
    Ends (generateFile s c phase signal target prompt) (w, tree)
      (fun generated st => st.1.progresses = w.progresses ∧ ∃ result : Option String,
        generated = result.isSome ∧ st.2 = Tree.modify target (fill result) tree)
      (fun stop st => st.1.progresses = w.progresses ∧
        (stop = .failed .cancelled ∧ st.2 = Tree.setStatus target .pending tree ∨
          stop = .dropped ∧ st.2 = Tree.setStatus target .inProgress tree)) := by
  -- What comes after the first change of the status is a change on top of it.
  have hafter : ∀ f : FileNode → FileNode,
      Tree.modify target f (Tree.setStatus target .inProgress tree) =
        Tree.modify target (f ∘ fun node => { node with status := .inProgress }) tree :=
    fun f => Tree.modify_modify f (refills_status .inProgress) target tree
  have hbegun : (w.tell (.fileStatus target .inProgress)).progresses = w.progresses :=
    World.progresses_tell_of_none rfl w
  rw [generateFile, ends_bind, ends_setStatus, ends_bind, WorkOn.ends_ofWork, Work.ends_attempt]
  have hsilent : ∀ d, Streams target d → Deed.progress? d = none := fun d => progress?_of_streams
  refine ((does_streamRetrying s c signal target prompt).seen hsilent _).mono
    (fun content w₁ hw₁ => ?_) (fun stop w₁ hw₁ => ?_)
  · simp only []
    rw [ends_bind]
    refine (ends_finish phase target content w₁ _).mono (fun _ st hst => ?_) fun _ _ hf => hf.elim
    refine ⟨hst.1.trans (hw₁.trans hbegun), some content, rfl, ?_⟩
    rw [hst.2, hafter]
    rfl
  · have hsame : w₁.progresses = w.progresses := hw₁.trans hbegun
    -- Only a failure is a result of the file; the other two leave the generation.
    cases stop with
    | dropped => exact ⟨hsame, Or.inr ⟨rfl, rfl⟩⟩
    | failed e =>
        simp only []
        by_cases he : e.isCancelled = true
        · rw [if_pos he, ends_bind, ends_setStatus, WorkOn.ends_fail]
          refine ⟨(World.progresses_tell_of_none rfl w₁).trans hsame, Or.inl ⟨?_, hafter _⟩⟩
          cases e <;> simp only [MigrationError.isCancelled, Bool.false_eq_true] at he
          rfl
        · rw [if_neg he, ends_bind, ends_setStatus, ends_bind, WorkOn.ends_log]
          refine ⟨?_, none, rfl, hafter _⟩
          rw [World.progresses_tell_of_none rfl, World.progresses_tell_of_none rfl, hsame]

/-- A file that is generated again comes to a result, unless there is no such file, or its generation
    is cancelled or dropped. -/
theorem ends_regenerate (target : String) (instructions : Option String) (w : World σ)
    (tree : Tree) :
    Ends (regenerate s c inputs signal target instructions) (w, tree)
      (fun generated st => (tree.find? target).any FileNode.isFile = true ∧
        ∃ result : Option String, generated = result.isSome ∧
          st.2 = Tree.modify target (fill result) tree)
      (fun stop st => stop = .failed (.unknownTarget target) ∧ st.2 = tree ∨
        (tree.find? target).any FileNode.isFile = true ∧
          (stop = .failed .cancelled ∧ (st.2 = tree ∨ st.2 = Tree.setStatus target .pending tree) ∨
            stop = .dropped ∧ st.2 = Tree.setStatus target .inProgress tree)) := by
  rw [regenerate, ends_bind, WorkOn.ends_held]
  by_cases hfile : (tree.find? target).any FileNode.isFile = true
  · have hknown : ¬ (!(tree.find? target).any FileNode.isFile) = true := by
      rw [hfile, Bool.not_true]
      exact Bool.false_ne_true
    rw [if_neg hknown, ends_bind, WorkOn.ends_log, ends_bind]
    generalize w.tell _ = w₁
    rw [WorkOn.ends_check]
    by_cases hab : w₁.signals.isAborted signal = true
    · rw [if_pos hab]
      exact Or.inr ⟨hfile, Or.inl ⟨rfl, Or.inl rfl⟩⟩
    · rw [if_neg hab]
      refine (ends_generateFile s c signal .regenerate target _ _ tree).mono (fun _ st hst => ?_)
        (fun stop st hst => Or.inr ⟨hfile, ?_⟩)
      · exact ⟨hfile, hst.2⟩
      · exact hst.2.imp_left fun h => ⟨h.1, Or.inr h.2⟩
  · rw [Bool.not_eq_true] at hfile
    rw [hfile, Bool.not_false, if_pos rfl, ends_bind, WorkOn.ends_fail]
    exact Or.inl ⟨rfl, rfl⟩

/-- A file that came to a result is recorded with it. -/
theorem record_result (target : String) (result : Option String) (o : GenerationOutcome) :
    record target result.isSome o =
      { generated := o.generated ++ generatedOf [(target, result)]
        failed := o.failed ++ failedOf [(target, result)]
        progress := o.progress } := by
  rcases o with ⟨generated, failed, progress⟩
  cases result with
  | none => simp only [record, generatedOf, failedOf, Option.isSome_none, Bool.false_eq_true, if_false,
      List.filter_cons, List.filter_nil, Option.isNone_none, if_true, List.map_nil, List.map_singleton,
      List.append_nil]
  | some content => simp only [record, generatedOf, failedOf, Option.isSome_some, if_true,
      List.filter_cons, List.filter_nil, Option.isNone_some, Bool.false_eq_true, if_false,
      List.map_nil, List.map_singleton, List.append_nil]

/-- The results of one target and of those behind it are results of all. -/
theorem Settles.cons {target : String} {targets : List String} {result : Option String}
    {results : List (String × Option String)} {o o₁ o' : GenerationOutcome} {tree tree' : Tree}
    (hgenerated : o₁.generated = o.generated ++ generatedOf [(target, result)])
    (hfailed : o₁.failed = o.failed ++ failedOf [(target, result)])
    (hcurrent : o₁.progress.current = o.progress.current + 1)
    (h : Settles targets results o₁ o' (Tree.modify target (fill result) tree) tree') :
    Settles (target :: targets) ((target, result) :: results) o o' tree tree' := by
  have hsplit : ∀ q : String × Option String → Bool,
      (((target, result) :: results).filter q).map Prod.fst =
        ([(target, result)].filter q).map Prod.fst ++ (results.filter q).map Prod.fst := by
    intro q
    rw [← List.map_append, ← List.filter_append, List.singleton_append]
  refine ⟨?_, h.settled, ?_, ?_, ?_⟩
  · rw [List.map_cons, h.paths]
  · rw [h.generated, hgenerated, generatedOf, generatedOf, generatedOf, hsplit, List.append_assoc]
  · rw [h.failed, hfailed, failedOf, failedOf, failedOf, hsplit, List.append_assoc]
  · rw [h.current, hcurrent, List.length_cons]
    omega

/-- What comes to nothing at a target does so whatever is behind it. -/
theorem Broken.append {targets : List String} {stop : Stop MigrationError} {tree tree' : Tree}
    (h : Broken targets stop tree tree') (later : List String) :
    Broken (targets ++ later) stop tree tree' := by
  rcases h with ⟨results, target, rest, rfl, hstop⟩
  exact ⟨results, target, rest ++ later, by rw [List.append_assoc, List.cons_append], hstop⟩

theorem Broken.cons {target : String} {targets : List String} {result : Option String}
    {stop : Stop MigrationError} {tree tree' : Tree}
    (h : Broken targets stop (Tree.modify target (fill result) tree) tree') :
    Broken (target :: targets) stop tree tree' := by
  rcases h with ⟨results, at', later, htargets, hstop⟩
  exact ⟨(target, result) :: results, at', later, by rw [htargets]; rfl, hstop⟩

theorem ends_announce (w : World σ) (tree : Tree) :
    Ends (announce inputs) (w, tree)
      (fun o st => o = { progress := .start inputs.schedule.order.length } ∧ st.2 = tree ∧
        w.Advances st.1 (.start inputs.schedule.order.length) o.progress)
      (fun _ _ => False) := by
  have htold : ∀ w' : World σ, w'.progresses = w.progresses →
      w.Advances (w'.tell (.progress (.start inputs.schedule.order.length)))
        (.start inputs.schedule.order.length) (.start inputs.schedule.order.length) := fun w' hw' =>
    (World.Advances.of_eq hw' _).trans (World.advances_tell w' rfl (Nat.le_refl _))
  rw [announce, ends_bind, WorkOn.ends_log]
  by_cases hcyclic : inputs.schedule.cyclic ≠ []
  · rw [if_pos hcyclic, ends_bind, WorkOn.ends_log, ends_bind, WorkOn.ends_tell, ends_pure]
    refine ⟨rfl, rfl, htold _ ?_⟩
    rw [World.progresses_tell_of_none rfl, World.progresses_tell_of_none rfl]
  · rw [if_neg hcyclic, ends_bind, WorkOn.ends_tell, ends_pure]
    exact ⟨rfl, rfl, htold _ (World.progresses_tell_of_none rfl w)⟩

theorem ends_begin (target : String) (o : GenerationOutcome) (w : World σ) (tree : Tree) :
    Ends (begin signal target o) (w, tree)
      (fun o' st => o' = { o with progress := o.progress.begin target } ∧ st.2 = tree ∧
        w.Advances st.1 o.progress o'.progress)
      (fun stop st => stop = .failed .cancelled ∧ st.2 = tree ∧ st.1 = w) := by
  rw [begin, ends_bind, WorkOn.ends_check]
  by_cases hab : w.signals.isAborted signal = true
  · rw [if_pos hab]
    exact ⟨rfl, rfl, rfl⟩
  · rw [if_neg hab, ends_bind, WorkOn.ends_tell, ends_pure]
    exact ⟨rfl, rfl, World.advances_tell w rfl (Nat.le_refl _)⟩

/-- A file that has its turn comes to a result and is counted, if there is room for it. -/
theorem ends_turn (target : String) {o : GenerationOutcome}
    (hroom : o.progress.current < o.progress.total) (w : World σ) (tree : Tree) :
    Ends (turn s c inputs signal target o) (w, tree)
      (fun o' st => w.Advances st.1 o.progress o'.progress ∧ ∃ result : Option String,
        st.2 = Tree.modify target (fill result) tree ∧
        o'.generated = o.generated ++ generatedOf [(target, result)] ∧
        o'.failed = o.failed ++ failedOf [(target, result)] ∧
        o'.progress.current = o.progress.current + 1)
      (fun stop st => Broken [target] stop tree st.2 ∧ st.1.progresses = w.progresses) := by
  rw [turn, ends_bind, WorkOn.ends_held, ends_bind]
  refine (ends_generateFile s c signal .generate target _ w tree).mono (fun generated st hst => ?_)
    (fun stop st hst => ?_)
  · rcases st with ⟨w₁, tree₁⟩
    rcases hst with ⟨hsame, result, rfl, rfl⟩
    rw [ends_bind, WorkOn.ends_tell, ends_pure, record_result]
    have hcount : o.progress.complete.current = o.progress.current + 1 := by
      rw [Progress.complete_current]
      omega
    refine ⟨(World.Advances.of_eq hsame _).trans ?_, result, rfl, rfl, rfl, hcount⟩
    refine World.advances_tell w₁ rfl ?_
    rw [hcount]
    omega
  · refine ⟨⟨[], target, [], rfl, ?_⟩, hst.1⟩
    rcases hst.2 with ⟨hstop, htree⟩ | ⟨hstop, htree⟩
    · exact Or.inl ⟨hstop, Or.inr htree⟩
    · exact Or.inr ⟨hstop, htree⟩

theorem ends_conclude (o : GenerationOutcome) (w : World σ) (tree : Tree) :
    Ends (conclude o) (w, tree)
      (fun o' st => o' = o ∧ st.2 = tree ∧ st.1.progresses = w.progresses) (fun _ _ => False) := by
  rw [conclude]
  by_cases hcomplete : o.isComplete = true
  · rw [if_pos hcomplete, ends_bind, WorkOn.ends_log, ends_pure]
    exact ⟨rfl, rfl, World.progresses_tell_of_none rfl w⟩
  · rw [if_neg hcomplete, ends_bind, WorkOn.ends_log, ends_pure]
    exact ⟨rfl, rfl, World.progresses_tell_of_none rfl w⟩

/-- The files of a list come to results one after another, unless the generation is cancelled or
    dropped on the way. The progress goes up by one with each. -/
theorem ends_generateEach (targets : List String) {o : GenerationOutcome}
    (hroom : o.progress.current + targets.length ≤ o.progress.total) (w : World σ) (tree : Tree) :
    Ends (generateEach s c inputs signal targets o) (w, tree)
      (fun o' st => w.Advances st.1 o.progress o'.progress ∧
        ∃ results, Settles targets results o o' tree st.2)
      (fun stop st => Broken targets stop tree st.2 ∧
        ∃ q, w.Advances st.1 o.progress q ∧ q.current ≤ q.total) := by
  induction targets generalizing o w tree with
  | nil =>
      refine ⟨.of_eq rfl o.progress, [], rfl, rfl, ?_, ?_, rfl⟩
      · exact (List.append_nil o.generated).symm
      · exact (List.append_nil o.failed).symm
  | cons target targets ih =>
      rw [List.length_cons] at hroom
      have hle : o.progress.current ≤ o.progress.total := by omega
      rw [generateEach_cons, ends_bind]
      refine (ends_begin signal target o w tree).mono (fun o₁ st hst => ?_) (fun stop st hst => ?_)
      · rcases st with ⟨w₁, tree₁⟩
        rcases hst with ⟨rfl, rfl, hbegun⟩
        have hturn : (o.progress.begin target).current < (o.progress.begin target).total := by
          rw [Progress.begin_current, Progress.begin_total]
          omega
        rw [ends_bind]
        refine (ends_turn s c inputs signal target
          (o := { o with progress := o.progress.begin target }) hturn w₁ tree₁).mono
          (fun o₂ st hst => ?_) (fun stop st hst => ?_)
        · rcases st with ⟨w₂, tree₂⟩
          rcases hst with ⟨hcounted, result, rfl, hgenerated, hfailed, hcurrent⟩
          have hstep := hbegun.trans hcounted
          -- One file more is counted, and one less is to be counted.
          have hroom' : o₂.progress.current + targets.length ≤ o₂.progress.total := by
            rw [hstep.total, hcurrent, Progress.begin_current]
            omega
          refine (ih hroom' w₂ _).mono (fun o' st hst => ?_) (fun stop st hst => ?_)
          · rcases hst with ⟨hup, results, hresults⟩
            exact ⟨hstep.trans hup, (target, result) :: results,
              hresults.cons hgenerated hfailed hcurrent⟩
          · rcases hst with ⟨hbroken, q, hup, hq⟩
            exact ⟨hbroken.cons, q, hstep.trans hup, hq⟩
        · exact ⟨hst.1.append targets, _, hbegun.trans (.of_eq hst.2 _), hle⟩
      · rcases hst with ⟨hstop, htree, hworld⟩
        refine ⟨⟨[], target, targets, rfl, Or.inl ⟨hstop, Or.inl htree⟩⟩, o.progress, ?_, hle⟩
        rw [hworld]
        exact .of_eq rfl _

/-- The targets of the schedule come to results in its order, unless the generation is cancelled or
    dropped on the way. -/
theorem ends_generateAll (w : World σ) (tree : Tree) :
    Ends (generateAll s c inputs signal) (w, tree)
      (fun o st => w.Advances st.1 (.start inputs.schedule.order.length) o.progress ∧
        ∃ results, Settles inputs.schedule.order results
          { progress := .start inputs.schedule.order.length } o tree st.2)
      (fun stop st => Broken inputs.schedule.order stop tree st.2 ∧
        ∃ q, w.Advances st.1 (.start inputs.schedule.order.length) q ∧ q.current ≤ q.total) := by
  rw [generateAll_eq, ends_bind]
  refine (ends_announce inputs w tree).mono (fun o st hst => ?_) (fun _ _ hf => hf.elim)
  rcases st with ⟨w₁, tree₁⟩
  rcases hst with ⟨rfl, rfl, htold⟩
  have hroom : (Progress.start inputs.schedule.order.length).current + inputs.schedule.order.length ≤
      (Progress.start inputs.schedule.order.length).total := by
    rw [Progress.start_current, Progress.start_total]
    omega
  rw [ends_bind]
  refine (ends_generateEach s c inputs signal _ hroom w₁ tree₁).mono (fun o st hst => ?_)
    (fun stop st hst => ?_)
  · rcases hst with ⟨hup, hresults⟩
    refine (ends_conclude o st.1 st.2).mono (fun o' st' hst' => ?_) (fun _ _ hf => hf.elim)
    rcases hst' with ⟨rfl, htree, hsame⟩
    rw [htree]
    exact ⟨htold.trans (hup.trans (.of_eq hsame _)), hresults⟩
  · rcases hst with ⟨hbroken, q, hup, hq⟩
    exact ⟨hbroken, q, htold.trans hup, hq⟩

end Run

section Tree

variable {base : String} {results : List (String × Option String)}

/-- Files that are settled are refilled, and no others. -/
theorem refilledAt_settle {tree : Tree} (h : Tree.Rooted base tree)
    (hfiles : ∀ r ∈ results, r.1 ∈ tree.filePaths) :
    Tree.RefilledAt (results.map Prod.fst) tree (settle results tree) := by
  induction results generalizing tree with
  | nil => exact .refl _ tree
  | cons r results ih =>
      rw [List.forall_mem_cons] at hfiles
      have hstep := Tree.refilledAt_modify (refills_fill r.2) h hfiles.1
      have hrest := ih (hstep.rooted h) fun r' hr' => hstep.filePaths_eq ▸ hfiles.2 r' hr'
      refine (hstep.mono fun path hpath => ?_).trans (hrest.mono fun path hpath => ?_)
      · rw [List.mem_singleton.mp hpath]
        exact List.mem_cons_self
      · exact List.mem_cons_of_mem _ hpath

/-- What is left of a result is found under the path of its file. -/
theorem find?_settle {tree : Tree} (h : Tree.Rooted base tree)
    (hfiles : ∀ r ∈ results, r.1 ∈ tree.filePaths) (hdistinct : (results.map Prod.fst).Nodup)
    {path : String} {result : Option String} (hmem : (path, result) ∈ results) :
    Tree.find? path (settle results tree) = (Tree.find? path tree).map (fill result) := by
  induction results generalizing tree with
  | nil => exact absurd hmem List.not_mem_nil
  | cons r results ih =>
      rw [List.forall_mem_cons] at hfiles
      rw [List.map_cons, List.nodup_cons] at hdistinct
      have hstep := Tree.refilledAt_modify (refills_fill r.2) h hfiles.1
      have hrooted := hstep.rooted h
      have hrest : ∀ r' ∈ results, r'.1 ∈ (Tree.modify r.1 (fill r.2) tree).filePaths :=
        fun r' hr' => hstep.filePaths_eq ▸ hfiles.2 r' hr'
      change Tree.find? path (settle results (Tree.modify r.1 (fill r.2) tree)) = _
      rcases List.mem_cons.mp hmem with rfl | hmem
      · -- The other results do not concern this file.
        rw [(refilledAt_settle hrooted hrest).find?_eq hrooted (hstep.filePaths_eq ▸ hfiles.1)
          hdistinct.1, Tree.find?_modify (refills_fill result)]
      · have hne : path ∉ [r.1] := by
          rw [List.mem_singleton]
          rintro rfl
          exact hdistinct.1 (List.mem_map.mpr ⟨_, hmem, rfl⟩)
        rw [ih hrooted hrest hdistinct.2 hmem, hstep.find?_eq h (hfiles.2 _ hmem) hne]

/-- A file that has come to a result is done or has failed. -/
theorem exists_settled {tree : Tree} (h : Tree.Rooted base tree)
    (hfiles : ∀ r ∈ results, r.1 ∈ tree.filePaths)
    (hdistinct : (results.map Prod.fst).Nodup) {t : String} {result : Option String}
    (hmem : (t, result) ∈ results) :
    ∃ file, Tree.find? t (settle results tree) = some (fill result file) := by
  rcases Tree.exists_find?_of_mem_filePaths h (hfiles _ hmem) with ⟨file, -, hfind, -⟩
  refine ⟨file, ?_⟩
  rw [find?_settle h hfiles hdistinct hmem, hfind, Option.map_some]

/-- Where nothing was done before, a file that is done was settled, with the content that it has. -/
theorem exists_result_of_done {tree : Tree} (h : Tree.Rooted base tree)
    (hfiles : ∀ r ∈ results, r.1 ∈ tree.filePaths) (hdistinct : (results.map Prod.fst).Nodup)
    (hfresh : ∀ file ∈ tree.files, file.status ≠ .done) {path : String}
    (hpath : path ∈ tree.filePaths) {node : FileNode}
    (hfind : Tree.find? path (settle results tree) = some node) (hdone : node.status = .done) :
    ∃ content, (path, some content) ∈ results ∧ node.content = some content := by
  by_cases hin : path ∈ results.map Prod.fst
  · rcases List.mem_map.mp hin with ⟨⟨path, result⟩, hmem, rfl⟩
    rcases exists_settled h hfiles hdistinct hmem with ⟨file, hfile⟩
    rw [hfile, Option.some.injEq] at hfind
    rw [← hfind] at hdone ⊢
    cases result with
    | none => simp only [fill, reduceCtorEq] at hdone
    | some content => exact ⟨content, hmem, rfl⟩
  · -- A file without a result is as it was before.
    rw [(refilledAt_settle h hfiles).find?_eq h hpath hin] at hfind
    rcases Tree.exists_find?_of_mem_filePaths h hpath with ⟨file, hfile, hfind', -⟩
    rw [hfind', Option.some.injEq] at hfind
    exact absurd hdone (hfind ▸ hfresh file hfile)

/-- What comes to nothing has refilled no other files either. -/
theorem Broken.refilledAt {targets : List String} {stop : Stop MigrationError} {tree tree' : Tree}
    (h : Broken targets stop tree tree') (hrooted : Tree.Rooted base tree)
    (hfiles : ∀ t ∈ targets, t ∈ tree.filePaths) : Tree.RefilledAt targets tree tree' := by
  rcases h with ⟨results, target, later, rfl, h⟩
  have hresults : ∀ r ∈ results, r.1 ∈ tree.filePaths := fun r hr =>
    hfiles r.1 (List.mem_append_left _ (List.mem_map.mpr ⟨r, hr, rfl⟩))
  have hsettled := refilledAt_settle hrooted hresults
  have htarget : target ∈ (settle results tree).filePaths :=
    hsettled.filePaths_eq ▸ hfiles target (List.mem_append_right _ List.mem_cons_self)
  have hlast : Tree.RefilledAt [target] (settle results tree) tree' := by
    have hstatus := fun status : FileStatus =>
      Tree.refilledAt_modify (refills_status status) (hsettled.rooted hrooted) htarget
    rcases h with ⟨-, rfl | rfl⟩ | ⟨-, rfl⟩
    · exact .refl _ _
    · exact hstatus .pending
    · exact hstatus .inProgress
  refine (hsettled.mono fun t ht => ?_).trans (hlast.mono fun t ht => ?_)
  · exact List.mem_append_left _ ht
  · exact List.mem_append_right _ (List.mem_singleton.mp ht ▸ List.mem_cons_self)

end Tree

end Generation

end Replatform
