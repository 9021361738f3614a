import Replatform.Proofs.Migration.Record
import Replatform.Proofs.Session.Mirror

/-!
# What a Report Leaves Out

A report counts the files that were generated and lists those that failed as the outcome of the last
generation has them, while the files themselves may have been generated again since. A call for that
marks the file by what it came to, and the outcome stays what it was.

A report therefore agrees with the project for as long as no file has been left with another status
than the one that is recorded. Three things make a difference: a file that failed is done now, one that
was generated has failed, and one is pending because the call was cancelled after it had begun. To
verify the project, or to generate a file again with the same success, makes none.

A generation that was cancelled has no outcome at all, although some files may have come to a result by
then. The report knows of none of them.

## Main definitions

* `SessionTurn.mark?`: The status that a call leaves a file with, if it marks the file.
* `followUps`: The calls since a migration was last run.
* `Report.Agrees`: A report says which files are done and which have failed.
* `Run.UpToDate`: What is recorded of the generation is still so.

## Theorems

* `Session.follows_task`: What calls after a migration do to the statuses.
* `Session.Reached.statuses`: The status of a file is what is recorded, or what was made of it since.
* `Report.agrees_iff`: A report agrees with a project if all files have the statuses recorded.
* `Session.report_agrees_iff`: When the report on a session agrees with its project.
-/

namespace Replatform

variable {σ α : Type}

/-- The status that a call leaves a file with, if it marks the file. A file is pending after a call that
    was cancelled only if it was begun. -/
def SessionTurn.mark? (turn : SessionTurn) (path : String) : Option FileStatus :=
  match turn.call, turn.result with
  | .regenerate target _, .ok (.regenerated generated) =>
    if target = path then some (markOf generated) else none
  | .regenerate target _, .error .cancelled =>
    if target = path ∧ (path, .inProgress) ∈ turn.told.filterMap Event.mark? then some .pending
    else none
  | _, _ => none

/-- The calls since a migration was last run, the latest one first. -/
def followUps (history : List SessionTurn) : List SessionTurn :=
  history.takeWhile fun turn => !turn.call.isRun

/-- What the calls after a migration made of a file with the status that is recorded for it. -/
def statusSince (history : List SessionTurn) (path : String) (recorded : FileStatus) : FileStatus :=
  ((followUps history).findSome? fun turn => turn.mark? path).getD recorded

/-- The marks that a call tells of, depending on what it answers. -/
def SessionCall.Marks (w w' : World σ) : SessionCall → Except MigrationError SessionAnswer → Prop
  | .regenerate path _, .ok (.regenerated generated) => Remarks path (.ok generated) w w'
  | .regenerate path _, .error e => Remarks path (.error e) w w'
  | _, _ => World.Marks [] w w'

/-- What a call tells of marks each file as the call does. -/
theorem SessionTurn.markedAs_told {turn : SessionTurn} {w w' : World σ}
    (h : turn.call.Marks w w' turn.result) (htold : turn.told = w'.events.drop w.events.length)
    (path : String) (status : FileStatus) :
    markedAs path (turn.told.filterMap Event.mark?) status = (turn.mark? path).getD status := by
  have hmarks : ∀ marks, World.Marks marks w w' → turn.told.filterMap Event.mark? = marks := by
    rintro marks ⟨told, hevents, hmarks⟩
    rw [htold, hevents, List.drop_left, hmarks]
  have hnone : World.Marks [] w w' → turn.mark? path = none →
      markedAs path (turn.told.filterMap Event.mark?) status = (turn.mark? path).getD status := by
    intro h hnone
    rw [hmarks [] h, hnone]
    rfl
  -- A file that is marked twice has the second mark.
  have htwice : ∀ target last, markedAs path [(target, .inProgress), (target, last)] status =
      if target = path then last else status := by
    intro target last
    simp only [markedAs, List.foldl_cons, List.foldl_nil]
    by_cases htarget : target = path
    · rw [if_pos htarget, if_pos htarget]
    · rw [if_neg htarget, if_neg htarget, if_neg htarget]
  rcases turn with ⟨call, result, told, before, after⟩
  cases call with
  | regenerate target instructions =>
      cases result with
      | ok answer =>
          cases answer with
          | regenerated generated =>
              rw [hmarks _ h, htwice]
              change _ = (if target = path then some (markOf generated) else none).getD status
              by_cases htarget : target = path
              · rw [if_pos htarget, if_pos htarget, Option.getD_some]
              · rw [if_neg htarget, if_neg htarget, Option.getD_none]
          | _ => exact hnone h rfl
      | error e =>
          -- A call that was cancelled has begun the file if this was told.
          have hcancelled : ∀ marks, World.Marks marks w w' →
              mark? ⟨.regenerate target instructions, .error .cancelled, told, before, after⟩ path =
                if target = path ∧ (path, .inProgress) ∈ marks then some .pending else none :=
            fun marks h => hmarks marks h ▸ rfl
          rcases h with h | ⟨rfl, h⟩
          · refine hnone h ?_
            cases e with
            | cancelled => exact (hcancelled [] h).trans (if_neg fun hmem => List.not_mem_nil hmem.2)
            | _ => rfl
          · rw [hmarks _ h, htwice, hcancelled _ h]
            by_cases htarget : target = path
            · rw [if_pos htarget, if_pos ⟨htarget, htarget ▸ List.mem_cons_self⟩, Option.getD_some]
            · rw [if_neg htarget, if_neg fun hmem => htarget hmem.1, Option.getD_none]
  | _ => exact hnone h rfl

namespace Session

variable {w w' : World σ} {s s' : Session}

/-- If there is a run, there was one before with the same outcome of the generation, and the files were
    marked since as the call marks them. -/
def Follows (call : SessionCall) (result : Except MigrationError SessionAnswer)
    (st st' : World σ × Session) : Prop :=
  ∀ r', st'.2.run = some r' → ∃ r, st.2.run = some r ∧
    call.Marks st.1 st'.1 result ∧ r'.generation = r.generation

theorem follows_followUp {call : SessionCall} {answer : α → SessionAnswer} {phase : Phase}
    {reason : String} {task : SignalId → WorkOn Run σ MigrationError α}
    (htask : ∀ signal w₁ r, World.Marks [] w w₁ → Ends (task signal) (w₁, r)
      (fun a st => call.Marks w st.1 (.ok (answer a)) ∧ st.2.generation = r.generation)
      (fun stop st => stop.Fails fun e =>
        call.Marks w st.1 (.error e) ∧ st.2.generation = r.generation)) :
    Ends (followUp phase reason task) (w, s)
      (fun a st => Follows call (.ok (answer a)) (w, s) st)
      (fun stop st => stop.Fails fun e => Follows call (.error e) (w, s) st) :=
  (ends_followUp_run fun r signal _ => htask signal _ r (.of_since (since_readied w s)) :)

/-- A call after a migration marks the file that it generates again, and no call changes the outcome of
    the generation. -/
theorem follows_task (o : Orchestrator σ) {call : SessionCall} (hcall : call.isRun = false) :
    Ends (call.task o) (w, s) (fun a st => Follows call (.ok a) (w, s) st)
      (fun stop st => stop.Fails fun e => Follows call (.error e) (w, s) st) := by
  cases call with
  | begin =>
      rw [SessionCall.task, ends_bind, ends_beginRun, ends_pure]
      exact fun r hr => absurd hr.symm (Option.some_ne_none r)
  | cancel =>
      rw [SessionCall.task, ends_bind, ends_cancel, ends_pure]
      exact fun r hr => ⟨r, hr, .of_since (since_cancel w s.signal), rfl⟩
  | run url => exact absurd hcall.symm Bool.false_ne_true
  | verify =>
      rw [SessionCall.task, verify_eq, ends_bind]
      refine follows_followUp fun signal w₁ r hw₁ => ?_
      refine (o.moves_verify signal Orchestrator.unmarked_corrected (w₁, r)).mono (fun _ st hst => ⟨hw₁.trans hst.1, hst.2⟩)
        (fun stop st hst => ?_)
      cases stop with
      | failed e =>
          rcases hst (Stop.failed_ne_dropped e) with ⟨hmarks, hsame⟩
          exact ⟨hw₁.trans hmarks, hsame⟩
      | dropped => exact trivial
  | regenerate path instructions =>
      rw [SessionCall.task, regenerate_eq, ends_bind]
      refine follows_followUp fun signal w₁ r hw₁ => ?_
      refine (o.ends_remarks_regenerate signal path instructions w₁ r).mono
        (fun _ st hst => ⟨hst.1.after hw₁, hst.2⟩) (fun stop st hst => ?_)
      cases stop with
      | failed e => exact ⟨(hst e rfl).1.after hw₁, (hst e rfl).2⟩
      | dropped => exact trivial

/-- A migration that is run leaves its outcome in agreement with the tree. -/
theorem recorded_run (o : Orchestrator σ) (url : String) (h : Sound w s) :
    Ends ((SessionCall.run url).task o) (w, s) (fun _ st => ∀ r, st.2.run = some r → r.Recorded)
      (fun stop st => stop.Fails fun _ => ∀ r, st.2.run = some r → r.Recorded) := by
  refine ends_run o url h (P := fun _ r => r.Recorded) fun signal => ?_
  exact (o.ends_analyze url signal _).mono
    (fun r w₁ hr => o.ends_recorded signal w₁ hr.1.inOrder hr.2) (fun _ _ _ => trivial)

variable {o : Orchestrator σ} {history : List SessionTurn}

/-- The outcome of the generation is about the targets, and the status of a file is what is recorded
    for it, or what the calls since made of it. -/
theorem Reached.statuses (h : Reached o history w s) {r : Run} (hr : s.run = some r)
    {out : GenerationOutcome} (hout : r.generation = some out) :
    (out.generated ++ out.failed).Perm r.targets ∧
      ∀ file ∈ r.tree.files,
        file.status = statusSince history file.path (out.recorded file.path) := by
  induction h generalizing r with
  | start w => exact absurd hr.symm (Option.some_ne_none r)
  | meanwhile h hw ih => exact ih hr hout
  | @called history w w' s s' result h call hend ih =>
      cases hcall : call.isRun with
      | true =>
          cases call with
          | run url =>
              exact WorkOn.holds_of_attempt (P := fun st => ∀ r, st.2.run = some r → r.Recorded)
                (recorded_run o url h.sound.1) hend r hr out hout
          | _ => exact absurd hcall Bool.false_ne_true
      | false =>
          have hcontinues := WorkOn.holds_of_attempt (continues_task o hcall) hend
          rcases hcontinues r hr with ⟨r₀, hr₀, htargets, told, hevents, htree⟩
          have hfollows : Follows call result (w, s) (w', s') := by
            have hends := WorkOn.ends_of_attempt (follows_task o hcall) hend
            cases result with
            | ok a => exact hends
            | error e => exact hends
          rcases hfollows r hr with ⟨r₁, hr₁, hmarks, hgeneration⟩
          obtain rfl : r₁ = r₀ := Option.some.inj (hr₁.symm.trans hr₀)
          rcases ih hr₀ (hgeneration.symm.trans hout) with ⟨hperm, hstatus⟩
          refine ⟨(show r.targets = r₁.targets from htargets) ▸ hperm, fun file hfile => ?_⟩
          -- The tree is what was told in this call on top of the tree before, so the last mark decides.
          rw [show r.tree = r₁.tree.replay told from htree] at hfile
          have htold : w'.events.drop w.events.length = told := by
            rw [hevents, List.drop_left]
          have hnext := Tree.status_replay (h.inOrder hr₀).tree.rooted
            (f := fun path => statusSince history path (out.recorded path)) hstatus told file hfile
          rw [← htold] at hnext
          let turn : SessionTurn := ⟨call, result, w'.events.drop w.events.length, s, s'⟩
          have hmarked := turn.markedAs_told hmarks rfl file.path
          rw [hnext, hmarked, statusSince, statusSince, followUps, followUps,
            List.takeWhile_cons_of_pos (by rw [hcall]; rfl), List.findSome?_cons]
          cases SessionTurn.mark? _ file.path with
          | none => rfl
          | some status => rfl

end Session

/-- A report says which files are done and which have failed. -/
structure Report.Agrees (report : Report) (tree : Tree) : Prop where
  generated : report.generated = (tree.files.filter (·.status == .done)).length
  failed : ∀ path, path ∈ report.failed ↔
    ∃ file ∈ tree.files, file.path = path ∧ file.status = .error

namespace Tree

/-- The files of a tree that are done. -/
def donePaths (tree : Tree) : List String :=
  (tree.files.filter (·.status == .done)).map FileNode.path

variable {tree : Tree}

theorem mem_donePaths {path : String} :
    path ∈ tree.donePaths ↔ ∃ file ∈ tree.files, file.path = path ∧ file.status = .done := by
  rw [donePaths, List.mem_map]
  constructor
  · rintro ⟨file, hfile, hpath⟩
    rw [List.mem_filter, beq_iff_eq] at hfile
    exact ⟨file, hfile.1, hpath, hfile.2⟩
  · rintro ⟨file, hfile, hpath, hdone⟩
    exact ⟨file, List.mem_filter.mpr ⟨hfile, beq_iff_eq.mpr hdone⟩, hpath⟩

theorem nodup_donePaths (h : tree.filePaths.Nodup) : tree.donePaths.Nodup :=
  h.sublist (List.filter_sublist.map FileNode.path)

end Tree

section Agrees

variable {report : Report} {out : GenerationOutcome} {tree : Tree}

/-- As many files are done as were generated, and none of them has failed, so they are the same. -/
theorem Report.Agrees.status_eq (h : report.Agrees tree)
    (hgenerated : report.generated = out.generated.length) (hfailed : report.failed = out.failed)
    (hperm : (out.generated ++ out.failed).Perm tree.filePaths) (hdistinct : tree.filePaths.Nodup) :
    ∀ file ∈ tree.files, file.status = out.recorded file.path := by
  have hunique : ∀ file ∈ tree.files, ∀ file' ∈ tree.files, file.path = file'.path → file = file' :=
    fun _ hfile _ hfile' => List.inj_on_of_nodup_map hdistinct hfile hfile'
  have hcovered : ∀ file ∈ tree.files, file.path ∈ out.generated ∨ file.path ∈ out.failed :=
    fun file hfile => List.mem_append.mp (hperm.mem_iff.mpr (List.mem_map_of_mem hfile))
  have herror : ∀ file ∈ tree.files, file.path ∈ out.failed → file.status = .error := by
    intro file hfile hmem
    rcases (h.failed file.path).mp (hfailed ▸ hmem) with ⟨file', hfile', hpath, hstatus⟩
    exact hunique file' hfile' file hfile hpath ▸ hstatus
  -- What is done was not listed as failed, so it is among what was generated.
  have hsubset : tree.donePaths ⊆ out.generated := by
    intro path hpath
    rcases Tree.mem_donePaths.mp hpath with ⟨file, hfile, rfl, hdone⟩
    refine (hcovered file hfile).resolve_right fun hmem => ?_
    exact absurd (hdone.symm.trans (herror file hfile hmem)) nofun
  have hlength : out.generated.length ≤ tree.donePaths.length := by
    rw [Tree.donePaths, List.length_map, ← h.generated, hgenerated]
  have hsame : tree.donePaths.Perm out.generated :=
    (List.subperm_of_subset (Tree.nodup_donePaths hdistinct) hsubset).perm_of_length_le hlength
  intro file hfile
  by_cases hmem : file.path ∈ out.generated
  · rcases Tree.mem_donePaths.mp (hsame.mem_iff.mpr hmem) with ⟨file', hfile', hpath, hdone⟩
    rw [GenerationOutcome.recorded_eq_done.mpr hmem, ← hunique file' hfile' file hfile hpath, hdone]
  · rw [GenerationOutcome.recorded_eq_error.mpr hmem]
    exact herror file hfile ((hcovered file hfile).resolve_left hmem)

/-- A report agrees with a project if and only if all files have the statuses recorded. -/
theorem Report.agrees_iff (hgenerated : report.generated = out.generated.length)
    (hfailed : report.failed = out.failed)
    (hperm : (out.generated ++ out.failed).Perm tree.filePaths) (hdistinct : tree.filePaths.Nodup) :
    report.Agrees tree ↔ ∀ file ∈ tree.files, file.status = out.recorded file.path := by
  refine ⟨fun h => h.status_eq hgenerated hfailed hperm hdistinct, fun h => ⟨?_, fun path => ?_⟩⟩
  · have hnodup : out.generated.Nodup := (List.nodup_append.mp (hperm.nodup_iff.mpr hdistinct)).1
    have hsame : out.generated.Perm tree.donePaths := by
      refine (List.perm_ext_iff_of_nodup hnodup (Tree.nodup_donePaths hdistinct)).mpr fun path => ?_
      rw [Tree.mem_donePaths]
      constructor
      · intro hmem
        have hpath := hperm.mem_iff.mp (List.mem_append_left out.failed hmem)
        rcases List.mem_map.mp hpath with ⟨file, hfile, rfl⟩
        exact ⟨file, hfile, rfl, (h file hfile).trans (GenerationOutcome.recorded_eq_done.mpr hmem)⟩
      · rintro ⟨file, hfile, rfl, hdone⟩
        exact GenerationOutcome.recorded_eq_done.mp ((h file hfile).symm.trans hdone)
    rw [hgenerated, hsame.length_eq, Tree.donePaths, List.length_map]
  · rw [hfailed]
    constructor
    · intro hmem
      have hpath := hperm.mem_iff.mp (List.mem_append_right out.generated hmem)
      rcases List.mem_map.mp hpath with ⟨file, hfile, rfl⟩
      have hnot : file.path ∉ out.generated := fun hmem' =>
        (List.nodup_append.mp (hperm.nodup_iff.mpr hdistinct)).2.2 _ hmem' _ hmem rfl
      exact ⟨file, hfile, rfl, (h file hfile).trans (GenerationOutcome.recorded_eq_error.mpr hnot)⟩
    · rintro ⟨file, hfile, rfl, herror⟩
      have hnot := GenerationOutcome.recorded_eq_error.mp ((h file hfile).symm.trans herror)
      have hpath := hperm.mem_iff.mpr (List.mem_map_of_mem hfile)
      exact (List.mem_append.mp hpath).resolve_left hnot

/-- Without anything recorded, a report agrees with a project if and only if no file has come to a
    result. -/
theorem Report.agrees_iff_of_empty (hgenerated : report.generated = 0) (hfailed : report.failed = []) :
    report.Agrees tree ↔ ∀ file ∈ tree.files, file.status ≠ .done ∧ file.status ≠ .error := by
  refine ⟨fun h file hfile => ⟨fun hdone => ?_, fun herror => ?_⟩, fun h => ⟨?_, fun path => ?_⟩⟩
  · have hmem : file.path ∈ tree.donePaths := Tree.mem_donePaths.mpr ⟨file, hfile, rfl, hdone⟩
    have hlength : tree.donePaths.length = 0 := by
      rw [Tree.donePaths, List.length_map, ← h.generated, hgenerated]
    rw [List.eq_nil_of_length_eq_zero hlength] at hmem
    exact List.not_mem_nil hmem
  · have hmem := (h.failed file.path).mpr ⟨file, hfile, rfl, herror⟩
    rw [hfailed] at hmem
    exact List.not_mem_nil hmem
  · have hnone : tree.files.filter (·.status == .done) = [] :=
      List.filter_eq_nil_iff.mpr fun file hfile hdone => (h file hfile).1 (beq_iff_eq.mp hdone)
    rw [hnone, hgenerated, List.length_nil]
  · rw [hfailed]
    refine ⟨fun hmem => absurd hmem List.not_mem_nil, ?_⟩
    rintro ⟨file, hfile, -, herror⟩
    exact absurd herror (h file hfile).2

end Agrees

/-- What is recorded of the generation is still so: every file that was marked since is left with the
    status recorded for it. If nothing is recorded, no file has come to a result. -/
def Run.UpToDate (r : Run) (history : List SessionTurn) : Prop :=
  match r.generation with
  | some out => ∀ path ∈ r.targets, ∀ status,
    (followUps history).findSome? (fun turn => turn.mark? path) = some status →
      status = out.recorded path
  | none => ∀ file ∈ r.tree.files, file.status ≠ .done ∧ file.status ≠ .error

namespace Session

variable {o : Orchestrator σ} {history : List SessionTurn} {w : World σ} {s : Session}

/-- A report on a run with an outcome agrees with the project if and only if no call since has left a
    file with another status than the one that is recorded. -/
theorem agrees_of_outcome (h : Reached o history w s) {r : Run} (hr : s.run = some r)
    {out : GenerationOutcome} (hout : r.generation = some out) {report : Report}
    (hgenerated : report.generated = out.generated.length) (hfailed : report.failed = out.failed) :
    report.Agrees r.tree ↔ ∀ path ∈ r.targets, ∀ status,
      (followUps history).findSome? (fun turn => turn.mark? path) = some status →
        status = out.recorded path := by
  rcases h.statuses hr hout with ⟨hperm, hstatus⟩
  have hinOrder := h.inOrder hr
  have hfiles : r.tree.filePaths = r.targets := hinOrder.tree.files
  have hdistinct := Tree.filePaths_nodup hinOrder.tree.rooted
  rw [Report.agrees_iff hgenerated hfailed (hfiles.symm ▸ hperm) hdistinct, ← hfiles]
  constructor
  · intro hsame path hpath status hmark
    rcases List.mem_map.mp hpath with ⟨file, hfile, rfl⟩
    rw [← hsame file hfile, hstatus file hfile, statusSince, hmark, Option.getD_some]
  · intro hsame file hfile
    rw [hstatus file hfile, statusSince]
    cases hmark : (followUps history).findSome? fun turn => turn.mark? file.path with
    | none => rfl
    | some status => exact hsame file.path (List.mem_map_of_mem hfile) status hmark

/-- The report on a session agrees with its project if and only if what is recorded of the generation
    is still so. -/
theorem report_agrees_iff (h : Reached o history w s) {r : Run} (hr : s.run = some r) :
    ∃ report, s.report = some report ∧ (report.Agrees r.tree ↔ r.UpToDate history) := by
  refine ⟨{ r.report with runId := s.runId.map toString }, congrArg (Option.map _) hr, ?_⟩
  rw [Run.UpToDate]
  cases hout : r.generation with
  | some out =>
      refine agrees_of_outcome h hr hout ?_ ?_
      · exact congrArg (fun g => (g.map fun out => out.generated.length).getD 0) hout
      · exact congrArg (fun g => (g.map GenerationOutcome.failed).getD []) hout
  | none =>
      refine Report.agrees_iff_of_empty ?_ ?_
      · exact congrArg (fun g => (g.map fun out => out.generated.length).getD 0) hout
      · exact congrArg (fun g => (g.map GenerationOutcome.failed).getD []) hout

/-- A file fails in a migration and is generated again, with success. The calls are irreducible so that
    nothing is run while the statements about them are read. -/
@[irreducible] def mendedCalls : List (SessionCall × List (Reply ServiceError Response)) :=
  [(.regenerate "a.ts" none, texts ["2"]),
    (.run "r", texts ["\x7b\x7d", "[\"a.ts\", \"b.ts\"]"] ++ ⟨[], .error (.malformed "")⟩ ::
      texts ["1", "\x7b\x7d"])]

theorem report_agrees_iff_mended :
    ∃ r, (follow fromShelf { state := [] } mendedCalls).2.2.run = some r ∧
      r.generation.isSome = true ∧
      ∃ report, (follow fromShelf { state := [] } mendedCalls).2.2.report = some report ∧
        (report.Agrees r.tree ↔ r.UpToDate (follow fromShelf { state := [] } mendedCalls).1) := by
  have hgenerated : ((follow fromShelf { state := [] } mendedCalls).2.2.run.map fun r =>
      r.generation.isSome) = some true := by decide +kernel
  rcases Option.map_eq_some_iff.mp hgenerated with ⟨r, hr, hout⟩
  exact ⟨r, hr, hout, report_agrees_iff (reached_follow _ _ _) hr⟩

/-- Both files are done, and the report still says that one has failed. -/
theorem mended_not_reported :
    ∃ r report, (follow fromShelf { state := [] } mendedCalls).2.2.run = some r ∧
      (follow fromShelf { state := [] } mendedCalls).2.2.report = some report ∧
      r.isScaffolded = true ∧ r.generation.isSome = true ∧
      r.tree.files.map (fun file => (file.path, file.status)) = [("a.ts", .done), ("b.ts", .done)] ∧
      report.generated = 1 ∧ report.failed = ["a.ts"] ∧ ¬ report.Agrees r.tree := by
  have hrun : ((follow fromShelf { state := [] } mendedCalls).2.2.run.map fun r =>
      (r.isScaffolded, r.generation.isSome, r.tree.files.map fun file => (file.path, file.status))) =
        some (true, true, [("a.ts", .done), ("b.ts", .done)]) := by decide +kernel
  have hreport : ((follow fromShelf { state := [] } mendedCalls).2.2.report.map fun report =>
      (report.generated, report.failed)) = some (1, ["a.ts"]) := by decide +kernel
  rcases Option.map_eq_some_iff.mp hrun with ⟨r, hr, hrun⟩
  rcases Option.map_eq_some_iff.mp hreport with ⟨report, hreport, hcounts⟩
  simp only [Prod.mk.injEq] at hrun hcounts
  rcases hrun with ⟨hscaffolded, hgenerated, hfiles⟩
  rcases hcounts with ⟨hcount, hfailed⟩
  refine ⟨r, report, hr, hreport, hscaffolded, hgenerated, hfiles, hcount, hfailed, fun hagrees => ?_⟩
  -- No file has failed, although one is listed.
  have hlisted : "a.ts" ∈ report.failed := hfailed ▸ List.mem_cons_self
  rcases (hagrees.failed "a.ts").mp hlisted with ⟨file, hfile, hpath, herror⟩
  have hmem := List.mem_map_of_mem (f := fun file => (file.path, file.status)) hfile
  rw [hfiles, hpath, herror] at hmem
  exact absurd hmem (by decide)

end Session

end Replatform
