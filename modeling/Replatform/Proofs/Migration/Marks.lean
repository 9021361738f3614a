import Replatform.Proofs.Migration.Mirror
import Replatform.Proofs.Migration.Settling

/-!
# How Files Are Marked

A file that is generated is marked twice: when it is begun, and when it is known what became of it. These
marks are told, and the status of a file is the last mark that was told of it.

A verification marks no file, although it may give files new contents. To generate a file again marks
this file and no other, and the last mark says how that went: done or failed if there is a result, and
pending if it was cancelled after it had begun. Anything else that can go wrong does so before.

## Main definitions

* `markedAs`: The status of a file after some marks.
* `World.Marks`: The marks that were told between two worlds.
* `Remarks`: The marks that are told when a file is generated again, depending on how that ends.

## Theorems

* `Tree.status_replay`: The status of a file is the last mark that was told of it.
* `Generation.ends_marks_generateFile`: The marks of a file that is generated.
* `Orchestrator.ends_remarks_regenerate`: The marks of a file that is generated again.
-/

namespace Replatform

variable {σ τ ε α : Type}

/-- The mark that an event tells of: the path of a file, and its new status. -/
def Event.mark? : Event → Option (String × FileStatus)
  | .fileStatus path status => some (path, status)
  | _ => none

/-- The status of a file after some marks, one after another. -/
def markedAs (path : String) (marks : List (String × FileStatus)) (status : FileStatus) : FileStatus :=
  marks.foldl (fun status mark => if mark.1 = path then mark.2 else status) status

/-- The marks that were told between two worlds. -/
def World.Marks (marks : List (String × FileStatus)) (w w' : World σ) : Prop :=
  ∃ told, w'.events = w.events ++ told ∧ told.filterMap Event.mark? = marks

/-- The last mark of a file that is generated, unless it is cancelled. -/
def markOf (generated : Bool) : FileStatus :=
  if generated then .done else .error

/-- The marks that are told when a file is generated again, depending on how that ends. -/
def Remarks (path : String) : Except MigrationError Bool → World σ → World σ → Prop
  | .ok generated => World.Marks [(path, .inProgress), (path, markOf generated)]
  | .error e => fun w w' =>
    World.Marks [] w w' ∨ e = .cancelled ∧ World.Marks [(path, .inProgress), (path, .pending)] w w'

namespace Tree

/-- Changes of the status or the content leave the files where they are. -/
theorem rooted_follow {base : String} {tree : Tree} (h : Rooted base tree) (e : Event) :
    Rooted base (tree.follow e) := by
  cases e with
  | fileStatus path status => exact rooted_modify (refills_status status) path h
  | fileContent path content isPartial =>
      cases isPartial with
      | true => exact h
      | false => exact rooted_modify (refills_content (some content)) path h
  | _ => exact h

theorem status_follow {tree : Tree} (h : Rooted "" tree) {f : String → FileStatus}
    (hf : ∀ file ∈ tree.files, file.status = f file.path) (e : Event) :
    ∀ file ∈ (tree.follow e).files,
      file.status = markedAs file.path e.mark?.toList (f file.path) := by
  cases e with
  | fileStatus path status =>
      intro file hfile
      change file ∈ FileNode.filesAmong (modify path _ tree) at hfile
      -- The file at the path has the new status, and all others have their own.
      rw [files_modify (refills_status status) path h, List.mem_map] at hfile
      rcases hfile with ⟨old, hold, rfl⟩
      simp only [Event.mark?, Option.toList_some, markedAs, List.foldl_cons, List.foldl_nil, changeAt]
      by_cases hpath : old.path = path
      · rw [if_pos hpath, if_pos hpath.symm]
      · rw [if_neg hpath, if_neg fun he => hpath he.symm]
        exact hf old hold
  | fileContent path content isPartial =>
      cases isPartial with
      | true => exact hf
      | false =>
          -- A new content is no mark.
          intro file hfile
          change file ∈ FileNode.filesAmong (modify path _ tree) at hfile
          rw [files_modify (refills_content (some content)) path h, List.mem_map] at hfile
          rcases hfile with ⟨old, hold, rfl⟩
          rw [changeAt]
          by_cases hpath : old.path = path
          · rw [if_pos hpath]
            exact hf old hold
          · rw [if_neg hpath]
            exact hf old hold
  | _ => exact hf

/-- The status of a file is the last mark that was told of it. -/
theorem status_replay {tree : Tree} (h : Rooted "" tree) {f : String → FileStatus}
    (hf : ∀ file ∈ tree.files, file.status = f file.path) (told : List Event) :
    ∀ file ∈ (tree.replay told).files,
      file.status = markedAs file.path (told.filterMap Event.mark?) (f file.path) := by
  induction told generalizing tree f with
  | nil => exact hf
  | cons e told ih =>
      -- The statuses after the first event are those that the others begin with.
      have hnext := ih (f := fun path => markedAs path e.mark?.toList (f path)) (rooted_follow h e)
        (status_follow h hf e)
      intro file hfile
      rw [hnext file hfile, List.filterMap_cons]
      cases e.mark? with
      | none => rfl
      | some mark => rfl

end Tree

namespace World.Marks

variable {w w' w'' : World σ} {marks marks' : List (String × FileStatus)}

theorem refl (w : World σ) : Marks [] w w :=
  ⟨[], (List.append_nil _).symm, rfl⟩

theorem trans (h : Marks marks w w') (h' : Marks marks' w' w'') : Marks (marks ++ marks') w w'' := by
  rcases h with ⟨told, hevents, rfl⟩
  rcases h' with ⟨told', hevents', rfl⟩
  exact ⟨told ++ told', by rw [hevents', hevents, List.append_assoc], List.filterMap_append⟩

theorem of_since (h : w.Since Deed.IsAside w') : Marks [] w w' := by
  rcases h.told with ⟨told, hevents, haside⟩
  refine ⟨told, hevents, List.filterMap_eq_nil_iff.mpr fun e he => ?_⟩
  have hnot := haside e he
  cases e with
  | fileStatus path status => exact hnot.elim
  | _ => rfl

theorem tell (w : World σ) (e : Event) : Marks e.mark?.toList w (w.tell e) := by
  refine ⟨[e], w.events_tell e, ?_⟩
  rw [List.filterMap_cons]
  cases e.mark? with
  | none => rfl
  | some mark => rfl

end World.Marks

open World (Marks)

/-- What is told beforehand is not of the file. -/
theorem Remarks.after {path : String} {result : Except MigrationError Bool} {w w₁ w' : World σ}
    (h : Remarks path result w₁ w') (hw : Marks [] w w₁) : Remarks path result w w' := by
  cases result with
  | ok generated => exact hw.trans h
  | error e => exact h.imp (fun h => hw.trans h) (fun h => ⟨h.1, hw.trans h.2⟩)

open WorkOn

namespace Generation

theorem ends_marks_finish (phase : Phase) (target content : String) (w : World σ) (tree : Tree) :
    Ends (finish phase target content : WorkOn Tree σ ε Unit) (w, tree)
      (fun _ st => Marks [(target, .done)] w st.1) (fun _ _ => False) := by
  refine ends_finish_of fun w₁ entry hw₁ => ?_
  have hbefore : Marks [] w w₁ := by
    rcases hw₁ with rfl | ⟨warning, rfl⟩
    · exact .refl w₁
    · exact .tell w (.log warning)
  have hcontent := hbefore.trans (.tell w₁ (.fileContent target content false))
  exact (hcontent.trans (.tell _ (.fileStatus target .done))).trans (.tell _ (.log entry))

variable (s : Service σ) (c : Config) (inputs : Inputs) (signal : SignalId)

/-- A file is marked when it is begun, and when it is known what became of it. -/
theorem ends_marks_generateFile (phase : Phase) (target prompt : String) (w : World σ) (tree : Tree) :
    Ends (generateFile s c phase signal target prompt) (w, tree)
      (fun generated st => Remarks target (.ok generated) w st.1)
      (fun stop st => ∀ e, stop = .failed e → Remarks target (.error e) w st.1) := by
  have hbegun : Marks [(target, .inProgress)] w (w.tell (.fileStatus target .inProgress)) :=
    .tell w (.fileStatus target .inProgress)
  have hstream : Aside (streamRetrying s c signal target prompt) :=
    aside_streamRetrying signal s c target prompt
  rw [generateFile, ends_bind, ends_setStatus, ends_bind, ends_ofWork, Work.ends_attempt]
  refine (hstream _).mono (fun content w₁ h₁ => ?_) (fun stop w₁ h₁ => ?_)
  · have hstreamed := hbegun.trans (.of_since h₁)
    simp only []
    rw [ends_bind]
    exact (ends_marks_finish phase target content w₁ _).mono (fun _ st hst => hstreamed.trans hst)
      fun _ _ hf => hf.elim
  · have hstreamed := hbegun.trans (.of_since h₁)
    cases stop with
    | dropped => exact fun e he => absurd he.symm (Stop.failed_ne_dropped e)
    | failed e =>
        simp only []
        by_cases he : e.isCancelled = true
        · -- What was streamed of a cancelled file is given up, and the file can be begun again.
          rw [if_pos he, ends_bind, ends_setStatus, ends_fail]
          have hcancelled : e = .cancelled := by
            cases e <;> simp only [MigrationError.isCancelled, Bool.false_eq_true] at he
            rfl
          rintro e' he'
          rw [Stop.failed.injEq] at he'
          exact Or.inr ⟨he' ▸ hcancelled, hstreamed.trans (.tell w₁ (.fileStatus target .pending))⟩
        · rw [if_neg he, ends_bind, ends_setStatus, ends_bind, ends_log]
          have hfailed := hstreamed.trans (.tell w₁ (.fileStatus target .error))
          exact hfailed.trans (.tell _ (.log _))

theorem ends_marks_regenerate (target : String) (instructions : Option String) (w : World σ)
    (tree : Tree) :
    Ends (regenerate s c inputs signal target instructions) (w, tree)
      (fun generated st => Remarks target (.ok generated) w st.1)
      (fun stop st => ∀ e, stop = .failed e → Remarks target (.error e) w st.1) := by
  rw [regenerate, ends_bind, ends_held]
  by_cases hfile : (!(tree.find? target).any FileNode.isFile) = true
  · rw [if_pos hfile, ends_bind, ends_fail]
    exact fun _ _ => Or.inl (.refl w)
  · rw [if_neg hfile, ends_bind, ends_log, ends_bind]
    have hlog := fun entry => Marks.tell w (.log entry)
    generalize hw₁ : w.tell _ = w₁
    have hunmarked : Marks [] w w₁ := hw₁ ▸ hlog _
    rw [WorkOn.ends_check]
    by_cases hab : w₁.signals.isAborted signal = true
    · rw [if_pos hab]
      exact fun _ _ => Or.inl hunmarked
    · rw [if_neg hab]
      exact (ends_marks_generateFile s c signal .regenerate target _ w₁ tree).mono
        (fun _ _ h => h.after hunmarked) (fun _ _ h e he => (h e he).after hunmarked)

end Generation

/-- No mark is told between two moments, and the outcome of the generation stays the same. -/
def Run.Unmarked (s s' : World σ × Run) : Prop :=
  Marks [] s.1 s'.1 ∧ s'.2.generation = s.2.generation

instance : Run.Overlooks (Run.Unmarked (σ := σ)) where
  refl s := ⟨.refl s.1, rfl⟩
  trans h h' := ⟨h.1.trans h'.1, h'.2.trans h.2⟩
  aside _ hw := ⟨.of_since hw, rfl⟩
  others w _ _ _ _ hgeneration := ⟨.refl w, hgeneration⟩

namespace Orchestrator

open Run (Unmarked)

variable (o : Orchestrator σ) (signal : SignalId)

/-- A file that is corrected keeps its mark. -/
theorem unmarked_corrected (w : World σ) (r : Run) (path content : String) :
    Unmarked (w, r) (w.tell (.fileContent path content false), r.corrected path content) :=
  ⟨.tell w (.fileContent path content false), rfl⟩

/-- To generate a file again marks it, and leaves the outcome of the generation as it was. -/
theorem ends_remarks_regenerate (path : String) (instructions : Option String) (w : World σ) (r : Run) :
    Ends (o.regenerate path instructions signal) (w, r)
      (fun generated st => Remarks path (.ok generated) w st.1 ∧ st.2.generation = r.generation)
      (fun stop st => ∀ e, stop = .failed e →
        Remarks path (.error e) w st.1 ∧ st.2.generation = r.generation) := by
  have hplanned : ∀ started w₁ r₁, Unmarked (w, r) (w₁, r₁) →
      Ends (o.regeneratePlanned path instructions signal started) (w₁, r₁)
        (fun generated st => Remarks path (.ok generated) w st.1 ∧ st.2.generation = r.generation)
        (fun stop st => ∀ e, stop = .failed e →
          Remarks path (.error e) w st.1 ∧ st.2.generation = r.generation) := by
    rintro started w₁ r₁ ⟨hw₁, hr₁⟩
    rw [regeneratePlanned, ends_bind, ends_held, ends_bind, onTree, ends_taking]
    have hfile := Generation.ends_marks_regenerate o.service o.config r₁.inputs signal path
      instructions w₁ r₁.tree
    refine hfile.mono (fun generated st hst => ?_) (fun stop st hst => ?_)
    · exact ⟨hst.after hw₁, hr₁⟩
    · cases stop with
      | failed e => exact fun e' he' => ⟨(hst e' he').after hw₁, hr₁⟩
      | dropped => exact fun e' he' => absurd he'.symm (Stop.failed_ne_dropped e')
  rw [regenerate, ends_bind, ends_held]
  by_cases hready : (!r.isScaffolded) = true
  · rw [if_pos hready]
    exact fun _ _ => ⟨Or.inl (.refl w), rfl⟩
  · rw [if_neg hready, ends_bind, ends_ofWork]
    change Ends _ (w, r) _ _
    rw [ends_bind, ends_held]
    by_cases hempty : r.schedule.isEmpty = true
    · rw [if_pos hempty, ends_bind]
      refine ((o.moves_plan .regenerate : Moves Unmarked _) (w, r)).mono (fun _ st hst => hplanned _ st.1 st.2 hst) ?_
      rintro stop st hst e rfl
      have hunmarked := hst (Stop.failed_ne_dropped e)
      exact ⟨Or.inl hunmarked.1, hunmarked.2⟩
    · rw [if_neg hempty]
      exact hplanned _ w r (Composes.refl (w, r))

end Orchestrator

end Replatform
