-- SUMMARY: The rows and the indicator of the restore dialog say how far the restore has come.
import UsbRestore.Gui.DialogControl

/-!
# The rows of the restore dialog

A row is complete once a later step is reported, and the row of the last step shows the outcome. Whatever
happens to a dialog, its rows and its indicator agree with its stage and its step.
-/

namespace UsbRestore

namespace RestoreDialog

open DialogControl

/-- The row of a step while the restore runs. -/
def rowAt (step index : Nat) : StepRow :=
  if index + 1 < step then .complete else if index + 1 = step then .active else .pending

/-- The row of a step when the restore has ended. -/
def endRow (outcome : Outcome) (step index : Nat) : StepRow :=
  if index + 1 < step then .complete
  else if index + 1 = step then outcome.row
  else if outcome = .complete then .pending else .notRun

/-- The rows are these, one by one. -/
def RowsAre (dialog : RestoreDialog) (row : Nat → StepRow) : Prop :=
  ∀ index < dialog.rows.length, dialog.rows[index]? = some (row index)

/-- Rows and indicator agree with stage and step. A dialog that was dismissed has no outcome. -/
structure Consistent (plan : List RestoreStep) (dialog : RestoreDialog) : Prop where
  control : Invariant plan dialog.control
  opening : dialog.stage = .confirmation → dialog.indicator = .confirmation ∧
    dialog.RowsAre (rowAt dialog.step)
  running : dialog.stage = .running → dialog.indicator = .active ∧ dialog.RowsAre (rowAt dialog.step)
  ended : dialog.stage = .finished → dialog.indicator = .confirmation ∨
    ∃ outcome, dialog.indicator = Outcome.indicator outcome ∧
      dialog.RowsAre (endRow outcome dialog.step)

variable {tr : QString → QString} {plan : List RestoreStep} {dialog : RestoreDialog}

theorem consistent_create (tr : QString → QString) (plan : List RestoreStep) :
    Consistent plan (create tr plan) where
  control := by
    rw [control_create]
    exact Invariant.create plan
  opening := fun _ => by
    refine ⟨rfl, fun index hindex => ?_⟩
    have hlength : index < plan.length := by simpa [create] using hindex
    simp [create, rowAt, hlength]
  running := fun hstage => by cases hstage
  ended := fun hstage => by cases hstage

theorem indicator_ne_active (outcome : Outcome) : outcome.indicator ≠ .active := by
  cases outcome with
  | complete => exact nofun
  | error => exact nofun
  | cancelled => exact nofun

theorem indicator_ne_confirmation (outcome : Outcome) : outcome.indicator ≠ .confirmation := by
  cases outcome with
  | complete => exact nofun
  | error => exact nofun
  | cancelled => exact nofun

theorem indicator_injective {outcome outcome' : Outcome} (h : outcome.indicator = outcome'.indicator) :
    outcome = outcome' := by
  cases outcome with
  | complete => cases outcome' <;> first | rfl | cases h
  | error => cases outcome' <;> first | rfl | cases h
  | cancelled => cases outcome' <;> first | rfl | cases h

/-- An outcome is only shown by a dialog that has ended. -/
theorem Consistent.ended_of_outcome (h : Consistent plan dialog) {outcome : Outcome}
    (hshown : dialog.indicator = Outcome.indicator outcome) :
    dialog.stage = .finished ∧ dialog.RowsAre (endRow outcome dialog.step) := by
  cases hstage : dialog.stage with
  | confirmation =>
    exact absurd (hshown.symm.trans (h.opening hstage).1) (indicator_ne_confirmation outcome)
  | running => exact absurd (hshown.symm.trans (h.running hstage).1) (indicator_ne_active outcome)
  | finished =>
    rcases h.ended hstage with hdismissed | ⟨outcome', hshown', hrows⟩
    · exact absurd (hshown.symm.trans hdismissed) (indicator_ne_confirmation outcome)
    · obtain rfl := indicator_injective (hshown.symm.trans hshown')
      exact ⟨rfl, hrows⟩

/-! ## Progress -/

/-- The next step of the plan is accepted. -/
theorem setProgress_next (tr : QString → QString) (hstage : dialog.stage = .running)
    (step totalSteps : Int) (message : QString) (htotal : totalSteps = dialog.rows.length) (hstep : step = dialog.step + 1)
    (hmore : dialog.step < dialog.rows.length) :
    (dialog.setProgress tr step totalSteps message).1 = true ∧
      (dialog.setProgress tr step totalSteps message).2.step = dialog.step + 1 ∧
      (dialog.setProgress tr step totalSteps message).2.stage = .running ∧
      (dialog.setProgress tr step totalSteps message).2.indicator = dialog.indicator ∧
      (dialog.setProgress tr step totalSteps message).2.rows =
        dialog.completeCurrentStep.rows.set dialog.step .active := by
  have haccepted : ¬(dialog.stage ≠ .running ∨ totalSteps ≠ dialog.rows.length ∨
      step ≠ dialog.step + 1 ∨ step > dialog.rows.length) := by
    push Not
    exact ⟨hstage, htotal, hstep, by omega⟩
  have hnext : step.toNat = dialog.step + 1 := by omega
  have hindicator : dialog.completeCurrentStep.indicator = dialog.indicator := by
    unfold completeCurrentStep
    split_ifs
    · rfl
    · rfl
  have hrunning : dialog.completeCurrentStep.stage = .running := by
    rw [← hstage]
    unfold completeCurrentStep
    split_ifs
    · rfl
    · rfl
  simp only [setProgress, if_neg haccepted, hnext, setRow, Nat.add_sub_cancel]
  split_ifs
  · exact ⟨rfl, rfl, hrunning, hindicator, rfl⟩
  · exact ⟨rfl, rfl, hrunning, hindicator, rfl⟩
  · exact ⟨rfl, rfl, hrunning, hindicator, rfl⟩

theorem completeCurrentStep_rows (h : dialog.RowsAre (rowAt dialog.step)) {index : Nat}
    (hindex : index < dialog.rows.length) (hbefore : index ≠ dialog.step) :
    dialog.completeCurrentStep.rows[index]? = some (rowAt (dialog.step + 1) index) := by
  have hrow := h index hindex
  unfold completeCurrentStep
  split
  · next hzero =>
    rw [hrow, hzero]
    simp [rowAt]
    omega
  · next hstep =>
    change (dialog.rows.set (dialog.step - 1) .complete)[index]? = _
    by_cases hcurrent : index = dialog.step - 1
    · rw [hcurrent, List.getElem?_set_self (hcurrent ▸ hindex)]
      have hearlier : dialog.step - 1 + 1 < dialog.step + 1 := by omega
      simp [rowAt, hearlier]
    · rw [List.getElem?_set_ne (Ne.symm hcurrent), hrow]
      have hneither : index + 1 ≠ dialog.step := by omega
      have hlater : index + 1 ≠ dialog.step + 1 := by omega
      have hsame : index + 1 < dialog.step ↔ index + 1 < dialog.step + 1 := by omega
      simp only [rowAt, hneither, hlater, hsame, if_false]

/-- With progress, the rows before the step are complete, its own row is active and those after it
wait. -/
theorem setProgress_rows (h : dialog.RowsAre (rowAt dialog.step)) {rows : List StepRow}
    (hrows : rows = dialog.completeCurrentStep.rows.set dialog.step .active)
    (hmore : dialog.step < dialog.rows.length) :
    ∀ index < rows.length, rows[index]? = some (rowAt (dialog.step + 1) index) := by
  obtain ⟨completed, hlength, hcompleted⟩ := completeCurrentStep_eq dialog
  have hcount : dialog.completeCurrentStep.rows.length = dialog.rows.length := by
    rw [hcompleted]
    exact hlength
  intro index hindex
  rw [hrows, List.length_set, hcount] at hindex
  rw [hrows]
  by_cases hcurrent : index = dialog.step
  · rw [hcurrent, List.getElem?_set_self (by rw [hcount]; exact hmore)]
    simp [rowAt]
  · rw [List.getElem?_set_ne (Ne.symm hcurrent)]
    exact completeCurrentStep_rows h hindex hcurrent

/-! ## The outcome -/

theorem finish_fields (tr : QString → QString) (hstage : dialog.stage = .running) (title message : QString) (outcome : Outcome) :
    (dialog.finish tr title message outcome).stage = .finished ∧
      (dialog.finish tr title message outcome).indicator = outcome.indicator ∧
      (dialog.finish tr title message outcome).step = dialog.step ∧
      (dialog.finish tr title message outcome).rows =
        match outcome with
        | .complete => dialog.completeCurrentStep.rows
        | .error => (dialog.stopRows .error).rows
        | .cancelled => (dialog.stopRows .cancelled).rows := by
  have hcontrol : (dialog.finish tr title message outcome).control =
      { dialog.control with stage := .finished } := finish_control hstage title message outcome
  refine ⟨congrArg DialogControl.stage hcontrol, ?_, congrArg DialogControl.step hcontrol, ?_⟩
  · unfold finish
    rw [if_neg (not_not.mpr hstage)]
    cases outcome with
    | complete =>
      dsimp only [completeCurrentStep, setRow]
      split_ifs
      · rfl
      · rfl
    | error =>
      dsimp only [stopRows, setRow]
      split_ifs
      · rfl
      · rfl
    | cancelled =>
      dsimp only [stopRows, setRow]
      split_ifs
      · rfl
      · rfl
  · unfold finish
    rw [if_neg (not_not.mpr hstage)]
    cases outcome with
    | complete =>
      dsimp only [completeCurrentStep, setRow]
      split_ifs
      · rfl
      · rfl
    | error =>
      dsimp only [stopRows, setRow]
      split_ifs
      · rfl
      · rfl
    | cancelled =>
      dsimp only [stopRows, setRow]
      split_ifs
      · rfl
      · rfl

/-- A restore that succeeds completes the step it is in. -/
theorem completeCurrentStep_ended (h : dialog.RowsAre (rowAt dialog.step)) {index : Nat}
    (hindex : index < dialog.rows.length) :
    dialog.completeCurrentStep.rows[index]? = some (endRow .complete dialog.step index) := by
  have hrow := h index hindex
  unfold completeCurrentStep
  split
  · next hzero =>
    rw [hrow, hzero]
    simp [rowAt, endRow]
  · next hstep =>
    change (dialog.rows.set (dialog.step - 1) .complete)[index]? = _
    by_cases hcurrent : index = dialog.step - 1
    · rw [hcurrent, List.getElem?_set_self (hcurrent ▸ hindex)]
      have hlast : dialog.step - 1 + 1 = dialog.step := by omega
      simp [endRow, hlast, Outcome.row]
    · rw [List.getElem?_set_ne (Ne.symm hcurrent), hrow]
      have hother : index + 1 ≠ dialog.step := by omega
      simp only [rowAt, endRow, hother, if_false, if_true]

/-- A restore that stops shows why in the step it is in, and what was not run. -/
theorem stopRows_ended (h : dialog.RowsAre (rowAt dialog.step)) (outcome : Outcome)
    (hstops : outcome ≠ .complete) {index : Nat} (hindex : index < dialog.rows.length) :
    (dialog.stopRows outcome).rows[index]? = some (endRow outcome dialog.step index) := by
  have hrow := h index hindex
  have hset : (if dialog.step > 0 then dialog.setRow dialog.step outcome.row else dialog).rows[index]? =
      some (if index + 1 = dialog.step then outcome.row else rowAt dialog.step index) := by
    split
    · next hstep =>
      change (dialog.rows.set (dialog.step - 1) outcome.row)[index]? = _
      by_cases hcurrent : index = dialog.step - 1
      · have hlast : dialog.step - 1 + 1 = dialog.step := by omega
        rw [hcurrent, List.getElem?_set_self (hcurrent ▸ hindex), if_pos hlast]
      · have hother : index + 1 ≠ dialog.step := by omega
        rw [List.getElem?_set_ne (Ne.symm hcurrent), hrow, if_neg hother]
    · next hstep =>
      have hother : index + 1 ≠ dialog.step := by omega
      rw [hrow, if_neg hother]
  have hstep : (if dialog.step > 0 then dialog.setRow dialog.step outcome.row else dialog).step =
      dialog.step := by
    split
    · rfl
    · rfl
  unfold stopRows
  dsimp only
  rw [List.getElem?_mapIdx, hset, hstep, Option.map_some]
  congr 1
  unfold endRow
  by_cases hnotRun : dialog.step ≤ index
  · have hearlier : ¬index + 1 < dialog.step := by omega
    have hother : index + 1 ≠ dialog.step := by omega
    rw [if_pos hnotRun, if_neg hearlier, if_neg hother, if_neg hstops]
  · rw [if_neg hnotRun]
    by_cases hlast : index + 1 = dialog.step
    · have hearlier : ¬index + 1 < dialog.step := by omega
      rw [if_pos hlast, if_neg hearlier, if_pos hlast]
    · have hearlier : index + 1 < dialog.step := by omega
      rw [if_neg hlast, if_pos hearlier, rowAt, if_pos hearlier]

/-- At the end the row of the step shows the outcome. -/
theorem finish_rows (tr : QString → QString) (hstage : dialog.stage = .running) (h : dialog.RowsAre (rowAt dialog.step))
    (title message : QString) (outcome : Outcome) :
    (dialog.finish tr title message outcome).RowsAre (endRow outcome dialog.step) := by
  obtain ⟨-, -, -, hrows⟩ := finish_fields tr hstage title message outcome
  have hlength : (dialog.finish tr title message outcome).rows.length = dialog.rows.length :=
    congrArg DialogControl.steps (finish_control hstage title message outcome)
  intro index hindex
  rw [hlength] at hindex
  rw [hrows]
  cases outcome with
  | complete => exact completeCurrentStep_ended h hindex
  | error => exact stopRows_ended h .error (by decide) hindex
  | cancelled => exact stopRows_ended h .cancelled (by decide) hindex

/-! ## Every event -/

/-- What no event but progress and outcomes touches: they are the ones that move a running dialog. -/
structure Unmoved (dialog next : RestoreDialog) : Prop where
  rows : next.rows = dialog.rows
  step : next.step = dialog.step
  stage : (next.stage = dialog.stage ∨ dialog.stage = .confirmation ∧ next.stage = .finished) ∧
      next.indicator = dialog.indicator ∨
    dialog.stage = .confirmation ∧ next.stage = .running ∧ next.indicator = .active

theorem Unmoved.consistent {next : RestoreDialog} (hmoved : Unmoved dialog next)
    (hcontrol : Invariant plan next.control) (h : Consistent plan dialog) : Consistent plan next := by
  have hrowsAre : ∀ row, dialog.RowsAre row → next.RowsAre row := by
    intro row hrow index hindex
    rw [hmoved.rows] at hindex ⊢
    exact hrow index hindex
  have hstep := hmoved.step
  rcases hmoved.stage with ⟨hsame | ⟨hopening, hdismissed⟩, hindicator⟩ | ⟨hopening, hrunning, hactive⟩
  · refine ⟨hcontrol, fun hstage => ?_, fun hstage => ?_, fun hstage => ?_⟩
    · obtain ⟨hbefore, hrows⟩ := h.opening (hsame.symm.trans hstage)
      exact ⟨hindicator.trans hbefore, hstep ▸ hrowsAre _ hrows⟩
    · obtain ⟨hbefore, hrows⟩ := h.running (hsame.symm.trans hstage)
      exact ⟨hindicator.trans hbefore, hstep ▸ hrowsAre _ hrows⟩
    · rcases h.ended (hsame.symm.trans hstage) with hbefore | ⟨outcome, hbefore, hrows⟩
      · exact .inl (hindicator.trans hbefore)
      · exact .inr ⟨outcome, hindicator.trans hbefore, hstep ▸ hrowsAre _ hrows⟩
  · refine ⟨hcontrol, fun hstage => ?_, fun hstage => ?_, fun hstage => ?_⟩
    · cases hdismissed.symm.trans hstage
    · cases hdismissed.symm.trans hstage
    · exact .inl (hindicator.trans (h.opening hopening).1)
  · refine ⟨hcontrol, fun hstage => ?_, fun hstage => ?_, fun hstage => ?_⟩
    · cases hrunning.symm.trans hstage
    · exact ⟨hactive, hstep ▸ hrowsAre _ (h.opening hopening).2⟩
    · cases hrunning.symm.trans hstage

/-- Is it progress or an outcome? -/
def Moves : DialogEvent → Prop
  | .setProgress _ _ _ | .finishSuccess _ | .finishFailure _ | .finishCancelled _ => True
  | _ => False

theorem done_unmoved (dialog : RestoreDialog) (result : Int) : Unmoved dialog (dialog.done result) := by
  unfold done
  cases hstage : dialog.stage with
  | confirmation => exact ⟨rfl, rfl, .inl ⟨.inr ⟨hstage, rfl⟩, rfl⟩⟩
  | running => exact ⟨rfl, rfl, .inl ⟨.inl rfl, rfl⟩⟩
  | finished => exact ⟨rfl, rfl, .inl ⟨.inl rfl, rfl⟩⟩

theorem Unmoved.refl (dialog : RestoreDialog) : Unmoved dialog dialog :=
  ⟨rfl, rfl, .inl ⟨.inl rfl, rfl⟩⟩

/-- Events that are neither progress nor a result leave the rows and the step as they are. -/
theorem handle_unmoved (tr : QString → QString) (dialog : RestoreDialog) {event : DialogEvent}
    (h : ¬Moves event) : Unmoved dialog (dialog.handle tr event).1 := by
  cases event with
  | toggled checked =>
    unfold handle toggle
    dsimp only
    split_ifs
    · exact .refl dialog
    · exact ⟨rfl, rfl, .inl ⟨.inl rfl, rfl⟩⟩
  | eraseClicked =>
    unfold handle click confirmRestore
    dsimp only
    split_ifs with henabled hrefused
    · exact .refl dialog
    · push Not at hrefused
      exact ⟨rfl, rfl, .inr ⟨hrefused.1, rfl, rfl⟩⟩
    · exact .refl dialog
  | cancelClicked =>
    unfold handle click cancelClicked
    dsimp only
    split_ifs
    · cases hstage : dialog.stage with
      | confirmation => exact done_unmoved dialog 0
      | running => exact .refl dialog
      | finished => exact .refl dialog
    · exact .refl dialog
  | doneClicked =>
    unfold handle click
    dsimp only
    split_ifs
    · exact done_unmoved dialog 1
    · exact .refl dialog
  | logClicked =>
    unfold handle click
    dsimp only
    split_ifs
    · exact .refl dialog
    · exact .refl dialog
  | done result => exact done_unmoved dialog result
  | setProgress => exact absurd trivial h
  | setNotice message =>
    unfold handle setNotice
    dsimp only
    split_ifs
    · exact ⟨rfl, rfl, .inl ⟨.inl rfl, rfl⟩⟩
    · exact .refl dialog
  | setCancelling =>
    unfold handle setCancelling
    dsimp only
    split_ifs
    · exact .refl dialog
    · exact ⟨rfl, rfl, .inl ⟨.inl rfl, rfl⟩⟩
  | finishSuccess => exact absurd trivial h
  | finishFailure => exact absurd trivial h
  | finishCancelled => exact absurd trivial h

/-- A result keeps the rows in step with the plan. -/
theorem finish_consistent (h : Consistent plan dialog) (title message : QString) (outcome : Outcome) :
    Consistent plan (dialog.finish tr title message outcome) := by
  by_cases hstage : dialog.stage = .running
  · obtain ⟨hfinished, hindicator, hstep, -⟩ := finish_fields tr hstage title message outcome
    have hrows := finish_rows tr hstage (h.running hstage).2 title message outcome
    refine ⟨h.control.step (finish_step dialog title message outcome), fun hother => ?_,
      fun hother => ?_, fun _ => .inr ⟨outcome, hindicator, hstep ▸ hrows⟩⟩
    · cases hfinished.symm.trans hother
    · cases hfinished.symm.trans hother
  · rw [finish_ignored hstage]
    exact h

theorem setProgress_consistent (h : Consistent plan dialog) (step totalSteps : Int) (message : QString) :
    Consistent plan (dialog.setProgress tr step totalSteps message).2 := by
  cases haccepted : (dialog.setProgress tr step totalSteps message).1 with
  | false =>
    rw [setProgress_refused haccepted]
    exact h
  | true =>
    obtain ⟨hstage, htotal, hstep, hmore⟩ := setProgress_accepted haccepted
    obtain ⟨-, hnext, hrunning, hindicator, hrows⟩ :=
      setProgress_next tr hstage step totalSteps message htotal hstep hmore
    obtain ⟨hactive, hbefore⟩ := h.running hstage
    refine ⟨h.control.step (setProgress_step haccepted), fun hother => ?_, fun _ => ?_,
      fun hother => ?_⟩
    · cases hrunning.symm.trans hother
    · rw [hnext]
      exact ⟨hindicator.trans hactive, setProgress_rows hbefore hrows hmore⟩
    · cases hrunning.symm.trans hother

/-- Whatever happens to a dialog, it stays consistent. -/
theorem Consistent.handle (h : Consistent plan dialog) (tr : QString → QString) (event : DialogEvent) :
    Consistent plan (dialog.handle tr event).1 := by
  have hcontrol := h.control.step (handle_step tr dialog event)
  cases event with
  | setProgress step totalSteps message => exact setProgress_consistent h step totalSteps message
  | finishSuccess message => exact finish_consistent h _ message .complete
  | finishFailure message => exact finish_consistent h _ message .error
  | finishCancelled message => exact finish_consistent h _ message .cancelled
  | toggled checked => exact (handle_unmoved tr dialog id).consistent hcontrol h
  | eraseClicked => exact (handle_unmoved tr dialog id).consistent hcontrol h
  | cancelClicked => exact (handle_unmoved tr dialog id).consistent hcontrol h
  | doneClicked => exact (handle_unmoved tr dialog id).consistent hcontrol h
  | logClicked => exact (handle_unmoved tr dialog id).consistent hcontrol h
  | done result => exact (handle_unmoved tr dialog id).consistent hcontrol h
  | setNotice message => exact (handle_unmoved tr dialog id).consistent hcontrol h
  | setCancelling => exact (handle_unmoved tr dialog id).consistent hcontrol h

end RestoreDialog

end UsbRestore
