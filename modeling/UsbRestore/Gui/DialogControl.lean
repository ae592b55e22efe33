-- SUMMARY: The restore dialog obeys a small machine of stages and buttons, and keeps its promises.
import Mathlib.Data.List.Induction
import UsbRestore.Gui.RestoreDialog

/-!
# The control of the restore dialog

Of everything the dialog shows, few fields decide what a later event may do. They form a machine
with ten kinds of steps; every event of the dialog is one of them. What holds of the machine in all
its runs is what holds of the dialog.
-/

namespace UsbRestore

/-! ## The machine -/

structure DialogControl where
  steps : Nat
  firstDestructiveStep : Nat
  stage : DialogStage := .confirmation
  step : Nat := 0
  cancelling : Bool := false
  acknowledged : Bool := false
  canErase : Bool := false
  canCancel : Bool := true
  closedWith : Option Int := none

namespace DialogControl

/-- The control of a new dialog. -/
def create (plan : List RestoreStep) : DialogControl where
  steps := plan.length
  firstDestructiveStep := firstDestructiveStepOf plan

/-- What can happen between two events, with the signals that go out. -/
inductive Step (control : DialogControl) : DialogControl → List DialogSignal → Prop where
  | idle : Step control control []
  | openLog : Step control control [.openLogRequested]
  | toggle (checked : Bool) :
    Step control
      { control with
        acknowledged := checked, canErase := control.stage = .confirmation ∧ checked = true } []
  | confirm (stage : control.stage = .confirmation) (ticked : control.acknowledged = true)
      (enabled : control.canErase = true) :
    Step control { control with stage := .running, canErase := false } [.restoreConfirmed]
  | request (stage : control.stage = .running) (enabled : control.canCancel = true) :
    Step control control [.cancelRequested]
  | advance (stage : control.stage = .running) (more : control.step < control.steps) :
    Step control
      { control with
        step := control.step + 1
        canCancel :=
          control.canCancel = true ∧ control.step + 1 < control.firstDestructiveStep } []
  | stop (stage : control.stage = .running) (early : control.step < control.firstDestructiveStep) :
    Step control { control with cancelling := true, canCancel := false } []
  | finish (stage : control.stage = .running) : Step control { control with stage := .finished } []
  | dismiss (stage : control.stage = .confirmation) (result : Int) :
    Step control
      { control with stage := .finished, canErase := false, closedWith := some result } []
  | close (stage : control.stage = .finished) (result : Int) :
    Step control { control with closedWith := some result } []

/-- What holds in every run. -/
structure Invariant (plan : List RestoreStep) (control : DialogControl) : Prop where
  steps : control.steps = plan.length
  firstDestructiveStep : control.firstDestructiveStep = firstDestructiveStepOf plan
  step_le : control.step ≤ plan.length
  opening : control.stage = .confirmation → control.step = 0
  open_until_finished : control.stage ≠ .finished → control.closedWith = none
  erase : control.canErase = true → control.stage = .confirmation ∧ control.acknowledged = true
  noReturn : firstDestructiveStepOf plan ≤ control.step → control.canCancel = false

variable {plan : List RestoreStep} {control next : DialogControl} {signals : List DialogSignal}

theorem Invariant.create (plan : List RestoreStep) : Invariant plan (create plan) where
  steps := rfl
  firstDestructiveStep := rfl
  step_le := Nat.zero_le _
  opening := fun _ => rfl
  open_until_finished := fun _ => rfl
  erase := nofun
  noReturn := fun h => absurd h (Nat.not_succ_le_zero _)

/-- One step keeps the invariant. -/
theorem Invariant.step (h : Invariant plan control) (hstep : Step control next signals) :
    Invariant plan next := by
  obtain ⟨hsteps, hfirst, hle, hopening, hopen, herase, hnoReturn⟩ := h
  cases hstep with
  | idle => exact ⟨hsteps, hfirst, hle, hopening, hopen, herase, hnoReturn⟩
  | openLog => exact ⟨hsteps, hfirst, hle, hopening, hopen, herase, hnoReturn⟩
  | toggle checked =>
    refine ⟨hsteps, hfirst, hle, hopening, hopen, fun henabled => ?_, hnoReturn⟩
    exact of_decide_eq_true henabled
  | confirm stage ticked enabled =>
    have hnone := hopen (by rw [stage]; exact nofun)
    exact ⟨hsteps, hfirst, hle, nofun, fun _ => hnone, nofun, hnoReturn⟩
  | request stage enabled => exact ⟨hsteps, hfirst, hle, hopening, hopen, herase, hnoReturn⟩
  | advance stage more =>
    refine ⟨hsteps, hfirst, ?_, fun hconfirmation => ?_, hopen, fun henabled => ?_,
      fun hreached => ?_⟩
    · exact hsteps ▸ more
    · cases stage.symm.trans hconfirmation
    · cases stage.symm.trans (herase henabled).1
    · exact decide_eq_false fun hearly => Nat.not_lt.mpr hreached (hfirst ▸ hearly.2)
  | stop stage early =>
    exact ⟨hsteps, hfirst, hle, hopening, hopen, herase, fun _ => rfl⟩
  | finish stage =>
    refine ⟨hsteps, hfirst, hle, nofun, fun hunfinished => absurd rfl hunfinished, ?_, hnoReturn⟩
    intro henabled
    cases stage.symm.trans (herase henabled).1
  | dismiss stage result =>
    exact ⟨hsteps, hfirst, hle, nofun, fun hunfinished => absurd rfl hunfinished, nofun, hnoReturn⟩
  | close stage result =>
    exact ⟨hsteps, hfirst, hle, hopening, fun hunfinished => absurd stage hunfinished, herase,
      hnoReturn⟩

/-! ### One step -/

/-- A restore is confirmed from the confirmation page with the acknowledgement ticked. -/
theorem Step.confirmed (hstep : Step control next signals)
    (hsignal : DialogSignal.restoreConfirmed ∈ signals) :
    signals = [.restoreConfirmed] ∧ control.stage = .confirmation ∧
      control.acknowledged = true ∧ next.stage = .running := by
  cases hstep with
  | confirm stage ticked enabled => exact ⟨rfl, stage, ticked, rfl⟩
  | openLog => simp at hsignal
  | request stage enabled => simp at hsignal
  | idle => cases hsignal
  | toggle checked => cases hsignal
  | advance stage more => cases hsignal
  | stop stage early => cases hsignal
  | finish stage => cases hsignal
  | dismiss stage result => cases hsignal
  | close stage result => cases hsignal

/-- A cancel is requested only where the dialog allows it. -/
theorem Step.requested (hstep : Step control next signals)
    (hsignal : DialogSignal.cancelRequested ∈ signals) : control.canCancel = true := by
  cases hstep with
  | request stage enabled => exact enabled
  | openLog => simp at hsignal
  | confirm stage ticked enabled => simp at hsignal
  | idle => cases hsignal
  | toggle checked => cases hsignal
  | advance stage more => cases hsignal
  | stop stage early => cases hsignal
  | finish stage => cases hsignal
  | dismiss stage result => cases hsignal
  | close stage result => cases hsignal

/-- What no step undoes: the confirmation page is left for good, steps only count up by one, a
disabled cancel button stays disabled, and nothing closes a running dialog. -/
structure Onward (control next : DialogControl) : Prop where
  left : control.stage ≠ .confirmation → next.stage ≠ .confirmation
  finished : control.stage = .finished → next.stage = .finished
  step : next.step = control.step ∨ next.step = control.step + 1
  canCancel : control.canCancel = false → next.canCancel = false
  running : control.stage = .running → next.closedWith = control.closedWith

/-- No step of the dialog undoes what is settled, and none goes back in the plan. -/
theorem Step.onward (hstep : Step control next signals) : Onward control next := by
  cases hstep with
  | idle => exact ⟨id, id, .inl rfl, id, fun _ => rfl⟩
  | openLog => exact ⟨id, id, .inl rfl, id, fun _ => rfl⟩
  | toggle checked => exact ⟨id, id, .inl rfl, id, fun _ => rfl⟩
  | confirm stage ticked enabled =>
    refine ⟨fun _ => nofun, fun hfinished => ?_, .inl rfl, id, fun _ => rfl⟩
    cases stage.symm.trans hfinished
  | request stage enabled => exact ⟨id, id, .inl rfl, id, fun _ => rfl⟩
  | advance stage more =>
    refine ⟨id, id, .inr rfl, fun hdisabled => ?_, fun _ => rfl⟩
    exact decide_eq_false fun henabled => by rw [hdisabled] at henabled; cases henabled.1
  | stop stage early => exact ⟨id, id, .inl rfl, fun _ => rfl, fun _ => rfl⟩
  | finish stage => exact ⟨fun _ => nofun, fun _ => rfl, .inl rfl, id, fun _ => rfl⟩
  | dismiss stage result =>
    refine ⟨fun _ => nofun, fun _ => rfl, .inl rfl, id, fun hrunning => ?_⟩
    cases stage.symm.trans hrunning
  | close stage result =>
    refine ⟨id, id, .inl rfl, id, fun hrunning => ?_⟩
    cases stage.symm.trans hrunning

end DialogControl

/-! ## The dialog obeys it -/

namespace RestoreDialog

open DialogControl

/-- The fields that decide. -/
def control (dialog : RestoreDialog) : DialogControl where
  steps := dialog.rows.length
  firstDestructiveStep := dialog.firstDestructiveStep
  stage := dialog.stage
  step := dialog.step
  cancelling := dialog.cancelling
  acknowledged := dialog.acknowledged
  canErase := dialog.eraseButton.enabled
  canCancel := dialog.cancelButton.enabled
  closedWith := dialog.closedWith

variable {tr : QString → QString}

theorem control_create (plan : List RestoreStep) :
    (create tr plan).control = DialogControl.create plan := by
  unfold control create DialogControl.create
  rw [List.length_map]

/-- Completing a step changes its row. -/
theorem completeCurrentStep_eq (dialog : RestoreDialog) :
    ∃ rows, rows.length = dialog.rows.length ∧ dialog.completeCurrentStep = { dialog with rows } := by
  unfold completeCurrentStep
  split_ifs
  · exact ⟨dialog.rows, rfl, rfl⟩
  · exact ⟨_, List.length_set, rfl⟩

theorem stopRows_eq (dialog : RestoreDialog) (outcome : Outcome) :
    ∃ rows, rows.length = dialog.rows.length ∧
      dialog.stopRows outcome = { dialog with rows } := by
  unfold stopRows
  dsimp only
  split_ifs
  · exact ⟨_, List.length_mapIdx.trans List.length_set, rfl⟩
  · exact ⟨_, List.length_mapIdx, rfl⟩

/-- When an update is the next step of the plan. -/
theorem setProgress_accepted {dialog : RestoreDialog} {step totalSteps : Int} {message : QString}
    (h : (dialog.setProgress tr step totalSteps message).1 = true) :
    dialog.stage = .running ∧ totalSteps = dialog.rows.length ∧ step = dialog.step + 1 ∧
      dialog.step < dialog.rows.length := by
  unfold setProgress at h
  split at h
  · cases h
  · next hnext =>
    push Not at hnext
    obtain ⟨hstage, htotal, hstep, hmore⟩ := hnext
    exact ⟨hstage, htotal, hstep, by omega⟩

/-- A refused update changes nothing. -/
theorem setProgress_refused {dialog : RestoreDialog} {step totalSteps : Int} {message : QString}
    (h : (dialog.setProgress tr step totalSteps message).1 = false) :
    (dialog.setProgress tr step totalSteps message).2 = dialog := by
  unfold setProgress at h ⊢
  dsimp only at h ⊢
  split at h
  · next hrefused => rw [if_pos hrefused]
  · split at h
    · cases h
    · split at h
      · cases h
      · cases h

theorem setProgress_step {dialog : RestoreDialog} {step totalSteps : Int} {message : QString}
    (h : (dialog.setProgress tr step totalSteps message).1 = true) :
    Step dialog.control (dialog.setProgress tr step totalSteps message).2.control [] := by
  obtain ⟨hstage, htotal, hstep, hmore⟩ := setProgress_accepted h
  obtain ⟨rows, hrows, hcompleted⟩ := completeCurrentStep_eq dialog
  have hnext : step.toNat = dialog.step + 1 := by omega
  have hcontrol : (dialog.setProgress tr step totalSteps message).2.control =
      { dialog.control with
        step := dialog.step + 1
        canCancel := dialog.control.canCancel = true ∧
          dialog.step + 1 < dialog.firstDestructiveStep } := by
    have haccepted : ¬(dialog.stage ≠ .running ∨ totalSteps ≠ dialog.rows.length ∨
        step ≠ dialog.step + 1 ∨ step > dialog.rows.length) := by
      push Not
      exact ⟨hstage, htotal, hstep, by omega⟩
    simp only [setProgress, if_neg haccepted, hcompleted, hnext, setRow]
    split_ifs with hreached
    · simp [control, hrows, Nat.not_lt.mpr hreached]
    · simp [control, hrows, Nat.lt_of_not_le hreached]
    · simp [control, hrows, Nat.lt_of_not_le hreached]
  rw [hcontrol]
  exact Step.advance hstage hmore

/-- A running dialog is finished by every outcome. -/
theorem finish_control {dialog : RestoreDialog} (h : dialog.stage = .running)
    (title message : QString) (outcome : Outcome) :
    (dialog.finish tr title message outcome).control =
      { dialog.control with stage := .finished } := by
  have hcontrol : ∀ rows : List StepRow, rows.length = dialog.rows.length →
      { dialog.control with steps := rows.length, stage := .finished } =
        { dialog.control with stage := .finished } := by
    intro rows hrows
    rw [hrows]
    rfl
  unfold finish
  rw [if_neg (not_not.mpr h)]
  dsimp only
  generalize hended : { dialog with
      stage := .finished
      timerActive := false
      windowTitle := title
      title
      message
      indicator := outcome.indicator } = ended
  have hlength : ended.rows.length = dialog.rows.length := by rw [← hended]
  cases outcome with
  | complete =>
    obtain ⟨rows, hrows, hcompleted⟩ := completeCurrentStep_eq ended
    rw [hcompleted, ← hended]
    exact hcontrol rows (hrows.trans hlength)
  | error =>
    obtain ⟨rows, hrows, hstopped⟩ := stopRows_eq ended .error
    rw [hstopped, ← hended]
    exact hcontrol rows (hrows.trans hlength)
  | cancelled =>
    obtain ⟨rows, hrows, hstopped⟩ := stopRows_eq ended .cancelled
    rw [hstopped, ← hended]
    exact hcontrol rows (hrows.trans hlength)

theorem finish_ignored {dialog : RestoreDialog} (h : dialog.stage ≠ .running)
    (title message : QString) (outcome : Outcome) :
    dialog.finish tr title message outcome = dialog :=
  if_pos h

theorem finish_step (dialog : RestoreDialog) (title message : QString) (outcome : Outcome) :
    Step dialog.control (dialog.finish tr title message outcome).control [] := by
  by_cases hstage : dialog.stage = .running
  · rw [finish_control hstage]
    exact Step.finish hstage
  · rw [finish_ignored hstage]
    exact Step.idle

theorem done_step (dialog : RestoreDialog) (result : Int) :
    Step dialog.control (dialog.done result).control [] := by
  unfold done
  cases hstage : dialog.stage with
  | confirmation => exact Step.dismiss hstage result
  | running => exact Step.idle
  | finished =>
    have hclosed : Step dialog.control { dialog.control with closedWith := some result } [] :=
      Step.close hstage result
    rw [if_pos nofun, if_neg nofun]
    exact hclosed

/-- Where the erase button is enabled, confirming the restore is a step of the dialog. -/
theorem confirmRestore_step (dialog : RestoreDialog)
    (henabled : dialog.eraseButton.enabled = true) :
    Step dialog.control (dialog.confirmRestore tr).1.control (dialog.confirmRestore tr).2 := by
  unfold confirmRestore
  split
  · exact Step.idle
  · next hconfirmed =>
    push Not at hconfirmed
    obtain ⟨hstage, hticked⟩ := hconfirmed
    have hacknowledged : dialog.acknowledged = true := by simpa using hticked
    exact Step.confirm hstage hacknowledged henabled

/-- Every event of the dialog is a step of the machine. -/
theorem handle_step (tr : QString → QString) (dialog : RestoreDialog) (event : DialogEvent) :
    Step dialog.control (dialog.handle tr event).1.control (dialog.handle tr event).2 := by
  cases event with
  | toggled checked =>
    unfold handle toggle
    dsimp only
    split_ifs
    · exact Step.idle
    · exact Step.toggle checked
  | eraseClicked =>
    unfold handle click
    dsimp only
    split_ifs with henabled
    · exact confirmRestore_step dialog henabled
    · exact Step.idle
  | cancelClicked =>
    unfold handle click cancelClicked
    dsimp only
    split_ifs with henabled
    · cases hstage : dialog.stage with
      | confirmation => exact done_step dialog 0
      | running => exact Step.request hstage henabled
      | finished => exact Step.idle
    · exact Step.idle
  | doneClicked =>
    unfold handle click
    dsimp only
    split_ifs
    · exact done_step dialog 1
    · exact Step.idle
  | logClicked =>
    unfold handle click
    dsimp only
    split_ifs
    · exact Step.openLog
    · exact Step.idle
  | done result => exact done_step dialog result
  | setProgress step totalSteps message =>
    unfold handle
    dsimp only
    cases haccepted : (dialog.setProgress tr step totalSteps message).1 with
    | false =>
      rw [setProgress_refused haccepted]
      exact Step.idle
    | true => exact setProgress_step haccepted
  | setNotice message =>
    unfold handle setNotice
    dsimp only
    split_ifs
    · exact Step.idle
    · exact Step.idle
  | setCancelling =>
    unfold handle setCancelling
    dsimp only
    split_ifs with hrefused
    · exact Step.idle
    · push Not at hrefused
      exact Step.stop hrefused.1 hrefused.2.1
  | finishSuccess message => exact finish_step dialog _ message .complete
  | finishFailure message => exact finish_step dialog _ message .error
  | finishCancelled message => exact finish_step dialog _ message .cancelled

/-! ## Runs -/

/-- What every event keeps holds after any events. -/
theorem afterEvents_induction {P : RestoreDialog → Prop}
    (hstep : ∀ dialog event, P dialog → P (dialog.handle tr event).1) {dialog : RestoreDialog}
    (h : P dialog) (events : List DialogEvent) : P (dialog.afterEvents tr events) := by
  induction events generalizing dialog with
  | nil => exact h
  | cons event events ih => exact ih (hstep dialog event h)

/-- The invariant outlasts every list of events. -/
theorem invariant_afterEvents (tr : QString → QString) (plan : List RestoreStep)
    (events : List DialogEvent) :
    Invariant plan ((create tr plan).afterEvents tr events).control := by
  refine afterEvents_induction (P := fun dialog => Invariant plan dialog.control) ?_ ?_ events
  · exact fun dialog event h => h.step (handle_step tr dialog event)
  · rw [control_create]
    exact Invariant.create plan

/-- Away from the confirmation page nothing is confirmed any more. -/
theorem not_confirmed_again (tr : QString → QString) {dialog : RestoreDialog}
    (h : dialog.stage ≠ .confirmation) (events : List DialogEvent) :
    DialogSignal.restoreConfirmed ∉ dialog.emitted tr events := by
  induction events generalizing dialog with
  | nil => exact List.not_mem_nil
  | cons event events ih =>
    have hstep := handle_step tr dialog event
    rw [emitted, List.mem_append, not_or]
    exact ⟨fun hsignal => h (hstep.confirmed hsignal).2.1, ih (hstep.onward.left h)⟩

/-- However often the buttons are clicked, the restore is confirmed at most once. -/
theorem confirmed_once (dialog : RestoreDialog) (events : List DialogEvent) :
    (dialog.emitted tr events).count .restoreConfirmed ≤ 1 := by
  induction events generalizing dialog with
  | nil => exact Nat.zero_le 1
  | cons event events ih =>
    have hstep := handle_step tr dialog event
    rw [emitted, List.count_append]
    by_cases hsignal : DialogSignal.restoreConfirmed ∈ (dialog.handle tr event).2
    · obtain ⟨honly, -, -, hrunning⟩ := hstep.confirmed hsignal
      have hstage : (dialog.handle tr event).1.stage = .running := hrunning
      have hlater := not_confirmed_again tr (by rw [hstage]; exact nofun) events
      rw [honly, List.count_eq_zero_of_not_mem hlater]
      exact Nat.le_refl 1
    · rw [List.count_eq_zero_of_not_mem hsignal, Nat.zero_add]
      exact ih _

/-- With the cancel button disabled no cancellation is requested any more. -/
theorem not_requested_again {dialog : RestoreDialog} (h : dialog.cancelButton.enabled = false)
    (events : List DialogEvent) : DialogSignal.cancelRequested ∉ dialog.emitted tr events := by
  induction events generalizing dialog with
  | nil => exact List.not_mem_nil
  | cons event events ih =>
    have hstep := handle_step tr dialog event
    rw [emitted, List.mem_append, not_or]
    refine ⟨fun hsignal => ?_, ih (hstep.onward.canCancel h)⟩
    cases h.symm.trans (hstep.requested hsignal)

theorem step_le_afterEvents (tr : QString → QString) (dialog : RestoreDialog)
    (events : List DialogEvent) :
    dialog.step ≤ (dialog.afterEvents tr events).step := by
  refine afterEvents_induction (P := fun later => dialog.step ≤ later.step) ?_ (Nat.le_refl _)
    events
  intro later event h
  have honward := (handle_step tr later event).onward.step
  have hmore : later.step ≤ (later.handle tr event).1.step := by
    rcases honward with hsame | hnext
    · exact Nat.le_of_eq hsame.symm
    · exact Nat.le_of_lt (Nat.lt_of_succ_le (Nat.le_of_eq hnext.symm))
  exact h.trans hmore

/-! ## The outcome -/

/-- What the dialog shows of its outcome. -/
structure Shown where
  indicator : IndicatorState
  windowTitle : QString
  title : QString
  message : QString
  counter : QString
  notice : QString
  progress : Nat
  step : Nat
  rows : List StepRow

def shown (dialog : RestoreDialog) : Shown :=
  ⟨dialog.indicator, dialog.windowTitle, dialog.title, dialog.message, dialog.counter,
    dialog.notice, dialog.progress, dialog.step, dialog.rows⟩

/-- A finished dialog goes on showing what it shows. -/
theorem handle_shown {dialog : RestoreDialog} (h : dialog.stage = .finished) (event : DialogEvent) :
    (dialog.handle tr event).1.shown = dialog.shown := by
  have hnotRunning : dialog.stage ≠ .running := by rw [h]; exact nofun
  have hnotConfirmation : dialog.stage ≠ .confirmation := by rw [h]; exact nofun
  have hdone : ∀ result, (dialog.done result).shown = dialog.shown := by
    intro result
    unfold done
    rw [if_pos hnotRunning, if_neg hnotConfirmation]
    rfl
  cases event with
  | toggled checked =>
    unfold handle toggle
    dsimp only
    split_ifs
    · rfl
    · rfl
  | eraseClicked =>
    have hrefused : dialog.confirmRestore tr = (dialog, []) := if_pos (.inl hnotConfirmation)
    unfold handle click
    dsimp only
    rw [hrefused]
    split_ifs
    · rfl
    · rfl
  | cancelClicked =>
    unfold handle click cancelClicked
    dsimp only
    rw [h]
    split_ifs
    · rfl
    · rfl
  | doneClicked =>
    unfold handle click
    dsimp only
    split_ifs
    · exact hdone 1
    · rfl
  | logClicked =>
    unfold handle click
    dsimp only
    split_ifs
    · rfl
    · rfl
  | done result => exact hdone result
  | setProgress step totalSteps message =>
    unfold handle setProgress
    dsimp only
    rw [if_pos (.inl hnotRunning)]
  | setNotice message =>
    unfold handle setNotice
    dsimp only
    rw [if_neg fun hrunning => hnotRunning hrunning.1]
  | setCancelling =>
    unfold handle setCancelling
    dsimp only
    rw [if_pos (.inl hnotRunning)]
  | finishSuccess message => exact congrArg shown (finish_ignored hnotRunning _ message .complete)
  | finishFailure message => exact congrArg shown (finish_ignored hnotRunning _ message .error)
  | finishCancelled message => exact congrArg shown (finish_ignored hnotRunning _ message .cancelled)

/-- A finished dialog shows its result for good. -/
theorem afterEvents_shown {dialog : RestoreDialog} (h : dialog.stage = .finished)
    (events : List DialogEvent) :
    (dialog.afterEvents tr events).stage = .finished ∧
      (dialog.afterEvents tr events).shown = dialog.shown := by
  refine afterEvents_induction
    (P := fun later => later.stage = .finished ∧ later.shown = dialog.shown) ?_ ⟨h, rfl⟩ events
  intro later event hlater
  exact ⟨(handle_step tr later event).onward.finished hlater.1,
    (handle_shown hlater.1 event).trans hlater.2⟩

/-- The calls of the worker that end a restore. -/
def IsFinish : DialogEvent → Prop
  | .finishSuccess _ => True
  | .finishFailure _ => True
  | .finishCancelled _ => True
  | _ => False

/-- The first result finishes a running dialog, and does nothing to one that is still asking. -/
theorem finish_ends (dialog : RestoreDialog) (title message : QString) (outcome : Outcome) :
    (dialog.finish tr title message outcome).stage = .finished ∨
      dialog.stage = .confirmation ∧ dialog.finish tr title message outcome = dialog := by
  cases hstage : dialog.stage with
  | confirmation => exact .inr ⟨rfl, finish_ignored (by rw [hstage]; exact nofun) _ _ _⟩
  | finished =>
    rw [finish_ignored (by rw [hstage]; exact nofun)]
    exact .inl hstage
  | running =>
    exact .inl (congrArg DialogControl.stage (finish_control hstage title message outcome))

theorem handle_finish {event : DialogEvent} (h : IsFinish event) (dialog : RestoreDialog) :
    (dialog.handle tr event).1.stage = .finished ∨
      dialog.stage = .confirmation ∧ (dialog.handle tr event).1 = dialog := by
  cases event with
  | finishSuccess message => exact finish_ends dialog _ message .complete
  | finishFailure message => exact finish_ends dialog _ message .error
  | finishCancelled message => exact finish_ends dialog _ message .cancelled
  | toggled => cases h
  | eraseClicked => cases h
  | cancelClicked => cases h
  | doneClicked => cases h
  | logClicked => cases h
  | done => cases h
  | setProgress => cases h
  | setNotice => cases h
  | setCancelling => cases h

/-! ## The promises -/

/-- What a dialog keeps to, whatever happens to it. -/
structure KeepsPromises (tr : QString → QString) (plan : List RestoreStep) : Prop where
  confirmedOnce : ∀ events,
    ((create tr plan).emitted tr events).count .restoreConfirmed ≤ 1
  /-- from the confirmation page, the acknowledgement ticked, and the dialog never dismissed -/
  confirmedWhen : ∀ before event,
    DialogSignal.restoreConfirmed ∈ (((create tr plan).afterEvents tr before).handle tr event).2 →
      ((create tr plan).afterEvents tr before).stage = .confirmation ∧
        ((create tr plan).afterEvents tr before).acknowledged = true ∧
        ((create tr plan).afterEvents tr before).closedWith = none
  runningStaysOpen : ∀ before, ((create tr plan).afterEvents tr before).stage = .running →
    (∀ result, ((create tr plan).afterEvents tr before).done result =
      (create tr plan).afterEvents tr before) ∧
    ∀ event, (((create tr plan).afterEvents tr before).handle tr event).1.closedWith = none
  stepByOne : ∀ before event,
    (((create tr plan).afterEvents tr before).handle tr event).1.step =
        ((create tr plan).afterEvents tr before).step ∨
      (((create tr plan).afterEvents tr before).handle tr event).1.step =
        ((create tr plan).afterEvents tr before).step + 1
  stepInPlan : ∀ events, ((create tr plan).afterEvents tr events).step ≤ plan.length
  refusedProgress : ∀ before step totalSteps message,
    (((create tr plan).afterEvents tr before).setProgress tr step totalSteps message).1 = false →
      (((create tr plan).afterEvents tr before).setProgress tr step totalSteps message).2 =
        (create tr plan).afterEvents tr before
  noReturn : ∀ before later,
    firstDestructiveStepOf plan ≤ ((create tr plan).afterEvents tr before).step →
      DialogSignal.cancelRequested ∉ ((create tr plan).afterEvents tr before).emitted tr later ∧
        ((create tr plan).afterEvents tr (before ++ later)).cancelButton.enabled = false ∧
        ((create tr plan).afterEvents tr (before ++ later)).setCancelling tr =
          (create tr plan).afterEvents tr (before ++ later)
  /-- A call that finishes a restore settles what is shown; before the restore it is ignored. -/
  outcomeStands : ∀ before event later, IsFinish event →
    ((create tr plan).afterEvents tr before).stage = .confirmation ∧
        (((create tr plan).afterEvents tr before).handle tr event).1 =
          (create tr plan).afterEvents tr before ∨
      ((create tr plan).afterEvents tr (before ++ event :: later)).stage = .finished ∧
        ((create tr plan).afterEvents tr (before ++ event :: later)).shown =
          (((create tr plan).afterEvents tr before).handle tr event).1.shown

theorem restoreDialog_keepsPromises (tr : QString → QString) (plan : List RestoreStep) :
    KeepsPromises tr plan := by
  have hinvariant := fun events => invariant_afterEvents tr plan events
  have hstep := fun before event =>
    handle_step tr ((create tr plan).afterEvents tr before) event
  refine ⟨confirmed_once _, ?_, ?_, ?_, ?_, fun _ _ _ _ => setProgress_refused, ?_, ?_⟩
  · intro before event hsignal
    obtain ⟨-, hstage, hticked, -⟩ := (hstep before event).confirmed hsignal
    refine ⟨hstage, hticked, (hinvariant before).open_until_finished ?_⟩
    rw [hstage]
    exact nofun
  · intro before hstage
    have hopen := (hinvariant before).open_until_finished (by
      rw [show ((create tr plan).afterEvents tr before).control.stage = .running from hstage]
      exact nofun)
    refine ⟨fun result => if_neg (not_not.mpr hstage), fun event => ?_⟩
    exact ((hstep before event).onward.running hstage).trans hopen
  · exact fun before event => (hstep before event).onward.step
  · exact fun events => (hinvariant events).step_le
  · intro before later hreached
    have hdisabled := (hinvariant before).noReturn hreached
    have hlater := hreached.trans (step_le_afterEvents tr _ later)
    rw [← afterEvents_append] at hlater
    refine ⟨not_requested_again hdisabled later, (hinvariant _).noReturn hlater, if_pos ?_⟩
    have hfirst : ((create tr plan).afterEvents tr (before ++ later)).firstDestructiveStep =
        firstDestructiveStepOf plan := (hinvariant _).firstDestructiveStep
    rw [hfirst]
    exact .inr (.inl hlater)
  · intro before event later hfinish
    rw [afterEvents_append, afterEvents_cons]
    rcases handle_finish hfinish ((create tr plan).afterEvents tr before) with hended | hignored
    · exact .inr (afterEvents_shown hended later)
    · exact .inl hignored

end RestoreDialog

end UsbRestore
