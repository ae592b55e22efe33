-- SUMMARY: What the slots of the main window do to the restore, its dialog and the threads.
import UsbRestore.Gui.DialogControl
import UsbRestore.Gui.MainWindow

/-!
# The control of the main window

Five fields of the window decide what may happen to a restore. An input changes them in one of seven
ways, and only two of those ask anything of the worker.
-/

namespace UsbRestore

/-- The fields that decide. -/
structure WindowControl where
  running : Bool
  scanning : Bool
  restoreStep : Nat
  worker : Bool
  dialog : Option RequestDialog

def MainWindow.control (window : MainWindow) : WindowControl where
  running := window.restoreRunning
  scanning := window.scanning
  restoreStep := window.restoreStep
  worker := window.restoreWorker
  dialog := window.restoreDialog

/-- No dialog is on the screen. -/
def WindowControl.Hidden (control : WindowControl) : Prop :=
  ∀ shown, control.dialog = some shown → shown.dialog.closedWith.isSome = true

/-- Something is done to the dialog, if there is one. -/
def WindowControl.withDialog (control : WindowControl) (f : RestoreDialog → RestoreDialog) :
    WindowControl :=
  { control with
    dialog := control.dialog.map fun shown => { shown with dialog := f shown.dialog } }

/-- An effect on the worker. -/
def WindowEffect.onWorker : WindowEffect → Bool
  | .startWorker _ | .requestCancel => true
  | _ => false

/-- What some effects ask of the worker. -/
def workerEffects (effects : List WindowEffect) : List WindowEffect := effects.filter WindowEffect.onWorker

/-- The request has passed the checks of the window. -/
structure PassedChecks [Host] (service : DiskService) (request : RestoreRequest) : Prop where
  safe : ∃ installed, isSafeRestoreTarget request.disk request.guard (.display installed) = .ok ()
  layout : ∃ installed, canCreatePartitionLayout request.style request.disk (.display installed) = .ok ()
  fileSystem : ∃ installed, service.canFormatFileSystem installed request.fileSystem request.disk = .ok ()
  style : request.style ≠ .unknown
  label : request.volumeLabel = RestoreVolumeLabel

/-! ## Dialogs -/

namespace RestoreDialog

variable {tr : QString → QString}

/-- One event has one signal at most. -/
theorem handle_signals (tr : QString → QString) (dialog : RestoreDialog) (event : DialogEvent) :
    (dialog.handle tr event).2 = [] ∨ (dialog.handle tr event).2 = [.openLogRequested] ∨
    ((dialog.handle tr event).2 = [.restoreConfirmed] ∧ dialog.stage = .confirmation ∧
      dialog.acknowledged = true ∧ (dialog.handle tr event).1.stage = .running) ∨
    (dialog.handle tr event).2 = [.cancelRequested] := by
  have hstep := handle_step tr dialog event
  generalize hsignals : (dialog.handle tr event).2 = signals at hstep ⊢
  generalize hnext : (dialog.handle tr event).1.control = next at hstep ⊢
  have hstage : (dialog.handle tr event).1.stage = next.stage := by rw [← hnext]; rfl
  cases hstep with
  | idle => exact .inl rfl
  | openLog => exact .inr (.inl rfl)
  | toggle checked => exact .inl rfl
  | confirm stage ticked enabled => exact .inr (.inr (.inl ⟨rfl, stage, ticked, hstage⟩))
  | request stage enabled => exact .inr (.inr (.inr rfl))
  | advance stage more => exact .inl rfl
  | stop stage early => exact .inl rfl
  | finish stage => exact .inl rfl
  | dismiss stage result => exact .inl rfl
  | close stage result => exact .inl rfl

end RestoreDialog

/-! ## Slots -/

namespace MainWindow

variable [Host] (service : DiskService) (window : MainWindow)

/-- What is shown of the selection decides nothing. -/
@[simp] theorem control_updateRestoreState :
    (window.updateRestoreState service).control = window.control := by
  unfold updateRestoreState
  dsimp only
  split
  · rfl
  split
  · rfl
  split
  · rfl
  split
  · rfl
  split
  · rfl
  split
  · rfl
  split
  · rfl
  · rfl

/-- A scan is begun unless a scan or a restore is under way. -/
theorem refreshDisks_control :
    (window.refreshDisks service).1.control =
        (if window.restoreRunning || window.scanning then window.control
          else { window.control with scanning := true }) ∧
      workerEffects (window.refreshDisks service).2 = [] := by
  unfold refreshDisks
  split
  · exact ⟨rfl, rfl⟩
  · exact ⟨control_updateRestoreState service _, rfl⟩

theorem applyScan_control (disks : List DiskInfo) (error : RestoreMessage) (guard : RestoreGuard) :
    (window.applyScan service disks error guard).1.control = { window.control with scanning := false } ∧
      workerEffects (window.applyScan service disks error guard).2 = [] := by
  refine ⟨control_updateRestoreState service _, ?_⟩
  unfold applyScan
  dsimp only
  split
  · rfl
  · rfl

theorem setRunning_control (running : Bool) :
    (window.setRunning service running).control =
      { window.control with
        running
        restoreStep := if running then 0 else window.restoreStep
        worker := running && window.restoreWorker } := by
  cases running with
  | true => rfl
  | false =>
    unfold setRunning
    dsimp only
    rw [Bool.not_false, if_pos rfl, control_updateRestoreState]
    rfl

omit [Host] in
/-- A tick of the stall timer changes nothing but the notice in the dialog. -/
theorem onStallTick_control (seconds : Nat) :
    (window.onStallTick service seconds).control = window.control ∨
      ∃ notice, (window.onStallTick service seconds).control =
        (window.withDialog fun dialog => dialog.setNotice notice).control := by
  unfold onStallTick
  dsimp only
  split
  · exact .inl rfl
  split
  · split
    · exact .inr ⟨_, rfl⟩
    · exact .inl rfl
  split
  · exact .inr ⟨_, rfl⟩
  split
  · exact .inr ⟨_, rfl⟩
  · exact .inr ⟨_, rfl⟩

theorem retranslateUi_control : (window.retranslateUi service).control = window.control := by
  unfold retranslateUi
  dsimp only
  refine (control_updateRestoreState service _).trans ?_
  split
  · split
    · rfl
    · rfl
  · rfl

theorem cycleLanguage_control (texts : Translators) (language : Language) :
    (window.cycleLanguage service texts language).control = window.control := by
  unfold cycleLanguage
  split
  · rfl
  · exact retranslateUi_control service _

/-- The dialog that `startRestore` opens is one for an accepted request. -/
theorem startRestore_control :
    ((window.startRestore service).1.control = window.control ∨
      window.restoreRunning = false ∧ window.scanning = false ∧ window.dialogVisible = false ∧
        ∃ request tr, PassedChecks service request ∧
          (window.startRestore service).1.control = { window.control with
            dialog := some ⟨request, RestoreDialog.create tr service.restorePlan⟩ }) ∧
      workerEffects (window.startRestore service).2 = [] := by
  unfold startRestore
  split
  · exact ⟨.inl rfl, rfl⟩
  next hidle =>
  split
  · exact ⟨.inl rfl, rfl⟩
  next hhidden =>
  rw [Bool.or_eq_true, not_or, Bool.not_eq_true, Bool.not_eq_true] at hidle
  split
  · exact ⟨.inl rfl, rfl⟩
  next disk _ =>
  split
  · exact ⟨.inl rfl, rfl⟩
  next hsafe =>
  split
  · exact ⟨.inl rfl, rfl⟩
  next hconfiguration =>
  refine ⟨.inr ⟨hidle.1, hidle.2, by simpa using hhidden, _, _, ?_, rfl⟩, rfl⟩
  unfold configurationVerdict at hconfiguration
  split at hconfiguration
  · cases hconfiguration
  next hlayout =>
  split at hconfiguration
  · cases hconfiguration
  next hformat =>
  refine ⟨⟨_, hsafe⟩, ⟨_, hlayout⟩, ⟨_, hformat⟩, ?_, rfl⟩
  change window.selectedPartitionStyle ≠ .unknown
  unfold selectedPartitionStyle
  split
  · exact nofun
  · exact nofun

/-- A restore begins where none is running. -/
theorem beginRestore_control (request : RestoreRequest) (hidle : window.restoreRunning = false) :
    (window.beginRestore service request).1.control =
        { window.control with running := true, restoreStep := 0, worker := true } ∧
      workerEffects (window.beginRestore service request).2 = [.startWorker request] := by
  unfold beginRestore
  rw [hidle]
  exact ⟨rfl, rfl⟩

theorem beginRestore_ignored (request : RestoreRequest) (hrunning : window.restoreRunning = true) :
    window.beginRestore service request = (window, []) := if_pos hrunning

omit [Host] in
/-- A cancel is passed on to the worker only before the first destructive step of the plan. -/
theorem cancelRestore_control :
    ((window.cancelRestore service).1.control = window.control ∧
      workerEffects (window.cancelRestore service).2 = []) ∨
    (window.restoreRunning = true ∧ window.restoreStep < service.firstDestructiveStep ∧
      (window.cancelRestore service).1.control =
        (window.withDialog fun dialog => dialog.setCancelling window.texts.dialog).control ∧
      workerEffects (window.cancelRestore service).2 = [.requestCancel]) := by
  unfold cancelRestore
  split
  · exact .inl ⟨rfl, rfl⟩
  · next hcancels =>
    simp only [Bool.or_eq_true, Bool.not_eq_true', decide_eq_true_eq, not_or, Bool.not_eq_false,
      Nat.not_le] at hcancels
    exact .inr ⟨hcancels.1.1, hcancels.2, rfl, rfl⟩

/-- After the outcome the window scans again. -/
theorem ended_control :
    ((window.setRunning service false).refreshDisks service).1.control =
        { window.control with running := false, scanning := true, worker := false } ∧
      workerEffects ((window.setRunning service false).refreshDisks service).2 = [] := by
  have hset := setRunning_control service window false
  have hidle : (window.setRunning service false).restoreRunning = false :=
    congrArg WindowControl.running hset
  have hscanning : (window.setRunning service false).scanning = window.scanning :=
    congrArg WindowControl.scanning hset
  obtain ⟨hcontrol, heffects⟩ := refreshDisks_control service (window.setRunning service false)
  refine ⟨?_, heffects⟩
  rw [hcontrol, hidle, hscanning, hset]
  cases hbefore : window.scanning with
  | true => simp [control, hbefore]
  | false => rfl

/-! ### Signals of the worker -/

omit [Host] in
/-- Progress goes to the dialog, and the step is noted. -/
theorem onRestoreProgress_control (step totalSteps : Nat) (message : QString) :
    (window.onRestoreProgress step totalSteps message).1.control =
        { window.control.withDialog fun dialog =>
            (dialog.setProgress window.texts.dialog step totalSteps message).2 with
          restoreStep := step } ∧
      workerEffects (window.onRestoreProgress step totalSteps message).2 = [] := by
  unfold onRestoreProgress
  cases hshown : window.restoreDialog with
  | none =>
    refine ⟨?_, rfl⟩
    simp [control, WindowControl.withDialog, hshown]
  | some shown =>
    dsimp only
    refine ⟨?_, ?_⟩
    · simp [control, WindowControl.withDialog, hshown]
    · split
      · rfl
      · rfl

theorem onRestoreFailed_control (message : QString) :
    (window.onRestoreFailed service message).1.control =
        { window.control.withDialog fun dialog => dialog.finishFailure window.texts.dialog message with
          running := false, scanning := true, worker := false } ∧
      workerEffects (window.onRestoreFailed service message).2 = [] :=
  ended_control service _

theorem onRestoreFinished_control (location : QString) :
    ∃ message, (window.onRestoreFinished service location).1.control =
        { window.control.withDialog fun dialog => dialog.finishSuccess window.texts.dialog message with
          running := false, scanning := true, worker := false } ∧
      workerEffects (window.onRestoreFinished service location).2 = [] :=
  ⟨_, ended_control service _⟩

/-- A cancelled restore has ended: the dialog shows it, and the disks are scanned again. -/
theorem onRestoreCancelled_control :
    ∃ message, (window.onRestoreCancelled service).1.control =
        { window.control.withDialog fun dialog => dialog.finishCancelled window.texts.dialog message with
          running := false, scanning := true, worker := false } ∧
      workerEffects (window.onRestoreCancelled service).2 = [] := by
  let message := window.texts.window (QStringLiteral "The restore stopped before erasing the disk.")
  obtain ⟨hcontrol, heffects⟩ := ended_control service
    (window.withDialog fun dialog => dialog.finishCancelled window.texts.dialog message)
  exact ⟨message, hcontrol, heffects⟩

end MainWindow

end UsbRestore
