-- SUMMARY: The widgets of the main window always agree with its state; an enabled button is not refused.
import UsbRestore.Gui.ApplicationPromises

/-!
# The widgets of the main window

The button, the boxes and the status line are set in many slots. In every state the application comes to
they are what the state of the restore, the scan and the selection ask for.
-/

namespace UsbRestore

namespace MainWindow

variable [Host] (service : DiskService)

/-- The selection can be changed. -/
def selectable (window : MainWindow) : Bool :=
  !window.restoreRunning && !window.scanning && window.scanError.english.isEmpty &&
    window.selectedDisk.isSome

/-- The selected disk may be restored as it is set up. -/
def ready (window : MainWindow) : Bool :=
  !window.restoreRunning && !window.scanning && window.scanError.english.isEmpty &&
    match window.selectedDisk with
    | none => false
    | some disk =>
      (isSafeRestoreTarget disk window.guard window.mode).isOk &&
        (window.configurationVerdict service disk).isOk

/-- What the status line is about. -/
def expectedStatus (window : MainWindow) : StatusKind :=
  if window.restoreRunning then .running
  else if window.scanning then .info
  else if !window.scanError.english.isEmpty then .error
  else
    match window.selectedDisk with
    | none => .info
    | some disk =>
      if !window.ready service then .blocked
      else if (largeRestoreTargetWarning disk window.mode).isEmpty then .ready else .warning

/-- Every widget is as the state asks for. -/
structure Agrees (window : MainWindow) : Prop where
  restore : window.restoreEnabled = window.ready service
  style : window.styleEnabled = window.selectable
  fileSystem : window.fileSystemEnabled = window.selectable
  status : window.statusKind = window.expectedStatus service
  refresh : window.refreshEnabled = (!window.restoreRunning && !window.scanning)
  diskList : window.diskListEnabled = (!window.restoreRunning && !window.scanning)
  language : window.languageEnabled = !window.restoreRunning

variable {service} {window : MainWindow}

/-- The widgets that a new verdict on the selection does not set. -/
structure Unlocked (window : MainWindow) : Prop where
  idle : window.restoreRunning = false
  refresh : window.refreshEnabled = !window.scanning
  diskList : window.diskListEnabled = !window.scanning
  language : window.languageEnabled = true

/-- The widgets are set from the state that they are to agree with. -/
theorem updateRestoreState_agrees (h : window.Unlocked) :
    Agrees service (window.updateRestoreState service) := by
  obtain ⟨hidle, hrefresh, hlist, hlanguage⟩ := h
  replace hrefresh : window.refreshEnabled = (!window.restoreRunning && !window.scanning) := by
    rw [hidle]
    exact hrefresh
  replace hlist : window.diskListEnabled = (!window.restoreRunning && !window.scanning) := by
    rw [hidle]
    exact hlist
  replace hlanguage : window.languageEnabled = !window.restoreRunning := by
    rw [hidle]
    exact hlanguage
  unfold updateRestoreState
  dsimp only
  rw [if_neg (by rw [hidle]; exact Bool.false_ne_true)]
  split
  · next hscanning =>
    have hready : window.ready service = false := by simp [ready, hscanning]
    have hselectable : window.selectable = false := by simp [selectable, hscanning]
    have hstatus : window.expectedStatus service = .info := by simp [expectedStatus, hidle, hscanning]
    exact ⟨hready.symm, hselectable.symm, hselectable.symm, hstatus.symm, hrefresh, hlist, hlanguage⟩
  next hscanned =>
  split
  · next herror =>
    have hready : window.ready service = false := by simp [ready, (Bool.not_eq_true' _).mp herror]
    have hselectable : window.selectable = false := by
      simp [selectable, (Bool.not_eq_true' _).mp herror]
    have hstatus : window.expectedStatus service = .error := by
      unfold expectedStatus
      rw [hidle, if_neg Bool.false_ne_true, if_neg hscanned, if_pos herror]
    exact ⟨hready.symm, hselectable.symm, hselectable.symm, hstatus.symm, hrefresh, hlist, hlanguage⟩
  next hlisted =>
  have hempty : window.scanError.english.isEmpty = true := by simpa using hlisted
  rw [Bool.not_eq_true] at hscanned
  split
  · next hnone =>
    have hdisk : window.selectedDisk = none := hnone
    have hready : window.ready service = false := by simp [ready, hdisk]
    have hselectable : window.selectable = false := by simp [selectable, hdisk]
    have hstatus : window.expectedStatus service = .info := by
      simp [expectedStatus, hidle, hscanned, hempty, hdisk]
    exact ⟨hready.symm, hselectable.symm, hselectable.symm, hstatus.symm, hrefresh, hlist, hlanguage⟩
  next disk hsome =>
  have hdisk : window.selectedDisk = some disk := hsome
  have hselectable : window.selectable = true := by simp [selectable, hidle, hscanned, hempty, hdisk]
  have hblocked : window.ready service = false → window.expectedStatus service = .blocked := by
    intro hready
    simp [expectedStatus, hidle, hscanned, hempty, hdisk, hready]
  split
  · next reason hunsafe =>
    have hverdict : isSafeRestoreTarget disk window.guard window.mode = .error reason := hunsafe
    have hready : window.ready service = false := by simp [ready, hdisk, hverdict, Except.isOk, Except.toBool]
    exact ⟨hready.symm, hselectable.symm, hselectable.symm, (hblocked hready).symm, hrefresh, hlist,
      hlanguage⟩
  next hsafe =>
  have hverdict : isSafeRestoreTarget disk window.guard window.mode = .ok () := hsafe
  split
  · next reason hrefused =>
    have hconfiguration : window.configurationVerdict service disk = .error reason := hrefused
    have hready : window.ready service = false := by
      simp [ready, hdisk, hconfiguration, Except.isOk, Except.toBool]
    exact ⟨hready.symm, hselectable.symm, hselectable.symm, (hblocked hready).symm, hrefresh, hlist,
      hlanguage⟩
  next hcreatable =>
  have hconfiguration : window.configurationVerdict service disk = .ok () := hcreatable
  have hready : window.ready service = true := by
    simp [ready, hidle, hscanned, hempty, hdisk, hverdict, hconfiguration, Except.isOk, Except.toBool]
  split
  · next hlarge =>
    have hwarning : (largeRestoreTargetWarning disk window.mode).isEmpty = false :=
      (Bool.not_eq_true' _).mp hlarge
    have hstatus : window.expectedStatus service = .warning := by
      simp [expectedStatus, hidle, hscanned, hempty, hdisk, hready, hwarning]
    exact ⟨hready.symm, hselectable.symm, hselectable.symm, hstatus.symm, hrefresh, hlist, hlanguage⟩
  · next hsmall =>
    have hwarning : (largeRestoreTargetWarning disk window.mode).isEmpty = true := by
      have hempty : ¬(!(largeRestoreTargetWarning disk window.mode).isEmpty) = true := hsmall
      rwa [Bool.not_eq_true, Bool.not_eq_false'] at hempty
    have hstatus : window.expectedStatus service = .ready := by
      simp [expectedStatus, hidle, hscanned, hempty, hdisk, hready, hwarning]
    exact ⟨hready.symm, hselectable.symm, hselectable.symm, hstatus.symm, hrefresh, hlist, hlanguage⟩

/-! ## Slots -/

theorem Agrees.unlocked (h : Agrees service window) (hidle : window.restoreRunning = false) :
    window.Unlocked := by
  refine ⟨hidle, ?_, ?_, ?_⟩
  · rw [h.refresh, hidle]
    rfl
  · rw [h.diskList, hidle]
    rfl
  · rw [h.language, hidle]
    rfl

/-- The dialog and the progress of a restore have no say in the widgets. -/
theorem Agrees.frame (h : Agrees service window) (dialog : Option RequestDialog) (step : Nat)
    (notice : Bool) :
    Agrees service { window with
      restoreDialog := dialog, restoreStep := step, stallNoticeShown := notice } :=
  ⟨h.restore, h.style, h.fileSystem, h.status, h.refresh, h.diskList, h.language⟩

/-- What happens in the dialog alone changes no widget of the window. -/
theorem Agrees.withDialog (h : Agrees service window) (f : RestoreDialog → RestoreDialog) :
    Agrees service (window.withDialog f) :=
  h.frame (window.withDialog f).restoreDialog window.restoreStep window.stallNoticeShown

theorem refreshDisks_agrees (h : Agrees service window) :
    Agrees service (window.refreshDisks service).1 := by
  unfold refreshDisks
  split
  · exact h
  · next hidle =>
    rw [Bool.or_eq_true, not_or, Bool.not_eq_true, Bool.not_eq_true] at hidle
    exact updateRestoreState_agrees ⟨hidle.1, rfl, rfl, (h.unlocked hidle.1).language⟩

theorem applyScan_agrees (h : Agrees service window) (hidle : window.restoreRunning = false)
    (disks : List DiskInfo) (error : RestoreMessage) (guard : RestoreGuard) :
    Agrees service (window.applyScan service disks error guard).1 := by
  have henabled : (!window.restoreRunning) = true := by rw [hidle, Bool.not_false]
  exact updateRestoreState_agrees ⟨hidle, henabled, henabled, (h.unlocked hidle).language⟩

theorem startRestore_agrees (h : Agrees service window) :
    Agrees service (window.startRestore service).1 := by
  unfold startRestore
  split
  · exact h
  split
  · exact h
  split
  · exact h
  split
  · exact h
  split
  · exact h
  · exact h.frame _ window.restoreStep window.stallNoticeShown

/-- Nothing can be set while a restore is under way, whatever could be before. -/
theorem beginRestore_agrees (h : Agrees service window) (request : RestoreRequest) :
    Agrees service (window.beginRestore service request).1 := by
  unfold beginRestore
  split
  · exact h
  · exact ⟨rfl, rfl, rfl, rfl, rfl, rfl, rfl⟩

theorem cancelRestore_agrees (h : Agrees service window) :
    Agrees service (window.cancelRestore service).1 := by
  unfold cancelRestore
  split
  · exact h
  · exact h.withDialog _

theorem onRestoreProgress_agrees (h : Agrees service window) (step totalSteps : Nat)
    (message : QString) :
    Agrees service (window.onRestoreProgress step totalSteps message).1 := by
  unfold onRestoreProgress
  dsimp only
  split
  · exact h.frame window.restoreDialog step false
  · exact h.frame _ step false

theorem onStallTick_agrees (h : Agrees service window) (seconds : Nat) :
    Agrees service (window.onStallTick service seconds) := by
  have hnotice := fun notice => h.frame window.restoreDialog window.restoreStep notice
  unfold onStallTick
  dsimp only
  split
  · exact h
  split
  · split
    · exact (hnotice false).withDialog _
    · exact h
  split
  · exact (hnotice true).withDialog _
  split
  · exact (hnotice true).withDialog _
  · exact (hnotice true).withDialog _

theorem onDialogSignals_agrees (request : RestoreRequest) (signals : List DialogSignal)
    (h : Agrees service window) :
    Agrees service (window.onDialogSignals service request signals).1 := by
  induction signals generalizing window with
  | nil => exact h
  | cons signal signals ih =>
    cases signal with
    | restoreConfirmed => exact ih (beginRestore_agrees h request)
    | cancelRequested => exact ih (cancelRestore_agrees h)
    | openLogRequested => exact ih h

/-- Whatever the user does in the dialog, the widgets of the window agree with its state. -/
theorem onDialogEvent_agrees (h : Agrees service window) (event : DialogEvent) :
    Agrees service (window.onDialogEvent service event).1 := by
  unfold onDialogEvent
  split
  · exact h
  · exact onDialogSignals_agrees _ _ (h.frame _ window.restoreStep window.stallNoticeShown)

/-- The end of a restore unlocks the window, and the scan that follows locks it again. -/
theorem ended_agrees (window : MainWindow) (hunscanned : window.scanning = false) :
    Agrees service ((window.setRunning service false).refreshDisks service).1 := by
  apply refreshDisks_agrees
  have henabled : true = !window.scanning := (congrArg not hunscanned).symm
  unfold setRunning
  dsimp only
  rw [Bool.not_false, if_pos rfl]
  exact updateRestoreState_agrees ⟨rfl, henabled, henabled, rfl⟩

/-- Whatever the worker says, the widgets of the window agree with its state. -/
theorem onSignal_agrees (h : Agrees service window) (hunscanned : window.scanning = false)
    (signal : WorkerSignal) : Agrees service (window.onSignal service signal).1 := by
  cases signal with
  | progress step totalSteps message => exact onRestoreProgress_agrees h step totalSteps message
  | logMessage message => exact h
  | logFileOnly message => exact h
  | failed message => exact ended_agrees (window.withDialog _) hunscanned
  | cancelled => exact ended_agrees (window.withDialog _) hunscanned
  | finished location => exact ended_agrees (window.withDialog _) hunscanned

/-- The texts change with the language, and the widgets stay in agreement. -/
theorem cycleLanguage_agrees (h : Agrees service window) (texts : Translators) (language : Language) :
    Agrees service (window.cycleLanguage service texts language) := by
  unfold cycleLanguage
  split
  · exact h
  · next hidle =>
    obtain ⟨hidle', hrefresh, hlist, hlanguage⟩ := h.unlocked ((Bool.not_eq_true _).mp hidle)
    unfold retranslateUi
    dsimp only
    refine updateRestoreState_agrees ?_
    split
    · split
      · exact ⟨hidle', hrefresh, hlist, hlanguage⟩
      · exact ⟨hidle', hrefresh, hlist, hlanguage⟩
    · exact ⟨hidle', hrefresh, hlist, hlanguage⟩

/-- Another choice can be made while none is under way. -/
theorem Agrees.choose (h : Agrees service window) (hidle : window.restoreRunning = false)
    (row : Option Nat) (style : PartitionStyle) (fileSystem : FileSystemType) :
    Agrees service ({ window with currentRow := row, style, fileSystem }.updateRestoreState service) := by
  obtain ⟨-, hrefresh, hlist, hlanguage⟩ := h.unlocked hidle
  exact updateRestoreState_agrees ⟨hidle, hrefresh, hlist, hlanguage⟩

omit [Host] in
theorem idle_of_selectable (h : window.selectable = true) : window.restoreRunning = false := by
  unfold selectable at h
  rw [Bool.and_eq_true, Bool.and_eq_true, Bool.and_eq_true, Bool.not_eq_true'] at h
  exact h.1.1.1

/-- While a restore is under way the window is not told of scans, as none is made. -/
theorem handle_agrees (h : Agrees service window)
    (hexclusive : ¬(window.restoreRunning = true ∧ window.scanning = true)) {event : WindowEvent}
    (hreaches : window.reaches event = true) : Agrees service (window.handle service event).1 := by
  cases event with
  | refresh shortcut => exact refreshDisks_agrees h
  | rowSelected row =>
    unfold reaches at hreaches
    rw [Bool.and_eq_true, Bool.and_eq_true, h.diskList, Bool.and_eq_true, Bool.not_eq_true',
      Bool.not_eq_true'] at hreaches
    exact h.choose hreaches.1.2.1 (some row) window.style window.fileSystem
  | styleSelected style =>
    unfold reaches at hreaches
    rw [Bool.and_eq_true, h.style] at hreaches
    exact h.choose (idle_of_selectable hreaches.2) window.currentRow style window.fileSystem
  | fileSystemSelected fileSystem =>
    unfold reaches at hreaches
    rw [Bool.and_eq_true, h.fileSystem] at hreaches
    exact h.choose (idle_of_selectable hreaches.2) window.currentRow window.style fileSystem
  | restoreClicked => exact startRestore_agrees h
  | languageClicked texts language => exact cycleLanguage_agrees h texts language
  | refusalClosed =>
    cases hrunning : window.restoreRunning with
    | false => exact updateRestoreState_agrees (h.unlocked hrunning)
    | true =>
      rw [show (window.handle service .refusalClosed).1 = window from if_pos hrunning]
      exact h
  | scanFinished disks error guard =>
    have hidle : window.restoreRunning = false :=
      (Bool.not_eq_true _).mp fun hrunning => hexclusive ⟨hrunning, hreaches⟩
    exact applyScan_agrees h hidle disks error guard
  | stallTick seconds => exact onStallTick_agrees h seconds
  | dialog event => exact onDialogEvent_agrees h event

/-! ## The button -/

/-- What the button opens: a confirmation of what is selected. -/
structure Opens (window : MainWindow) (service : DiskService) (disk : DiskInfo) (shown : RequestDialog) :
    Prop where
  selected : window.selectedDisk = some disk
  request : shown.request =
    { disk
      style := window.selectedPartitionStyle
      fileSystem := window.selectedFileSystem
      volumeLabel := RestoreVolumeLabel
      guard := window.guard
      displayLanguage := window.language }
  dialog : shown.dialog = RestoreDialog.create window.texts.dialog service.restorePlan
  opened : window.startRestore service = ({ window with restoreDialog := some shown }, [])

/-- An enabled button opens the dialog. -/
theorem startRestore_opens (h : Agrees service window) (hidden : window.dialogVisible = false)
    (henabled : window.restoreEnabled = true) : ∃ disk shown, window.Opens service disk shown := by
  rw [h.restore] at henabled
  unfold ready at henabled
  rw [Bool.and_eq_true, Bool.and_eq_true, Bool.and_eq_true, Bool.not_eq_true', Bool.not_eq_true'] at henabled
  obtain ⟨⟨⟨hidle, hscanned⟩, -⟩, hready⟩ := henabled
  cases hdisk : window.selectedDisk with
  | none =>
    rw [hdisk] at hready
    cases hready
  | some disk =>
    rw [hdisk] at hready
    dsimp only at hready
    rw [Bool.and_eq_true] at hready
    cases hsafe : isSafeRestoreTarget disk window.guard window.mode with
    | error reason =>
      rw [hsafe] at hready
      cases hready.1
    | ok accepted =>
      cases hconfiguration : window.configurationVerdict service disk with
      | error reason =>
        rw [hconfiguration] at hready
        cases hready.2
      | ok creatable =>
        refine ⟨disk, ⟨_, _⟩, hdisk, rfl, rfl, ?_⟩
        unfold startRestore
        rw [hidle, hscanned, hidden, hdisk]
        dsimp only
        rw [hsafe]
        dsimp only
        rw [hconfiguration]
        rfl

/-- A dialog opens for a request that has passed every check. -/
theorem Opens.passedChecks {disk : DiskInfo} {shown : RequestDialog}
    (h : window.Opens service disk shown) (hidden : window.dialogVisible = false) :
    PassedChecks service shown.request := by
  obtain ⟨hcontrol | ⟨-, -, -, request, tr, hchecks, hcontrol⟩, -⟩ := startRestore_control service window
  · -- The dialog that was there before is closed, the new one is not.
    have hsame : window.restoreDialog = some shown := by
      rw [h.opened] at hcontrol
      exact (congrArg WindowControl.dialog hcontrol).symm
    unfold dialogVisible at hidden
    rw [hsame] at hidden
    dsimp only at hidden
    rw [h.dialog] at hidden
    cases hidden
  · rw [h.opened] at hcontrol
    have hshown : some shown = some ⟨request, RestoreDialog.create tr service.restorePlan⟩ :=
      congrArg WindowControl.dialog hcontrol
    rw [Option.some.inj hshown]
    exact hchecks

/-! ## Refusals -/

/-- No box tells of a refusal. -/
def Unrefused (effects : List WindowEffect) : Prop := ∀ reason, .refuse reason ∉ effects

omit [Host] in
theorem unrefused_nil : Unrefused [] := fun _ => List.not_mem_nil

theorem refreshDisks_unrefused (window : MainWindow) : Unrefused (window.refreshDisks service).2 := by
  unfold refreshDisks
  split
  · exact unrefused_nil
  · intro reason
    simp

theorem onDialogSignals_unrefused (window : MainWindow) (request : RestoreRequest)
    (signals : List DialogSignal) : Unrefused (window.onDialogSignals service request signals).2 := by
  induction signals generalizing window with
  | nil => exact unrefused_nil
  | cons signal signals ih =>
    intro reason hrefused
    rcases List.mem_append.mp hrefused with hfirst | hlater
    · cases signal with
      | restoreConfirmed =>
        dsimp only [onDialogSignal] at hfirst
        unfold beginRestore at hfirst
        split at hfirst
        · cases hfirst
        · simp at hfirst
      | cancelRequested =>
        dsimp only [onDialogSignal] at hfirst
        unfold cancelRestore at hfirst
        split at hfirst
        · cases hfirst
        · simp at hfirst
      | openLogRequested =>
        simp at hfirst
    · exact ih _ reason hlater

/-- What the user can do is not refused. -/
theorem handle_unrefused (h : Agrees service window) {event : WindowEvent}
    (hreaches : window.reaches event = true) : Unrefused (window.handle service event).2 := by
  cases event with
  | refresh shortcut => exact refreshDisks_unrefused window
  | restoreClicked =>
    unfold reaches at hreaches
    rw [Bool.and_eq_true, Bool.not_eq_true'] at hreaches
    obtain ⟨disk, shown, hopens⟩ := startRestore_opens h hreaches.1 hreaches.2
    rw [show window.handle service .restoreClicked = _ from hopens.opened]
    exact unrefused_nil
  | scanFinished disks error guard =>
    intro reason
    unfold handle applyScan
    dsimp only
    split
    · simp
    · exact List.not_mem_nil
  | dialog event =>
    unfold handle onDialogEvent
    dsimp only
    split
    · exact unrefused_nil
    · exact onDialogSignals_unrefused _ _ _
  | rowSelected row => exact unrefused_nil
  | styleSelected style => exact unrefused_nil
  | fileSystemSelected fileSystem => exact unrefused_nil
  | languageClicked texts language => exact unrefused_nil
  | refusalClosed => exact unrefused_nil
  | stallTick seconds => exact unrefused_nil

/-! ## While a restore is under way -/

/-- What a restore is made of, but for the dialog. -/
structure Selection where
  disks : List DiskInfo
  guard : RestoreGuard
  currentRow : Option Nat
  style : PartitionStyle
  fileSystem : FileSystemType
  language : Language

def selection (window : MainWindow) : Selection where
  disks := window.disks
  guard := window.guard
  currentRow := window.currentRow
  style := window.style
  fileSystem := window.fileSystem
  language := window.language

theorem onDialogSignals_selection (window : MainWindow) (request : RestoreRequest)
    (signals : List DialogSignal) :
    (window.onDialogSignals service request signals).1.selection = window.selection := by
  induction signals generalizing window with
  | nil => rfl
  | cons signal signals ih =>
    refine (ih _).trans ?_
    cases signal with
    | restoreConfirmed =>
      dsimp only [onDialogSignal]
      unfold beginRestore
      split
      · rfl
      · rfl
    | cancelRequested =>
      dsimp only [onDialogSignal]
      unfold cancelRestore
      split
      · rfl
      · rfl
    | openLogRequested => rfl

omit [Host] in
theorem onStallTick_selection (window : MainWindow) (seconds : Nat) :
    (window.onStallTick service seconds).selection = window.selection := by
  unfold onStallTick
  dsimp only
  split
  · rfl
  split
  · split
    · rfl
    · rfl
  split
  · rfl
  split
  · rfl
  · rfl

/-- Nothing that reaches the window changes what was selected. -/
theorem handle_frozen (h : Agrees service window) (hrunning : window.restoreRunning = true)
    (hexclusive : ¬(window.restoreRunning = true ∧ window.scanning = true)) {event : WindowEvent}
    (hreaches : window.reaches event = true) :
    (window.handle service event).1.selection = window.selection := by
  have hunselectable : window.selectable ≠ true := fun hselectable => by
    cases (idle_of_selectable hselectable).symm.trans hrunning
  cases event with
  | refresh shortcut =>
    unfold handle refreshDisks
    dsimp only
    rw [hrunning, Bool.true_or, if_pos rfl]
  | rowSelected row =>
    unfold reaches at hreaches
    rw [h.diskList, hrunning] at hreaches
    simp at hreaches
  | styleSelected style =>
    unfold reaches at hreaches
    rw [Bool.and_eq_true, h.style] at hreaches
    exact absurd hreaches.2 hunselectable
  | fileSystemSelected fileSystem =>
    unfold reaches at hreaches
    rw [Bool.and_eq_true, h.fileSystem] at hreaches
    exact absurd hreaches.2 hunselectable
  | restoreClicked =>
    unfold handle startRestore
    dsimp only
    rw [hrunning, Bool.true_or, if_pos rfl]
  | languageClicked texts language =>
    rw [show (window.handle service (.languageClicked texts language)).1 = window from if_pos hrunning]
  | refusalClosed =>
    rw [show (window.handle service .refusalClosed).1 = window from if_pos hrunning]
  | scanFinished disks error guard => exact absurd ⟨hrunning, hreaches⟩ hexclusive
  | stallTick seconds => exact onStallTick_selection window seconds
  | dialog event =>
    unfold handle onDialogEvent
    dsimp only
    split
    · rfl
    · exact onDialogSignals_selection _ _ _

end MainWindow

/-! ## Every state -/

namespace Application

variable [Host] {service : DiskService} {app : Application service}

/-- What the widgets let the user do. -/
structure WidgetsAgree (app : Application service) : Prop where
  agrees : app.window.Agrees service
  /-- The button opens a confirmation of what is selected, which passes every check. -/
  opens : app.window.reaches .restoreClicked = true → ∃ disk shown,
    app.window.Opens service disk shown ∧ PassedChecks service shown.request
  unrefused : ∀ event, app.window.reaches event = true →
    MainWindow.Unrefused (app.window.handle service event).2
  frozen : app.window.restoreRunning = true → ∀ event, app.window.reaches event = true →
    (app.window.handle service event).1.selection = app.window.selection

omit [Host] in
/-- What a slot asks for is no matter of the window. -/
theorem perform_window (app : Application service) (slot : MainWindow × List WindowEffect) :
    (app.perform slot).window = slot.1 := by
  unfold perform
  generalize hbefore : ({ app with window := slot.1 } : Application service) = before
  have hwindow : before.window = slot.1 := by rw [← hbefore]
  clear hbefore
  induction slot.2 generalizing before with
  | nil => exact hwindow
  | cons effect effects ih =>
    refine ih (before.performEffect effect) ?_
    cases effect <;> exact hwindow

theorem agrees_start (texts : Translators) (language : Language) (style : PartitionStyle)
    (fileSystem : FileSystemType) :
    (start texts language style fileSystem : Application service).window.Agrees service := by
  unfold start MainWindow.create MainWindow.refreshDisks
  rw [perform_window, if_neg (by exact Bool.false_ne_true)]
  dsimp only
  apply MainWindow.updateRestoreState_agrees
  exact ⟨rfl, rfl, rfl, rfl⟩

theorem Reachable.exclusive (h : app.Reachable) :
    ¬(app.window.restoreRunning = true ∧ app.window.scanning = true) := by
  rintro ⟨hrunning, hscanning⟩
  obtain ⟨worker, shown, delivered, hunder⟩ := h.invariant.underway hrunning
  cases hunder.unscanned.symm.trans hscanning

/-- Every step of the application (the user, the worker, the scan) keeps the widgets in agreement
with the state. -/
theorem act_agrees (h : app.Reachable) (hagrees : app.window.Agrees service)
    {next : ApplicationStep service} {app' : Application service} (hacts : app.act next = some app') :
    app'.window.Agrees service := by
  cases next with
  | event event =>
    unfold act at hacts
    dsimp only at hacts
    split at hacts
    · next hreaches =>
      rw [Bool.and_eq_true] at hreaches
      cases hacts
      rw [perform_window]
      exact MainWindow.handle_agrees hagrees h.exclusive hreaches.2
    · cases hacts
  | deliver =>
    unfold act at hacts
    dsimp only at hacts
    cases hqueue : app.queue with
    | nil =>
      rw [hqueue] at hacts
      cases hacts
    | cons signal queue =>
      rw [hqueue] at hacts
      dsimp only at hacts
      split at hacts
      · cases hacts
      · cases hacts
        rw [perform_window]
        -- A signal comes from a restore that is under way.
        obtain ⟨hrunning, worker, shown, delivered, hunder⟩ := h.invariant.signalled hqueue
        exact MainWindow.onSignal_agrees hagrees hunder.unscanned signal
  | turn index now answer =>
    unfold act at hacts
    dsimp only at hacts
    cases hworker : app.workers[index]? with
    | none =>
      rw [hworker] at hacts
      cases hacts
    | some worker =>
      rw [hworker] at hacts
      obtain ⟨turned, hturned, happ⟩ := Option.map_eq_some_iff.mp hacts
      cases happ
      exact hagrees
  | close =>
    unfold act at hacts
    dsimp only at hacts
    split at hacts
    · cases hacts
    · split at hacts
      · cases hacts
        exact hagrees
      · cases hacts
        exact hagrees

/-- In every reachable state the widgets agree with the state. -/
theorem Reachable.agrees (h : app.Reachable) : app.window.Agrees service := by
  induction h with
  | start texts language style fileSystem => exact agrees_start texts language style fileSystem
  | step before next acts ih => exact act_agrees before ih acts

/-- In every state the application comes to, with whatever backend. -/
theorem reachable_widgetsAgree (h : app.Reachable) : app.WidgetsAgree where
  agrees := h.agrees
  opens := fun hreaches => by
    unfold MainWindow.reaches at hreaches
    rw [Bool.and_eq_true, Bool.not_eq_true'] at hreaches
    obtain ⟨disk, shown, hopens⟩ := MainWindow.startRestore_opens h.agrees hreaches.1 hreaches.2
    exact ⟨disk, shown, hopens, hopens.passedChecks hreaches.1⟩
  unrefused := fun event hreaches => MainWindow.handle_unrefused h.agrees hreaches
  frozen := fun hrunning event hreaches =>
    MainWindow.handle_frozen h.agrees hrunning h.exclusive hreaches

end Application

end UsbRestore
