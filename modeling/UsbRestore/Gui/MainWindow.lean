-- SUMMARY: The main window: scans, selection, checks, and the restore it begins and follows.
import UsbRestore.Gui.RestoreDialog
import UsbRestore.Platform.WorkerThread

/-!
# The main window

The slots of the window, each with what it does to the threads and the log besides. A message box ends
an event: what follows it in the source is an event of its own. The labels that only describe a disk,
the theme, the settings file and the drawing are left out.
-/

namespace UsbRestore

/-! ## Texts -/

def LargeRestoreTargetBytes : UInt64 := 128 * 1024 * 1024 * 1024

def isLargeRestoreTarget (disk : DiskInfo) : Bool := LargeRestoreTargetBytes ≤ disk.size

def largeRestoreTargetWarning [Host] (disk : DiskInfo) (mode : TextMode) : QString :=
  if !isLargeRestoreTarget disk then []
  else
    (coreText (QStringLiteral "Large USB disk: %1. Make sure this is not an external SSD or HDD with data you need.") mode).arg
      [formatByteSize disk.size mode]

def describeDisk [Host] (disk : DiskInfo) (mode : TextMode) : QString :=
  let name :=
    if disk.name.trimmed.isEmpty then coreText (QStringLiteral "USB disk") mode else disk.name.trimmed
  (QStringLiteral "%1 — %2 (%3)").arg [disk.shownId, name, formatByteSize disk.size mode]

def joinOrDash (values : List QString) : QString :=
  if values.isEmpty then QStringLiteral "—" else (QStringLiteral ", ").intercalate values

/-- What the installed translator makes of the texts of the core, of the window and of its dialog. -/
structure Translators where
  installed : Catalog
  window : QString → QString
  dialog : QString → QString

inductive StatusKind where
  | info
  | ready
  | warning
  | blocked
  | running
  | error
  deriving DecidableEq

def statusBadgePrefix : StatusKind → QString
  | .error => QStringLiteral "✗ "
  | .warning | .blocked => QStringLiteral "⚠ "
  | .running => QStringLiteral "• "
  | .ready | .info => []

/-! ## The window -/

def RestoreVolumeLabel : QString := QStringLiteral "USB"

def StallCountSeconds : Nat := 15

def StallExplainSeconds : Nat := 60

/-- A restore dialog, and the request that its confirmation begins. -/
structure RequestDialog where
  request : RestoreRequest
  dialog : RestoreDialog

/-- `MainWindow`. A widget is given by its `enabled` state, a combo box by the data of its current item. -/
structure MainWindow where
  texts : Translators
  language : Language := .english
  disks : List DiskInfo := []
  scanError : RestoreMessage := {}
  guard : RestoreGuard := {}
  restoreRunning : Bool := false
  scanning : Bool := false
  restoreStep : Nat := 0
  stallNoticeShown : Bool := false
  restoreFileSystem : FileSystemType := .exFat
  currentRow : Option Nat := none
  style : PartitionStyle := .gpt
  fileSystem : FileSystemType := .exFat
  diskListEnabled : Bool := true
  refreshEnabled : Bool := true
  languageEnabled : Bool := true
  styleEnabled : Bool := true
  fileSystemEnabled : Bool := true
  restoreEnabled : Bool := true
  statusKind : StatusKind := .info
  statusText : QString := []
  statusDetail : QString := []
  plan : QString := []
  restoreDialog : Option RequestDialog := none
  /-- `m_restoreWorker` points to a worker. -/
  restoreWorker : Bool := false

/-- What a slot asks of the threads, the log and the desktop. -/
inductive WindowEffect where
  | startScan
  | startWorker (request : RestoreRequest)
  | requestCancel
  | log (message : QString)
  | logFileOnly (message : QString)
  /-- The box "Restore refused". -/
  | refuse (reason : QString)
  | openLogFile

namespace MainWindow

def mode (window : MainWindow) : TextMode := .display window.texts.installed

def selectedPartitionStyle (window : MainWindow) : PartitionStyle :=
  if window.style = .mbr then .mbr else .gpt

def selectedFileSystem (window : MainWindow) : FileSystemType :=
  if isKnownFileSystem window.fileSystem then window.fileSystem else .exFat

def selectedDisk (window : MainWindow) : Option DiskInfo := do window.disks[← window.currentRow]?

def setStatus (window : MainWindow) (kind : StatusKind) (message : QString) (detail : QString := []) :
    MainWindow :=
  { window with
    statusKind := kind
    statusText := statusBadgePrefix kind ++ message
    statusDetail := detail }

/-- The restore dialog is on the screen, in front of the window. -/
def dialogVisible (window : MainWindow) : Bool :=
  match window.restoreDialog with
  | some shown => shown.dialog.closedWith.isNone
  | none => false

/-! ### Checks -/

section

variable [Host] (service : DiskService)

/-- The two checks on what is to be created. -/
def configurationVerdict (window : MainWindow) (disk : DiskInfo) : Except QString Unit :=
  match canCreatePartitionLayout window.selectedPartitionStyle disk window.mode with
  | .error reason => .error reason
  | .ok () =>
    match service.canFormatFileSystem window.texts.installed window.selectedFileSystem disk with
    | .error failure => .error failure.display
    | .ok () => .ok ()

def refuseSelection (window : MainWindow) : MainWindow :=
  { window with styleEnabled := false, fileSystemEnabled := false, restoreEnabled := false }

def updateRestoreState (window : MainWindow) : MainWindow :=
  let tr := window.texts.window
  if window.restoreRunning then window
  else if window.scanning then
    window.refuseSelection.setStatus .info (tr (QStringLiteral "Scanning for USB disks..."))
  else
    let style := partitionStyleLabel window.selectedPartitionStyle .english
    let fileSystem := fileSystemTypeName window.selectedFileSystem
    let window :=
      { window with
        plan := (tr (QStringLiteral "Erases all contents. Creates one %1 partition formatted %2, labelled %3.")).arg
          [style, fileSystem, RestoreVolumeLabel] }
    if !window.scanError.english.isEmpty then
      let detail := window.scanError.translated window.texts.installed
      window.refuseSelection.setStatus .error (tr (QStringLiteral "Could not scan for USB disks."))
        (if detail.isEmpty then window.scanError.english else detail)
    else
      match window.selectedDisk with
      | none =>
        window.refuseSelection.setStatus .info (tr (QStringLiteral "Select a USB disk to restore."))
          (if window.disks.isEmpty then tr (QStringLiteral "Nothing to restore until a USB disk is plugged in.")
            else [])
      | some disk =>
        let window := { window with styleEnabled := true, fileSystemEnabled := true }
        match isSafeRestoreTarget disk window.guard window.mode with
        | .error reason =>
          { window with restoreEnabled := false }.setStatus .blocked
            (tr (QStringLiteral "This disk will not be restored.")) reason
        | .ok () =>
          match window.configurationVerdict service disk with
          | .error reason =>
            { window with restoreEnabled := false }.setStatus .blocked
              (tr (QStringLiteral "This restore configuration cannot be used on this disk.")) reason
          | .ok () =>
            let window := { window with restoreEnabled := true }
            let warning := largeRestoreTargetWarning disk window.mode
            if !warning.isEmpty then
              window.setStatus .warning (tr (QStringLiteral "Check this is the right disk.")) warning
            else
              window.setStatus .ready
                ((tr (QStringLiteral "Ready to restore %1 as %2 %3.")).arg
                  [describeDisk disk window.mode, style, fileSystem])
                ((tr (QStringLiteral "Contents: %1")).arg [joinOrDash disk.labels])

/-! ### Scans -/

def refreshDisks (window : MainWindow) : MainWindow × List WindowEffect :=
  if window.restoreRunning || window.scanning then (window, [])
  else
    ({ window with scanning := true, refreshEnabled := false, diskListEnabled := false }.updateRestoreState
      service, [.startScan])

/-- Clearing the list unselects; a list with disks selects the first. -/
def renderDisks (window : MainWindow) : MainWindow :=
  { window with currentRow := if window.disks.isEmpty then none else some 0 }

def onSelectionChanged (window : MainWindow) : MainWindow := window.updateRestoreState service

def applyScan (window : MainWindow) (disks : List DiskInfo) (error : RestoreMessage)
    (guard : RestoreGuard) : MainWindow × List WindowEffect :=
  let window :=
    { window with
      scanning := false
      refreshEnabled := !window.restoreRunning
      diskListEnabled := !window.restoreRunning
      guard
      scanError := error
      disks }
  (window.renderDisks.onSelectionChanged service,
    if !error.english.isEmpty then [.log ((QStringLiteral "Scan failed: %1").arg [error.english])] else [])

/-! ### The restore -/

def startRestore (window : MainWindow) : MainWindow × List WindowEffect :=
  if window.restoreRunning || window.scanning then (window, [])
  else if window.dialogVisible then (window, [])
  else
    match window.selectedDisk with
    | none => (window, [])
    | some disk =>
      match isSafeRestoreTarget disk window.guard window.mode with
      | .error reason => (window, [.refuse reason])
      | .ok () =>
        match window.configurationVerdict service disk with
        | .error reason => (window, [.refuse reason])
        | .ok () =>
          let request : RestoreRequest :=
            { disk
              style := window.selectedPartitionStyle
              fileSystem := window.selectedFileSystem
              volumeLabel := RestoreVolumeLabel
              guard := window.guard
              displayLanguage := window.language }
          let dialog := RestoreDialog.create window.texts.dialog service.restorePlan
          ({ window with restoreDialog := some { request, dialog } }, [])

def setRunning (window : MainWindow) (running : Bool) : MainWindow :=
  let window := { window with restoreRunning := running }
  let window :=
    if running then { window with restoreStep := 0, stallNoticeShown := false } else window
  let selected := window.selectedDisk.isSome
  let window :=
    { window with
      diskListEnabled := !running
      refreshEnabled := !running
      languageEnabled := !running
      styleEnabled := !running && selected
      fileSystemEnabled := !running && selected
      restoreEnabled := !running }
  if !running then { window with restoreWorker := false }.updateRestoreState service else window

def beginRestore (window : MainWindow) (request : RestoreRequest) : MainWindow × List WindowEffect :=
  if window.restoreRunning then (window, [])
  else
    let disk := request.disk
    let requested := (QStringLiteral "Restore requested for %1 as %2 %3").arg
      [describeDisk disk .english, partitionStyleLabel request.style .english,
        fileSystemTypeName request.fileSystem]
    let details := (QStringLiteral "Target details — device %1, bus %2, sector size %3, mounted at [%4], labels [%5]").arg
      [disk.deviceId, busTypeName disk.busType .english, .number disk.sectorSize.toNat,
        (QStringLiteral ", ").intercalate disk.mountPoints, (QStringLiteral ", ").intercalate disk.labels]
    let window := { window with restoreFileSystem := request.fileSystem }.setRunning service true
    let window := window.setStatus .running
      ((window.texts.window (QStringLiteral "Restoring %1...")).arg [disk.displayId])
    ({ window with restoreWorker := true },
      [.log requested, .logFileOnly details, .startWorker request])

/-- What the window does to its dialog. -/
def withDialog (window : MainWindow) (f : RestoreDialog → RestoreDialog) : MainWindow :=
  { window with
    restoreDialog := window.restoreDialog.map fun shown => { shown with dialog := f shown.dialog } }

def cancelRestore (window : MainWindow) : MainWindow × List WindowEffect :=
  if !window.restoreRunning || !window.restoreWorker || service.firstDestructiveStep ≤ window.restoreStep then
    (window, [])
  else (window.withDialog fun dialog => dialog.setCancelling window.texts.dialog, [.requestCancel])

def onRestoreProgress (window : MainWindow) (step totalSteps : Nat) (message : QString) :
    MainWindow × List WindowEffect :=
  let window := { window with restoreStep := step, stallNoticeShown := false }
  match window.restoreDialog with
  | none => (window, [])
  | some shown =>
    let (accepted, dialog) := shown.dialog.setProgress window.texts.dialog step totalSteps message
    ({ window with restoreDialog := some { shown with dialog } },
      if accepted then []
      else
        [.logFileOnly (((QStringLiteral "Restore window ignored progress step %1 of %2; it does not follow the step it is showing.").arg
          [.number step]).arg [.number totalSteps])])

/-- Minutes and seconds; `seconds` is the time since the worker was last heard. -/
def silence (seconds : Nat) : QString :=
  let rest := QString.number (seconds % 60)
  ((QStringLiteral "%1:%2").arg [.number (seconds / 60)]).arg
    [if rest.length < 2 then QChar.ofChar '0' :: rest else rest]

def onStallTick (window : MainWindow) (seconds : Nat) : MainWindow :=
  let tr := window.texts.window
  if !window.restoreRunning || window.restoreStep = 0 || window.restoreDialog.isNone then window
  else if seconds < StallCountSeconds then
    if window.stallNoticeShown then
      { window with stallNoticeShown := false }.withDialog fun dialog =>
        dialog.setNotice
          (tr (QStringLiteral "The device is responding again. Keep it connected until the restore finishes."))
    else window
  else
    let window := { window with stallNoticeShown := true }
    if seconds < StallExplainSeconds then
      window.withDialog fun dialog =>
        dialog.setNotice
          ((tr (QStringLiteral "No response from the device for %1. Keep it connected while the system waits.")).arg
            [silence seconds])
    else if window.restoreStep < service.firstDestructiveStep then
      window.withDialog fun dialog =>
        dialog.setNotice
          ((tr (QStringLiteral
            ("The device has not responded for %1. Some sticks stall for minutes and then recover on " ++
              "their own. The restore has not changed the disk, but the system may still be flushing " ++
              "its own writes to it — unplug only if it never recovers, and expect to run the restore " ++
              "again afterwards."))).arg [silence seconds])
    else
      window.withDialog fun dialog =>
        dialog.setNotice
          ((tr (QStringLiteral
            ("The device has not responded for %1. Some sticks stall for minutes and then recover on " ++
              "their own. The disk is being rewritten — leave it plugged in and wait."))).arg
            [silence seconds])

def onRestoreFailed (window : MainWindow) (message : QString) : MainWindow × List WindowEffect :=
  let window := window.withDialog fun dialog => dialog.finishFailure window.texts.dialog message
  (window.setRunning service false).refreshDisks service

def onRestoreCancelled (window : MainWindow) : MainWindow × List WindowEffect :=
  let message := window.texts.window (QStringLiteral "The restore stopped before erasing the disk.")
  let window := window.withDialog fun dialog => dialog.finishCancelled window.texts.dialog message
  let (window, effects) := (window.setRunning service false).refreshDisks service
  (window, .log (QStringLiteral
    ("Restore cancelled before erasing the disk; existing volumes may need to be mounted " ++
      "again or have their drive letters reassigned")) :: effects)

def onRestoreFinished (window : MainWindow) (location : QString) : MainWindow × List WindowEffect :=
  let summary := (window.texts.window (QStringLiteral "The disk is now one %1 volume labelled %2 at %3.")).arg
    [fileSystemTypeName window.restoreFileSystem, RestoreVolumeLabel, location]
  let window := window.withDialog fun dialog => dialog.finishSuccess window.texts.dialog summary
  (window.setRunning service false).refreshDisks service

/-- The slots a signal of the worker is connected to. -/
def onSignal (window : MainWindow) : WorkerSignal → MainWindow × List WindowEffect
  | .progress step totalSteps message => window.onRestoreProgress step totalSteps message
  | .logMessage message => (window, [.log message])
  | .logFileOnly message => (window, [.logFileOnly message])
  | .failed message => window.onRestoreFailed service message
  | .cancelled => window.onRestoreCancelled service
  | .finished location => window.onRestoreFinished service location

/-- The slots a signal of the dialog is connected to; the confirmed request is that of the dialog. -/
def onDialogSignal (window : MainWindow) (request : RestoreRequest) :
    DialogSignal → MainWindow × List WindowEffect
  | .restoreConfirmed => window.beginRestore service request
  | .cancelRequested => window.cancelRestore service
  | .openLogRequested => (window, [.openLogFile])

/-- Slots one after the other. -/
def onDialogSignals (window : MainWindow) (request : RestoreRequest) :
    List DialogSignal → MainWindow × List WindowEffect
  | [] => (window, [])
  | signal :: signals =>
    let (window, effects) := window.onDialogSignal service request signal
    let (window, more) := window.onDialogSignals request signals
    (window, effects ++ more)

def onDialogEvent (window : MainWindow) (event : DialogEvent) : MainWindow × List WindowEffect :=
  match window.restoreDialog with
  | none => (window, [])
  | some shown =>
    let (dialog, signals) := shown.dialog.handle window.texts.dialog event
    { window with restoreDialog := some { shown with dialog } }.onDialogSignals service shown.request signals

/-- What the window says instead of closing, while a restore is under way. Its thread is told to quit
after the slots were told of the end, so it is then running. -/
def closeEvent (window : MainWindow) : Option QString :=
  let tr := window.texts.window
  if window.restoreRunning then
    some (
      if service.firstDestructiveStep ≤ window.restoreStep then
        tr (QStringLiteral
          ("A restore is writing to the disk. Wait for it to finish before closing; " ++
            "stopping now would leave the disk unusable."))
      else
        tr (QStringLiteral
          ("A restore is still running. Wait for it to finish before closing. " ++
            "The disk has not been changed yet, but closing now would stop the restore.")))
  else none

/-! ### Language -/

/-- Rebuilding the list passes through row 0, which is not a selection to act on. -/
def retranslateUi (window : MainWindow) : MainWindow :=
  let row := window.currentRow
  let window := window.renderDisks
  let window :=
    match row with
    | some index => if index < window.disks.length then { window with currentRow := some index } else window
    | none => window
  window.onSelectionChanged service

/-- The change of language that loading the next catalog brings about is handled before any input. -/
def cycleLanguage (window : MainWindow) (texts : Translators) (language : Language) : MainWindow :=
  if window.restoreRunning then window else { window with texts, language }.retranslateUi service

end

end MainWindow

/-! ## Events -/

inductive WindowEvent where
  /-- The button, or the shortcut, which needs no enabled button. -/
  | refresh (shortcut : Bool)
  | rowSelected (row : Nat)
  | styleSelected (style : PartitionStyle)
  | fileSystemSelected (fileSystem : FileSystemType)
  | restoreClicked
  | languageClicked (texts : Translators) (language : Language)
  /-- The box "Restore refused" was closed. -/
  | refusalClosed
  | scanFinished (disks : List DiskInfo) (error : RestoreMessage) (guard : RestoreGuard)
  | stallTick (seconds : Nat)
  | dialog (event : DialogEvent)

/-- What the user does to a dialog, as opposed to what the window does to it. -/
def DialogEvent.isInput : DialogEvent → Bool
  | .toggled _ | .eraseClicked | .cancelClicked | .doneClicked | .logClicked | .done _ => true
  | _ => false

namespace MainWindow

/-- Input reaches the window while no dialog is in front of it, and a widget while it is enabled. -/
def reaches (window : MainWindow) : WindowEvent → Bool
  | .refresh shortcut => !window.dialogVisible && (shortcut || window.refreshEnabled)
  | .rowSelected row => !window.dialogVisible && window.diskListEnabled && row < window.disks.length
  | .styleSelected _ => !window.dialogVisible && window.styleEnabled
  | .fileSystemSelected _ => !window.dialogVisible && window.fileSystemEnabled
  | .restoreClicked => !window.dialogVisible && window.restoreEnabled
  | .languageClicked _ _ => !window.dialogVisible && window.languageEnabled
  | .refusalClosed => true
  | .scanFinished _ _ _ => window.scanning
  | .stallTick _ => true
  | .dialog event => window.dialogVisible && event.isInput

variable [Host] (service : DiskService)

def handle (window : MainWindow) : WindowEvent → MainWindow × List WindowEffect
  | .refresh _ => window.refreshDisks service
  | .rowSelected row => ({ window with currentRow := some row }.onSelectionChanged service, [])
  | .styleSelected style => ({ window with style }.updateRestoreState service, [])
  | .fileSystemSelected fileSystem => ({ window with fileSystem }.updateRestoreState service, [])
  | .restoreClicked => window.startRestore service
  | .languageClicked texts language => (window.cycleLanguage service texts language, [])
  | .refusalClosed => (window.updateRestoreState service, [])
  | .scanFinished disks error guard => window.applyScan service disks error guard
  | .stallTick seconds => (window.onStallTick service seconds, [])
  | .dialog event => window.onDialogEvent service event

/-- The window after its constructor, which starts the first scan. -/
def create (texts : Translators) (language : Language) (style : PartitionStyle)
    (fileSystem : FileSystemType) : MainWindow × List WindowEffect :=
  MainWindow.refreshDisks service { texts, language, style, fileSystem }

end MainWindow

end UsbRestore
