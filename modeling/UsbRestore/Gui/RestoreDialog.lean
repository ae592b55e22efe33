-- SUMMARY: The restore dialog: its stages, its buttons and what each event does to them.
import UsbRestore.Core.RestoreMessage

/-!
# The restore dialog

One window asks for the acknowledgement, shows the progress and then the outcome. Clicks come from
the user, everything else from signals of the worker, in any relation to each other. The clock and
the drawing are left out.
-/

namespace UsbRestore

/-! ## The widgets -/

/-- `RestoreDialog::Stage` -/
inductive DialogStage where
  | confirmation
  | running
  | finished
  deriving DecidableEq

/-- The `state` property of the indicator, and of the outcome that it ends with. -/
inductive IndicatorState where
  | confirmation
  | active
  | complete
  | error
  | cancelled
  deriving DecidableEq

/-- A row of the step list: the state of its widgets, or the text that it was not run. -/
inductive StepRow where
  | pending
  | active
  | complete
  | error
  | cancelled
  | notRun
  deriving DecidableEq

structure Button where
  text : QString
  enabled : Bool := true
  visible : Bool := true

structure RestoreDialog where
  rows : List StepRow
  step : Nat := 0
  firstDestructiveStep : Nat
  stage : DialogStage := .confirmation
  cancelling : Bool := false
  indicator : IndicatorState := .confirmation
  windowTitle : QString
  title : QString
  message : QString
  counter : QString
  notice : QString
  progress : Nat := 0
  timerActive : Bool := false
  acknowledged : Bool := false
  acknowledgementEnabled : Bool := true
  eraseButton : Button
  cancelButton : Button
  logButton : Button
  doneButton : Button
  /-- What `QDialog::done` was called with, once it was. -/
  closedWith : Option Int := none

inductive DialogSignal where
  | restoreConfirmed
  | cancelRequested
  | openLogRequested
  deriving DecidableEq

/-! ## The handlers -/

namespace RestoreDialog

/-- The constructor. -/
def create (tr : QString → QString) (plan : List RestoreStep) : RestoreDialog where
  rows := plan.map fun _ => .pending
  firstDestructiveStep := firstDestructiveStepOf plan
  windowTitle := tr (QStringLiteral "Confirm USB restore")
  title := tr (QStringLiteral "Erase this USB drive?")
  message := tr (QStringLiteral "Preparing the restore. Approve the system permission prompt if asked.")
  counter := (tr (QStringLiteral "Preparing · %1 steps")).arg [.number plan.length]
  notice := tr (QStringLiteral "Keep the drive connected. You can request cancellation before writing begins.")
  eraseButton := { text := tr (QStringLiteral "Erase and restore"), enabled := false }
  cancelButton := { text := tr (QStringLiteral "Cancel") }
  logButton := { text := tr (QStringLiteral "Open log file"), visible := false }
  doneButton := { text := tr (QStringLiteral "Done"), visible := false }

/-- `setChecked` of the acknowledgement, which tells the erase button of a change only. -/
def toggle (dialog : RestoreDialog) (checked : Bool) : RestoreDialog :=
  if dialog.acknowledged = checked then dialog
  else
    { dialog with
      acknowledged := checked
      eraseButton :=
        { dialog.eraseButton with enabled := dialog.stage = .confirmation ∧ checked = true } }

/-- The acknowledgement and the destructive action name the same frozen request. -/
def confirmRestore (tr : QString → QString) (dialog : RestoreDialog) :
    RestoreDialog × List DialogSignal :=
  if dialog.stage ≠ .confirmation ∨ !dialog.acknowledged then (dialog, [])
  else
    ({ dialog with
        stage := .running
        eraseButton := { dialog.eraseButton with enabled := false, visible := false }
        acknowledgementEnabled := false
        cancelButton := { dialog.cancelButton with text := tr (QStringLiteral "Cancel restore") }
        logButton := { dialog.logButton with visible := true }
        windowTitle := tr (QStringLiteral "Restoring USB drive")
        title := tr (QStringLiteral "Restoring your USB")
        indicator := .active
        timerActive := true },
      [.restoreConfirmed])

def setRow (dialog : RestoreDialog) (step : Nat) (row : StepRow) : RestoreDialog :=
  { dialog with rows := dialog.rows.set (step - 1) row }

def completeCurrentStep (dialog : RestoreDialog) : RestoreDialog :=
  if dialog.step = 0 then dialog else dialog.setRow dialog.step .complete

/-- A step signal starts work; even the last step is not success until the worker finishes. -/
def setProgress (tr : QString → QString) (dialog : RestoreDialog) (step totalSteps : Int)
    (message : QString) : Bool × RestoreDialog :=
  if dialog.stage ≠ .running ∨ totalSteps ≠ dialog.rows.length ∨ step ≠ dialog.step + 1 ∨
      step > dialog.rows.length then (false, dialog)
  else
    let dialog := { dialog.completeCurrentStep with step := step.toNat }
    let dialog := dialog.setRow dialog.step .active
    let dialog :=
      { dialog with
        message
        counter :=
          ((tr (QStringLiteral "Step %1 of %2")).arg [.numberInt step]).arg [.numberInt totalSteps]
        progress := dialog.step - 1 }
    if dialog.firstDestructiveStep ≤ dialog.step then
      (true,
        { dialog with
          cancelButton :=
            { dialog.cancelButton with
              enabled := false, text := tr (QStringLiteral "Writing in progress") }
          notice := tr (QStringLiteral "The disk is being rewritten. Keep it connected and wait for the result.") })
    else if !dialog.cancelling then
      (true,
        { dialog with
          notice := tr (QStringLiteral "Keep the drive connected. Cancellation stops at the next safe checkpoint.") })
    else (true, dialog)

/-- Stall and recovery text must not replace the cancellation sentence. -/
def setNotice (dialog : RestoreDialog) (message : QString) : RestoreDialog :=
  if dialog.stage = .running ∧ !dialog.cancelling then { dialog with notice := message } else dialog

def setCancelling (tr : QString → QString) (dialog : RestoreDialog) : RestoreDialog :=
  if dialog.stage ≠ .running ∨ dialog.firstDestructiveStep ≤ dialog.step ∨ dialog.cancelling then
    dialog
  else
    { dialog with
      cancelling := true
      cancelButton :=
        { dialog.cancelButton with enabled := false, text := tr (QStringLiteral "Stopping…") }
      notice := tr (QStringLiteral "Cancellation requested. Waiting for a safe checkpoint; if writing has already begun, the restore will finish instead. Keep the drive connected.") }

/-- The outcomes of `finish`: "complete", "error" and "cancelled". -/
inductive Outcome where
  | complete
  | error
  | cancelled
  deriving DecidableEq

def Outcome.indicator : Outcome → IndicatorState
  | .complete => .complete
  | .error => .error
  | .cancelled => .cancelled

def Outcome.row : Outcome → StepRow
  | .complete => .complete
  | .error => .error
  | .cancelled => .cancelled

/-- What the rows say after an outcome that is no success. -/
def stopRows (dialog : RestoreDialog) (outcome : Outcome) : RestoreDialog :=
  let dialog := if dialog.step > 0 then dialog.setRow dialog.step outcome.row else dialog
  { dialog with
    rows := dialog.rows.mapIdx fun index row => if dialog.step ≤ index then .notRun else row }

def finish (tr : QString → QString) (dialog : RestoreDialog) (title message : QString)
    (outcome : Outcome) : RestoreDialog :=
  if dialog.stage ≠ .running then dialog
  else
    let dialog :=
      { dialog with
        stage := .finished
        timerActive := false
        windowTitle := title
        title
        message
        indicator := outcome.indicator }
    let dialog :=
      match outcome with
      | .complete =>
        { dialog.completeCurrentStep with
          progress := dialog.rows.length
          counter := (tr (QStringLiteral "All %1 steps completed")).arg [.number dialog.rows.length]
          notice := tr (QStringLiteral "Your USB drive is ready to use. Eject it through your system before unplugging.") }
      | .error =>
        { dialog.stopRows .error with
          counter := tr (QStringLiteral "Restore not completed")
          notice := tr (QStringLiteral "Read the error above before retrying. The log file contains more details.") }
      | .cancelled =>
        { dialog.stopRows .cancelled with
          counter := tr (QStringLiteral "Cancelled before erasing")
          notice := tr (QStringLiteral "Existing volumes may need to be mounted again or have their drive letters reassigned.") }
    { dialog with
      cancelButton := { dialog.cancelButton with visible := false }
      doneButton := { dialog.doneButton with visible := true } }

def finishSuccess (tr : QString → QString) (dialog : RestoreDialog) (message : QString) :
    RestoreDialog :=
  dialog.finish tr (tr (QStringLiteral "Restore complete")) message .complete

def finishFailure (tr : QString → QString) (dialog : RestoreDialog) (message : QString) :
    RestoreDialog :=
  dialog.finish tr (tr (QStringLiteral "Restore failed")) message .error

def finishCancelled (tr : QString → QString) (dialog : RestoreDialog) (message : QString) :
    RestoreDialog :=
  dialog.finish tr (tr (QStringLiteral "Restore cancelled")) message .cancelled

/-- Escape and the close button must not dismiss an operation in flight. -/
def done (dialog : RestoreDialog) (result : Int) : RestoreDialog :=
  if dialog.stage ≠ .running then
    let dialog :=
      if dialog.stage = .confirmation then
        { dialog with
          stage := .finished
          eraseButton := { dialog.eraseButton with enabled := false }
          acknowledgementEnabled := false }
      else dialog
    { dialog with closedWith := some result }
  else dialog

/-- `QDialog::reject`, the way of Escape and of the close button. -/
def reject (dialog : RestoreDialog) : RestoreDialog := dialog.done 0

def accept (dialog : RestoreDialog) : RestoreDialog := dialog.done 1

/-- The slot of the cancel button. -/
def cancelClicked (dialog : RestoreDialog) : RestoreDialog × List DialogSignal :=
  match dialog.stage with
  | .confirmation => (dialog.reject, [])
  | .running => (dialog, [.cancelRequested])
  | .finished => (dialog, [])

end RestoreDialog

/-! ## Events -/

inductive DialogEvent where
  | toggled (checked : Bool)
  | eraseClicked
  | cancelClicked
  | doneClicked
  | logClicked
  /-- Escape, the close button, or a call from outside. -/
  | done (result : Int)
  | setProgress (step totalSteps : Int) (message : QString)
  | setNotice (message : QString)
  | setCancelling
  | finishSuccess (message : QString)
  | finishFailure (message : QString)
  | finishCancelled (message : QString)

namespace RestoreDialog

/-- A click reaches its slot while the button is enabled. -/
def click (dialog : RestoreDialog) (button : Button)
    (slot : RestoreDialog × List DialogSignal) : RestoreDialog × List DialogSignal :=
  if button.enabled then slot else (dialog, [])

/-- One event, and the signals emitted on it. -/
def handle (tr : QString → QString) (dialog : RestoreDialog) :
    DialogEvent → RestoreDialog × List DialogSignal
  | .toggled checked => (dialog.toggle checked, [])
  | .eraseClicked => dialog.click dialog.eraseButton (dialog.confirmRestore tr)
  | .cancelClicked => dialog.click dialog.cancelButton dialog.cancelClicked
  | .doneClicked => dialog.click dialog.doneButton (dialog.accept, [])
  | .logClicked => dialog.click dialog.logButton (dialog, [.openLogRequested])
  | .done result => (dialog.done result, [])
  | .setProgress step totalSteps message => ((dialog.setProgress tr step totalSteps message).2, [])
  | .setNotice message => (dialog.setNotice message, [])
  | .setCancelling => (dialog.setCancelling tr, [])
  | .finishSuccess message => (dialog.finishSuccess tr message, [])
  | .finishFailure message => (dialog.finishFailure tr message, [])
  | .finishCancelled message => (dialog.finishCancelled tr message, [])

/-- The dialog after some events. -/
def afterEvents (tr : QString → QString) (dialog : RestoreDialog) (events : List DialogEvent) :
    RestoreDialog :=
  events.foldl (fun dialog event => (dialog.handle tr event).1) dialog

/-- The signals that some events emit. -/
def emitted (tr : QString → QString) (dialog : RestoreDialog) :
    List DialogEvent → List DialogSignal
  | [] => []
  | event :: events =>
    (dialog.handle tr event).2 ++ emitted tr (dialog.handle tr event).1 events

theorem afterEvents_append (tr : QString → QString) (dialog : RestoreDialog)
    (events more : List DialogEvent) :
    dialog.afterEvents tr (events ++ more) = (dialog.afterEvents tr events).afterEvents tr more :=
  List.foldl_append

theorem afterEvents_cons (tr : QString → QString) (dialog : RestoreDialog) (event : DialogEvent)
    (events : List DialogEvent) :
    dialog.afterEvents tr (event :: events) = (dialog.handle tr event).1.afterEvents tr events :=
  rfl

end RestoreDialog

end UsbRestore
