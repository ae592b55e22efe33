-- SUMMARY: What the window, its dialog and the workers share, and the steps in which it changes.
import UsbRestore.Gui.Application
import UsbRestore.Gui.DialogRows
import UsbRestore.Gui.WindowControl

/-!
# Coordination

Of the application, the window's control, the workers and the queue matter to a restore. They change in
twelve ways; every step of the application is one of them.
-/

namespace UsbRestore

structure Coordination (service : DiskService) where
  window : WindowControl
  workers : List (RestoreWorker service)
  queue : List WorkerSignal
  closed : Bool

def Application.coordination {service : DiskService} (app : Application service) :
    Coordination service where
  window := app.window.control
  workers := app.workers
  queue := app.queue
  closed := app.closed

/-- The outcome that a signal tells the dialog. -/
def WorkerSignal.outcome : WorkerSignal → Option RestoreDialog.Outcome
  | .finished _ => some .complete
  | .cancelled => some .cancelled
  | .failed _ => some .error
  | _ => none

def WorkerSignal.isLog : WorkerSignal → Bool
  | .logMessage _ | .logFileOnly _ => true
  | _ => false

namespace Coordination

section

variable [Host] {service : DiskService}

inductive Step (c : Coordination service) : Coordination service → Prop where
  | idle : Step c c
  | scan (idle : c.window.running = false) (hidden : c.window.Hidden) :
    Step c { c with window := { c.window with scanning := true } }
  | scanned : Step c { c with window := { c.window with scanning := false } }
  | openDialog (idle : c.window.running = false) (unscanned : c.window.scanning = false)
    (hidden : c.window.Hidden) (request : RestoreRequest) (tr : QString → QString)
    (checks : PassedChecks service request) :
    Step c { c with window := { c.window with
      dialog := some ⟨request, RestoreDialog.create tr service.restorePlan⟩ } }
  /-- A confirmation is ignored while a restore is under way. -/
  | input (tr : QString → QString) (event : DialogEvent) (unmoved : ¬RestoreDialog.Moves event)
    (unconfirmed : ∀ shown, c.window.dialog = some shown →
      DialogSignal.restoreConfirmed ∈ (shown.dialog.handle tr event).2 → c.window.running = true) :
    Step c { c with window := c.window.withDialog fun dialog => (dialog.handle tr event).1 }
  | confirm (tr : QString → QString) (event : DialogEvent) (unmoved : ¬RestoreDialog.Moves event)
    (unclosed : c.closed = false) (idle : c.window.running = false) (shown : RequestDialog) (dialog : c.window.dialog = some shown)
    (stage : shown.dialog.stage = .confirmation) (ticked : shown.dialog.acknowledged = true)
    (confirmed : (shown.dialog.handle tr event).1.stage = .running) (installed : Catalog) :
    Step c { c with
      window := { c.window.withDialog fun dialog => (dialog.handle tr event).1 with
        running := true, restoreStep := 0, worker := true }
      workers := RestoreWorker.create installed shown.request :: c.workers }
  | cancel (tr : QString → QString) (event : DialogEvent) (unmoved : ¬RestoreDialog.Moves event)
    (running : c.window.running = true) (early : c.window.restoreStep < service.firstDestructiveStep) :
    Step c { c with
      window := c.window.withDialog fun dialog => (dialog.handle tr event).1.setCancelling tr
      workers := c.workers.modifyHead RestoreWorker.requestCancel }
  | log (signal : WorkerSignal) (queue : List WorkerSignal) (next : c.queue = signal :: queue)
    (isLog : signal.isLog = true) : Step c { c with queue }
  | progress (tr : QString → QString) (step totalSteps : Nat) (message : QString)
    (queue : List WorkerSignal) (next : c.queue = .progress step totalSteps message :: queue) :
    Step c { c with
      window := { c.window.withDialog fun dialog => (dialog.setProgress tr step totalSteps message).2 with
        restoreStep := step }
      queue }
  | ended (tr : QString → QString) (signal : WorkerSignal) (outcome : RestoreDialog.Outcome)
    (title message : QString) (queue : List WorkerSignal) (next : c.queue = signal :: queue)
    (isOutcome : signal.outcome = some outcome) :
    Step c { c with
      window := { c.window.withDialog fun dialog => dialog.finish tr title message outcome with
        running := false, scanning := true, worker := false }
      queue }
  | turn (index : Nat) (worker worker' : RestoreWorker service) (signals : List WorkerSignal)
    (present : c.workers[index]? = some worker) (now : Nat)
    (answer : (o : (service.I worker.installed).Op) → (service.I worker.installed).Ans o)
    (turned : worker.turn answer now = some (worker', signals)) :
    Step c { c with workers := c.workers.set index worker', queue := c.queue ++ signals }
  | close (idle : c.window.running = false) : Step c { c with closed := true }

end

end Coordination

/-! ## The application takes these steps -/

namespace Application

open Coordination

variable [Host] {service : DiskService}

omit [Host] in
/-- Only what is asked of the worker changes more than the window. -/
theorem perform_eq (app : Application service) (slot : MainWindow × List WindowEffect) :
    app.perform slot = (workerEffects slot.2).foldl performEffect { app with window := slot.1 } := by
  unfold perform workerEffects
  rw [List.foldl_filter]
  congr 1
  funext app effect
  cases effect <;> rfl

variable {app : Application service} {slot : MainWindow × List WindowEffect}

omit [Host] in
/-- A slot without effects on the worker changes the window alone, and nothing of the workers or the
queue. -/
theorem perform_coordination (h : workerEffects slot.2 = []) :
    (app.perform slot).coordination = { app.coordination with window := slot.1.control } := by
  rw [perform_eq, h]
  rfl

omit [Host] in
theorem perform_start {request : RestoreRequest} (h : workerEffects slot.2 = [.startWorker request]) :
    (app.perform slot).coordination = { app.coordination with
      window := slot.1.control
      workers := RestoreWorker.create slot.1.texts.installed request :: app.workers } := by
  rw [perform_eq, h]
  rfl

omit [Host] in
theorem perform_cancel (h : workerEffects slot.2 = [.requestCancel]) :
    (app.perform slot).coordination = { app.coordination with
      window := slot.1.control
      workers := app.workers.modifyHead RestoreWorker.requestCancel } := by
  rw [perform_eq, h]
  rfl

/-- A slot that only the window notices. -/
theorem step_perform (h : workerEffects slot.2 = [])
    (hstep : Step app.coordination { app.coordination with window := slot.1.control }) :
    Step app.coordination (app.perform slot).coordination := by
  rw [perform_coordination h]
  exact hstep

/-- A slot that leaves the control is a step of the coordination. -/
theorem step_of_control (heffects : workerEffects slot.2 = [])
    (hcontrol : slot.1.control = app.window.control) :
    Step app.coordination (app.perform slot).coordination := by
  apply step_perform heffects
  rw [hcontrol]
  exact Step.idle

omit [Host] in
theorem hidden_of_not_visible {window : MainWindow} (h : window.dialogVisible = false) :
    window.control.Hidden := by
  intro shown hshown
  have hdialog : window.restoreDialog = some shown := hshown
  unfold MainWindow.dialogVisible at h
  rw [hdialog] at h
  simpa using h

/-! ### Input -/

theorem refresh_step (hhidden : app.window.dialogVisible = false) :
    Step app.coordination (app.perform (app.window.refreshDisks service)).coordination := by
  obtain ⟨hcontrol, heffects⟩ := MainWindow.refreshDisks_control service app.window
  split at hcontrol
  · exact step_of_control heffects hcontrol
  · next hidle =>
    rw [Bool.or_eq_true, not_or, Bool.not_eq_true, Bool.not_eq_true] at hidle
    apply step_perform heffects
    rw [hcontrol]
    exact Step.scan hidle.1 (hidden_of_not_visible hhidden)

theorem startRestore_step :
    Step app.coordination (app.perform (app.window.startRestore service)).coordination := by
  obtain ⟨hcontrol | ⟨hidle, hunscanned, hhidden, request, tr, hchecks, hcontrol⟩, heffects⟩ :=
    MainWindow.startRestore_control service app.window
  · exact step_of_control heffects hcontrol
  · apply step_perform heffects
    rw [hcontrol]
    exact Step.openDialog hidle hunscanned (hidden_of_not_visible hhidden) request tr hchecks

theorem stallTick_step (seconds : Nat) :
    Step app.coordination (app.perform (app.window.onStallTick service seconds, [])).coordination := by
  apply step_perform rfl
  rcases MainWindow.onStallTick_control service app.window seconds with hcontrol | ⟨notice, hcontrol⟩
  · rw [hcontrol]
    exact Step.idle
  · rw [hcontrol]
    refine Step.input id (.setNotice notice) id fun shown _ hsignal => ?_
    cases hsignal

/-- The window after its dialog has handled an event, before the signals of the dialog. -/
def handled (window : MainWindow) (shown : RequestDialog) (event : DialogEvent) : MainWindow :=
  { window with
    restoreDialog := some { shown with dialog := (shown.dialog.handle window.texts.dialog event).1 } }

omit [Host] in
theorem control_handled {window : MainWindow} {shown : RequestDialog}
    (hshown : window.restoreDialog = some shown) (event : DialogEvent) :
    (handled window shown event).control =
      window.control.withDialog fun dialog => (dialog.handle window.texts.dialog event).1 := by
  simp [handled, MainWindow.control, WindowControl.withDialog, hshown]

theorem onDialogEvent_eq {window : MainWindow} {shown : RequestDialog}
    (hshown : window.restoreDialog = some shown) (event : DialogEvent) :
    window.onDialogEvent service event =
      (handled window shown event).onDialogSignals service shown.request
        (shown.dialog.handle window.texts.dialog event).2 := by
  unfold MainWindow.onDialogEvent
  rw [hshown]
  rfl

theorem onDialogSignals_singleton (window : MainWindow) (request : RestoreRequest)
    (signal : DialogSignal) :
    window.onDialogSignals service request [signal] = window.onDialogSignal service request signal := by
  simp [MainWindow.onDialogSignals]

/-- A confirmation begins the restore of the dialog's request. -/
theorem confirm_step (hopen : app.closed = false) {shown : RequestDialog} (hshown : app.window.restoreDialog = some shown)
    {event : DialogEvent} (hmoves : ¬RestoreDialog.Moves event)
    (hstage : shown.dialog.stage = .confirmation) (hticked : shown.dialog.acknowledged = true)
    (hrunning : (shown.dialog.handle app.window.texts.dialog event).1.stage = .running) :
    Step app.coordination
      (app.perform ((handled app.window shown event).beginRestore service shown.request)).coordination := by
  have hcontrol := control_handled hshown event
  cases hidle : app.window.restoreRunning with
  | true =>
    rw [MainWindow.beginRestore_ignored service (handled app.window shown event) _ hidle]
    apply step_perform rfl
    rw [hcontrol]
    exact Step.input _ event hmoves fun _ _ _ => hidle
  | false =>
    obtain ⟨hbegun, heffects⟩ := MainWindow.beginRestore_control service
      (handled app.window shown event) shown.request hidle
    rw [perform_start heffects, hbegun, hcontrol]
    exact Step.confirm _ event hmoves hopen hidle shown hshown hstage hticked hrunning _

/-- A request to cancel reaches the worker before the first destructive step. -/
theorem cancelRestore_step {shown : RequestDialog} (hshown : app.window.restoreDialog = some shown)
    {event : DialogEvent} (hmoves : ¬RestoreDialog.Moves event)
    (hsignals : DialogSignal.restoreConfirmed ∉
      (shown.dialog.handle app.window.texts.dialog event).2) :
    Step app.coordination
      (app.perform ((handled app.window shown event).cancelRestore service)).coordination := by
  have hcontrol := control_handled hshown event
  rcases MainWindow.cancelRestore_control service (handled app.window shown event) with
    ⟨hignored, heffects⟩ | ⟨hrunning, hearly, hcancelled, heffects⟩
  · apply step_perform heffects
    rw [hignored, hcontrol]
    refine Step.input _ event hmoves fun shown' hshown' hconfirmed => absurd hconfirmed ?_
    obtain rfl := Option.some.inj (hshown.symm.trans hshown')
    exact hsignals
  · have hwindow : ((handled app.window shown event).withDialog
          fun dialog => dialog.setCancelling app.window.texts.dialog).control =
        app.window.control.withDialog fun dialog =>
          (dialog.handle app.window.texts.dialog event).1.setCancelling app.window.texts.dialog := by
      simp [handled, MainWindow.withDialog, MainWindow.control, WindowControl.withDialog, hshown]
    rw [perform_cancel heffects, hcancelled]
    change Step _ { app.coordination with window := _, workers := _ }
    rw [show (handled app.window shown event).texts = app.window.texts from rfl, hwindow]
    exact Step.cancel _ event hmoves hrunning hearly

/-- What the user does in the open dialog is a step of the coordination, a cancel and a confirmation
included. -/
theorem dialogEvent_step (hopen : app.closed = false) {event : DialogEvent} (hmoves : ¬RestoreDialog.Moves event) :
    Step app.coordination (app.perform (app.window.onDialogEvent service event)).coordination := by
  cases hshown : app.window.restoreDialog with
  | none =>
    have hnothing : app.window.onDialogEvent service event = (app.window, []) := by
      unfold MainWindow.onDialogEvent
      rw [hshown]
    rw [hnothing]
    exact step_of_control rfl rfl
  | some shown =>
    rw [onDialogEvent_eq hshown]
    have hquiet : DialogSignal.restoreConfirmed ∉
        (shown.dialog.handle app.window.texts.dialog event).2 →
        Step app.coordination { app.coordination with
          window := (handled app.window shown event).control } := by
      intro hsignals
      rw [control_handled hshown]
      refine Step.input _ event hmoves fun shown' hshown' hconfirmed => absurd hconfirmed ?_
      obtain rfl := Option.some.inj (hshown.symm.trans hshown')
      exact hsignals
    rcases RestoreDialog.handle_signals app.window.texts.dialog shown.dialog event with
      hsignals | hsignals | ⟨hsignals, hstage, hticked, hrunning⟩ | hsignals
    · rw [hsignals] at hquiet ⊢
      exact step_perform rfl (hquiet List.not_mem_nil)
    · rw [hsignals] at hquiet ⊢
      exact step_perform rfl (hquiet (by simp))
    · rw [hsignals, onDialogSignals_singleton]
      exact confirm_step hopen hshown hmoves hstage hticked hrunning
    · have hunconfirmed : DialogSignal.restoreConfirmed ∉
          (shown.dialog.handle app.window.texts.dialog event).2 := by simp [hsignals]
      rw [hsignals, onDialogSignals_singleton]
      exact cancelRestore_step hshown hmoves hunconfirmed

omit [Host] in
theorem unmoved_of_isInput {event : DialogEvent} (h : event.isInput = true) :
    ¬RestoreDialog.Moves event := by
  cases event <;> first | exact id | cases h

/-- What the user does in the window is a step of the coordination. -/
theorem event_step (hopen : app.closed = false) {event : WindowEvent} (h : app.window.reaches event = true) :
    Step app.coordination (app.perform (app.window.handle service event)).coordination := by
  cases event with
  | refresh shortcut =>
    apply refresh_step
    unfold MainWindow.reaches at h
    rw [Bool.and_eq_true, Bool.not_eq_true'] at h
    exact h.1
  | rowSelected row => exact step_of_control rfl (MainWindow.control_updateRestoreState service _)
  | styleSelected style => exact step_of_control rfl (MainWindow.control_updateRestoreState service _)
  | fileSystemSelected fileSystem =>
    exact step_of_control rfl (MainWindow.control_updateRestoreState service _)
  | restoreClicked => exact startRestore_step
  | languageClicked texts language =>
    exact step_of_control rfl (MainWindow.cycleLanguage_control service _ texts language)
  | refusalClosed => exact step_of_control rfl (MainWindow.control_updateRestoreState service _)
  | scanFinished disks error guard =>
    obtain ⟨hcontrol, heffects⟩ := MainWindow.applyScan_control service app.window disks error guard
    apply step_perform heffects
    change Step _ { app.coordination with window := (app.window.applyScan service disks error guard).1.control }
    rw [hcontrol]
    exact Step.scanned
  | stallTick seconds => exact stallTick_step seconds
  | dialog event =>
    apply dialogEvent_step hopen
    unfold MainWindow.reaches at h
    rw [Bool.and_eq_true] at h
    exact unmoved_of_isInput h.2

/-! ### Signals -/

/-- The delivery of a queued signal to the window is a step of the coordination. -/
theorem deliver_step {signal : WorkerSignal} {queue : List WorkerSignal}
    (hnext : app.queue = signal :: queue) :
    Step app.coordination ({ app with queue }.perform (app.window.onSignal service signal)).coordination := by
  have hdelivers : ∀ {slot : MainWindow × List WindowEffect}, workerEffects slot.2 = [] →
      Step app.coordination { app.coordination with window := slot.1.control, queue } →
      Step app.coordination ({ app with queue }.perform slot).coordination := by
    intro slot heffects hstep
    rw [perform_coordination heffects]
    exact hstep
  cases signal with
  | progress step totalSteps message =>
    obtain ⟨hcontrol, heffects⟩ :=
      MainWindow.onRestoreProgress_control app.window step totalSteps message
    apply hdelivers heffects
    change Step _ { app.coordination with
      window := (app.window.onRestoreProgress step totalSteps message).1.control, queue }
    rw [hcontrol]
    exact Step.progress _ step totalSteps message queue hnext
  | logMessage message =>
    apply hdelivers rfl
    exact Step.log (.logMessage message) queue hnext rfl
  | logFileOnly message =>
    apply hdelivers rfl
    exact Step.log (.logFileOnly message) queue hnext rfl
  | failed message =>
    obtain ⟨hcontrol, heffects⟩ := MainWindow.onRestoreFailed_control service app.window message
    apply hdelivers heffects
    change Step _ { app.coordination with
      window := (app.window.onRestoreFailed service message).1.control, queue }
    rw [hcontrol]
    exact Step.ended _ (.failed message) .error _ message queue hnext rfl
  | cancelled =>
    obtain ⟨message, hcontrol, heffects⟩ := MainWindow.onRestoreCancelled_control service app.window
    apply hdelivers heffects
    change Step _ { app.coordination with
      window := (app.window.onRestoreCancelled service).1.control, queue }
    rw [hcontrol]
    exact Step.ended _ .cancelled .cancelled _ message queue hnext rfl
  | finished location =>
    obtain ⟨message, hcontrol, heffects⟩ :=
      MainWindow.onRestoreFinished_control service app.window location
    apply hdelivers heffects
    change Step _ { app.coordination with
      window := (app.window.onRestoreFinished service location).1.control, queue }
    rw [hcontrol]
    exact Step.ended _ (.finished location) .complete _ message queue hnext rfl

/-- Every step of the application is one of the coordination. -/
theorem act_step {app app' : Application service} {next : ApplicationStep service}
    (h : app.act next = some app') : Step app.coordination app'.coordination := by
  cases next with
  | event event =>
    unfold act at h
    dsimp only at h
    split at h
    · next hreaches =>
      rw [Bool.and_eq_true, Bool.not_eq_true'] at hreaches
      cases h
      exact event_step hreaches.1 hreaches.2
    · cases h
  | deliver =>
    unfold act at h
    dsimp only at h
    cases hqueue : app.queue with
    | nil =>
      rw [hqueue] at h
      cases h
    | cons signal queue =>
      rw [hqueue] at h
      dsimp only at h
      split at h
      · cases h
      · cases h
        exact deliver_step hqueue
  | turn index now answer =>
    unfold act at h
    dsimp only at h
    cases hworker : app.workers[index]? with
    | none =>
      rw [hworker] at h
      cases h
    | some worker =>
      rw [hworker] at h
      obtain ⟨⟨worker', signals⟩, hturned, happ⟩ := Option.map_eq_some_iff.mp h
      cases happ
      exact Step.turn index worker worker' signals hworker now _ hturned
  | close =>
    unfold act at h
    dsimp only at h
    split at h
    · cases h
    · cases hclose : app.window.closeEvent service with
      | some refusal =>
        rw [hclose] at h
        cases h
        exact Step.idle
      | none =>
        rw [hclose] at h
        cases h
        refine Step.close ?_
        unfold MainWindow.closeEvent at hclose
        split at hclose
        · cases hclose
        · next hidle => exact (Bool.not_eq_true _).mp hidle

end Application

end UsbRestore
