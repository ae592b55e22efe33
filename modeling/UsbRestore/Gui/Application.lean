-- SUMMARY: The application: its window, the workers it has started, and the signals between them.
import UsbRestore.Gui.MainWindow

/-!
# The application

The thread of the window handles one event at a time; a worker runs in a thread of its own. Between them
are the flag of the worker and the queue of its signals. Which thread goes on is left open.
-/

namespace UsbRestore

open Prog

structure Application (service : DiskService) where
  window : MainWindow
  /-- Every worker that was started, the last one first. -/
  workers : List (RestoreWorker service) := []
  /-- The signals of the workers that are not delivered yet. -/
  queue : List WorkerSignal := []
  closed : Bool := false

/-- What can happen next. -/
inductive ApplicationStep (service : DiskService) where
  | event (event : WindowEvent)
  /-- The window is told of the next signal. -/
  | deliver
  /-- A worker goes on. -/
  | turn (index : Nat) (now : Nat)
    (answer : (installed : Catalog) → (o : (service.I installed).Op) → (service.I installed).Ans o)
  /-- The window is asked to close. -/
  | close

namespace Application

variable [Host] {service : DiskService}

def performEffect (app : Application service) : WindowEffect → Application service
  | .startWorker request =>
    { app with workers := RestoreWorker.create app.window.texts.installed request :: app.workers }
  | .requestCancel => { app with workers := app.workers.modifyHead RestoreWorker.requestCancel }
  | _ => app

/-- The window after a slot, and what the slot asked for. -/
def perform (app : Application service) (slot : MainWindow × List WindowEffect) : Application service :=
  slot.2.foldl performEffect { app with window := slot.1 }

def act (app : Application service) : ApplicationStep service → Option (Application service)
  | .event event =>
    if !app.closed && app.window.reaches event then
      some (app.perform (app.window.handle service event))
    else none
  | .deliver =>
    match app.queue with
    | [] => none
    | signal :: queue =>
      if app.closed then none
      else some ({ app with queue }.perform (app.window.onSignal service signal))
  | .turn index now answer =>
    match app.workers[index]? with
    | none => none
    | some worker =>
      (worker.turn (answer worker.installed) now).map fun (worker, signals) =>
        { app with workers := app.workers.set index worker, queue := app.queue ++ signals }
  | .close =>
    if app.closed then none
    else
      match app.window.closeEvent service with
      | some _ => some app
      | none => some { app with closed := true }

/-- The application when its window has been built. -/
def start (texts : Translators) (language : Language) (style : PartitionStyle)
    (fileSystem : FileSystemType) : Application service :=
  perform { window := { texts } } (MainWindow.create service texts language style fileSystem)

/-- The application after some steps; none where one of them cannot happen. -/
def after (app : Application service) (steps : List (ApplicationStep service)) :
    Option (Application service) :=
  steps.foldlM act app

/-- What the application can come to, from whatever settings. -/
inductive Reachable : Application service → Prop where
  | start (texts : Translators) (language : Language) (style : PartitionStyle)
    (fileSystem : FileSystemType) : Reachable (start texts language style fileSystem)
  | step {app app' : Application service} (before : Reachable app) (next : ApplicationStep service)
    (acts : app.act next = some app') : Reachable app'

theorem Reachable.after {app app' : Application service} (h : app.Reachable)
    {steps : List (ApplicationStep service)} (hsteps : app.after steps = some app') :
    app'.Reachable :=
  foldlM_keeps (fun _ next _ before acts => before.step next acts) h hsteps

end Application

end UsbRestore
