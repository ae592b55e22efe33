-- SUMMARY: The restore worker in its thread: what it signals at each call of the backend, and at its end.
import UsbRestore.Platform.Backend
import UsbRestore.Platform.RestoreWorker

/-!
# The worker thread

A worker runs the restore of a backend and says what it hears in signals. The signals are queued for
the thread of the window; the request to cancel is a flag that both threads see.
-/

namespace UsbRestore

open Prog

/-- The signals of `RestoreWorker`. -/
inductive WorkerSignal where
  | progress (step totalSteps : Nat) (message : QString)
  | logMessage (message : QString)
  | logFileOnly (message : QString)
  | failed (message : QString)
  | cancelled
  | finished (location : QString)
  deriving DecidableEq

/-- `RestoreWorker` while `run` is under way: what is left of the restore, and the calls it has made. -/
structure RestoreWorker (service : DiskService) where
  request : RestoreRequest
  /-- The catalog that is installed during the restore. -/
  installed : Catalog
  program : Prog (service.I installed) RestoreMessage RestoreResult
  calls : List (Event (service.I installed)) := []
  /-- What the restore returned, once it has. -/
  result : Option (Except RestoreMessage RestoreResult) := none
  /-- What was signalled at the end. -/
  signalled : Option RestoreSignal := none
  step : Nat := 0
  stepStartedMs : Nat := 0
  cancelRequested : Bool := false

namespace RestoreWorker

variable {service : DiskService}

/-- The constructor, and the start of `run`. -/
def create (installed : Catalog) (request : RestoreRequest) : RestoreWorker service where
  request
  installed
  program := service.restore installed request

def requestCancel (worker : RestoreWorker service) : RestoreWorker service :=
  { worker with cancelRequested := true }

/-- `now` is the time since `run` was started. -/
def logStepDuration (worker : RestoreWorker service) (now : Nat) :
    RestoreWorker service × List WorkerSignal :=
  ({ worker with stepStartedMs := now },
    [.logFileOnly (
      if worker.step = 0 then (QStringLiteral "Restore setup took %1 ms").arg [.number now]
      else
        ((QStringLiteral "Step %1 took %2 ms").arg [.number worker.step]).arg
          [.numberInt (now - worker.stepStartedMs)])])

/-- `RestoreWorker::step` -/
def onStep (worker : RestoreWorker service) (message : RestoreMessage) (now : Nat) :
    RestoreWorker service × List WorkerSignal :=
  let (worker, duration) := worker.logStepDuration now
  let worker := { worker with step := min (worker.step + 1) service.totalRestoreSteps }
  (worker, duration ++ [.logMessage message.english,
    .progress worker.step service.totalRestoreSteps message.display])

/-- What the reporter does on a call of the backend. -/
def hear (worker : RestoreWorker service) (now : Nat) :
    Option Report → RestoreWorker service × List WorkerSignal
  | some (.step message) => worker.onStep message now
  | some (.detail message) => (worker, [.logFileOnly message])
  | some (.cancelRequested _) => (worker, [])
  | none => (worker, [])

/-- The signals of a restore that has ended. -/
def endSignals : RestoreSignal → List WorkerSignal
  | .finished location => [.finished location]
  | .cancelled => [.cancelled]
  | .failed logError uiError => [.logMessage ((QStringLiteral "ERROR: %1").arg [logError]), .failed uiError]

/-- The end of `RestoreWorker::run`. -/
def finish (worker : RestoreWorker service) (result : Except RestoreMessage RestoreResult) (now : Nat) :
    RestoreWorker service × List WorkerSignal :=
  let (worker, duration) := worker.logStepDuration now
  let signal := restoreWorkerSignal worker.installed worker.cancelRequested result
  ({ worker with result := some result, signalled := some signal },
    duration ++ .logFileOnly ((QStringLiteral "Restore attempt took %1 ms").arg [.number now]) ::
      endSignals signal)

/-- The answer to a cancellation query is the flag. -/
def answersFlag (worker : RestoreWorker service) (e : Event (service.I worker.installed)) : Bool :=
  match service.report e with
  | some (.cancelRequested answer) => answer == worker.cancelRequested
  | _ => true

/-- The next thing the thread does: a call of the backend with the answer it gets, or the end of `run`. -/
def turn (worker : RestoreWorker service)
    (answer : (o : (service.I worker.installed).Op) → (service.I worker.installed).Ans o) (now : Nat) :
    Option (RestoreWorker service × List WorkerSignal) :=
  if worker.result.isSome then none
  else
    match worker.program with
    | .ret result => some (worker.finish (.ok result) now)
    | .fail error => some (worker.finish (.error error) now)
    | .spin => none
    | .call o next =>
      let e : Event (service.I worker.installed) := ⟨o, answer o⟩
      if worker.answersFlag e then
        let worker : RestoreWorker service :=
          { worker with program := next (answer o), calls := worker.calls ++ [e] }
        some (worker.hear now (service.report e))
      else none

end RestoreWorker

end UsbRestore
