-- SUMMARY: The worker that runs a restore: what it signals for each outcome of the backend.
import UsbRestore.Platform.DiskService

/-!
# The restore worker
-/

namespace UsbRestore

/-- What `RestoreWorker::run` emits at its end. A failure carries the text of the log, without
its prefix, and the text for the user. -/
inductive RestoreSignal where
  | finished (location : QString)
  | cancelled
  | failed (logError uiError : QString)
  deriving DecidableEq

/-- The end of `RestoreWorker::run`, for what the backend returned. The error texts of the caller
are empty before the call, and `cancelRequested` is the flag at the end of it. -/
def restoreWorkerSignal (installed : Catalog) (cancelRequested : Bool) :
    Except RestoreMessage RestoreResult → RestoreSignal
  | .ok result => .finished result.location
  | .error error =>
    if cancelRequested && error.english.isEmpty then .cancelled
    else
      let fallback := restoreText installed (QStringLiteral "The restore failed.")
      let logError := if error.english.isEmpty then fallback.english else error.english
      let uiError :=
        if error.display.isEmpty then
          if error.english.isEmpty then fallback.display else error.english
        else error.display
      .failed logError uiError

/-- Only a failure without a message is signalled as a cancellation. -/
theorem restoreWorkerSignal_cancelled {installed : Catalog} {cancelRequested : Bool}
    {outcome : Except RestoreMessage RestoreResult}
    (h : restoreWorkerSignal installed cancelRequested outcome = .cancelled) :
    ∃ error, outcome = .error error ∧ error.english = [] := by
  cases outcome with
  | ok result => cases h
  | error error =>
    unfold restoreWorkerSignal at h
    dsimp only at h
    split_ifs at h with hcancelled
    rw [Bool.and_eq_true, List.isEmpty_iff] at hcancelled
    exact ⟨error, rfl, hcancelled.2⟩

end UsbRestore
