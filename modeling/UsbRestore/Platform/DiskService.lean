-- SUMMARY: Restore requests, and the reporter a backend talks to while it restores.
import UsbRestore.Core.RestoreMessage
import UsbRestore.Core.Safety

/-!
# The disk service interface
-/

namespace UsbRestore

inductive Language where
  | system
  | english
  | german
  deriving DecidableEq

structure RestoreRequest where
  disk : DiskInfo := {}
  style : PartitionStyle := .gpt
  fileSystem : FileSystemType := .exFat
  volumeLabel : QString := []
  guard : RestoreGuard := {}
  displayLanguage : Language := .english

structure RestoreResult where
  location : QString := []
  deriving DecidableEq

/-- The virtual calls of a `RestoreReporter`. A step call carries the message it is made
with and the step it stands for. -/
inductive ReporterOp where
  | step (step : RestoreStep) (message : RestoreMessage)
  | detail (message : QString)
  | cancelRequested

def ReporterOp.Ans : ReporterOp → Type
  | .step _ _ => Unit
  | .detail _ => Unit
  | .cancelRequested => Bool

end UsbRestore
