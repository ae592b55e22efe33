-- SUMMARY: The loop mapping over the open disk that a formatter writes through.
import UsbRestore.Linux.BlockDevice

/-!
# Loop devices

The kernel keeps the backing descriptor of a mapping, so a formatter never reopens the path
of the disk. The methods change the object, and return it with their verdict.
-/

namespace UsbRestore

variable [Host] {ε : Type}

/-- Only EIO comes from the drive underneath; the rest is a matter of the loop driver. -/
def loopErrorMessage (installed : Catalog) (operation : RestoreMessage) (errorNumber : Errno)
    (advice : RestoreMessage) : RestoreMessage :=
  let text (source : String) := restoreText installed (QStringLiteral source)
  let reason :=
    if errorNumber = Errno.EBUSY then text "the loop driver is busy with another mapping"
    else if errorNumber = Errno.EACCES ∨ errorNumber = Errno.EPERM then
      text "the system refused access to the loop driver"
    else if errorNumber = Errno.ENODEV then text "the loop driver is not available"
    else if errorNumber = Errno.ENXIO then text "the loop device went away"
    else if errorNumber = Errno.EINVAL then text "the loop mapping was rejected"
    else if errorNumber = Errno.EIO then text "the drive failed while writing"
    else if errorNumber = Errno.ENOSPC then text "the loop mapping ran out of room"
    else .ofText (Host.strerror errorNumber)
  (text "%1: %2 (errno %3). %4.").arg [operation, reason, numberMessage errorNumber, advice]

/-- `fd` and `claimFd` are none where `m_fd` and `m_claimFd` are -1. -/
structure LoopDevice where
  fd : Option Fd := none
  claimFd : Option Fd := none
  path : QString := []

namespace LoopDevice

/-- The flags of the exclusive claim, and of the descriptor the mapping is used through. -/
def claimFlags : OpenFlags := { write := true, excl := true, sync := false }

def useFlags : OpenFlags := { write := true, excl := false, sync := false }

def LoopControl : QString := QStringLiteral "/dev/loop-control"

/-- The lowest unbound node; after a busy one a new node, or it would come again. -/
def loopNumber (control : Fd) (busy : Bool) : Prog LinuxI ε (Except Errno Nat) :=
  if busy then Sys.loopCtlAdd control else Sys.loopCtlGetFree control

/-- Attempts of `configure`: `busy` says whether the last one met EBUSY, and `errorNumber` is
`errno`. Every exit without a mapping leaves no descriptor behind. -/
def configureAttempts (control : Fd) (config : LoopConfig) :
    (attempts : Nat) → (busy : Bool) → (errorNumber : Errno) →
      Prog LinuxI ε (Except Errno LoopDevice)
  | 0, _, errorNumber => return .error errorNumber
  | attempts + 1, busy, _ => do
    match ← loopNumber control busy with
    | .error code => return .error code
    | .ok number =>
      let path := (QStringLiteral "/dev/loop%1").arg [.number number]
      match ← Sys.openNode path claimFlags with
      | .error code =>
        if code = Errno.EBUSY then configureAttempts control config attempts true code
        else return .error code
      | .ok claim =>
        match ← Sys.loopConfigure claim config with
        | .ok () =>
          match ← Sys.openNode path useFlags with
          | .ok fd => return .ok { fd := some fd, claimFd := some claim, path }
          | .error code =>
            let _ ← Sys.loopClrFd claim
            Sys.close claim
            return .error code
        | .error code =>
          Sys.close claim
          if code = Errno.EBUSY then configureAttempts control config attempts true code
          else return .error code

/-- The size of what is to be mapped, of a regular file or a block device. -/
def backingSize (backingDescriptor : Fd) (status : FileStatus) : Prog LinuxI ε (Option UInt64) := do
  match status.kind with
  | .regular => return some status.size
  | .block =>
    match ← Sys.blkGetSize64 backingDescriptor with
    | .ok size => return some size
    | .error _ => return none
  | .other => return none

/-- Returns the object with its mapping, which clears itself after the last close. A failure
leaves no descriptor behind. -/
def configure (installed : Catalog) (formatter : LoopDevice) (backingDescriptor : Fd)
    (offset length : UInt64) (sectorSize : UInt32) : Prog LinuxI RestoreMessage LoopDevice := do
  let text (source : String) := restoreText installed (QStringLiteral source)
  if formatter.fd.isSome || formatter.claimFd.isSome then
    .fail (text "A formatting area is already set up for this drive. Unplug the drive, plug it back in and try again.")
  else match ← Sys.fstat backingDescriptor with
  | .error errorNumber =>
    .fail (loopErrorMessage installed
      (text "Could not read the drive through the formatting area") errorNumber
      (text "Try the restore again"))
  | .ok status =>
    match ← backingSize backingDescriptor status with
    | none =>
      .fail (text "The drive could not be read for formatting. Unplug it, plug it back in and try again.")
    | some size =>
      if !isValidDeviceRange size offset length sectorSize then
        .fail (text "The space set aside for the new volume is outside the drive or is not aligned to its sectors. Refresh the list and select the drive again.")
      else
        match ← Sys.openNode LoopControl useFlags with
        | .error errorNumber =>
          .fail (loopErrorMessage installed
            (text "Could not reach the Linux loop driver at /dev/loop-control, which formatting needs")
            errorNumber
            (text "Make sure the loop module is loaded (modprobe loop) and try again"))
        | .ok control =>
          let config : LoopConfig :=
            { fd := backingDescriptor, blockSize := sectorSize, offset, sizeLimit := length,
              autoclear := true }
          let configured ← configureAttempts control config 8 false 0
          Sys.close control
          match configured with
          | .ok formatter => return formatter
          | .error errorNumber =>
            .fail (loopErrorMessage installed
              (text "Could not set up the temporary area used to format the drive") errorNumber
              (text "Close other disk tools that may be holding loop devices, such as GNOME Disks, and try again"))

def releaseClaim (formatter : LoopDevice) : Prog LinuxI ε LoopDevice := do
  match formatter.claimFd with
  | none => return formatter
  | some claim =>
    Sys.close claim
    return { formatter with claimFd := none }

/-- Gives the exclusive claim up only once the mapping sees the new sectors. -/
def prepareForFormatting (installed : Catalog) (formatter : LoopDevice) :
    Prog LinuxI RestoreMessage (Except RestoreMessage Unit × LoopDevice) := do
  let refuse (errorNumber : Errno) : RestoreMessage :=
    loopErrorMessage installed
      (restoreText installed (QStringLiteral "Could not make the new partition available to the formatter"))
      errorNumber
      (restoreText installed (QStringLiteral "Unplug the drive, plug it back in and try again"))
  match formatter.fd with
  | none => return (.error (refuse 0), formatter)
  | some fd =>
    match ← Sys.blkFlsBuf fd with
    | .error errorNumber => return (.error (refuse errorNumber), formatter)
    | .ok () =>
      let formatter ← formatter.releaseClaim
      return (.ok (), formatter)

/-- Releases whatever the object still holds, on every path. -/
def detach (installed : Catalog) (formatter : LoopDevice) :
    Prog LinuxI ε (Except RestoreMessage Unit × LoopDevice) := do
  let text (source : String) := restoreText installed (QStringLiteral source)
  match formatter.fd with
  | none =>
    let formatter ← formatter.releaseClaim
    return (.ok (), formatter)
  | some fd =>
    let synced ← Sys.fsync fd
    let _ ← formatter.releaseClaim
    let cleared ← Sys.loopClrFd fd
    let verdict : Except RestoreMessage Unit := match synced, cleared with
      | .error errorNumber, _ =>
        .error (loopErrorMessage installed
          (text "Could not finish writing the new volume to the drive") errorNumber
          (text "Unplug the drive, plug it back in and check whether the volume appears; if it does not, run the restore again"))
      | .ok (), .error errorNumber =>
        .error (loopErrorMessage installed
          (text "The new volume was written, but its temporary formatting area could not be closed")
          errorNumber
          (text "Unplug the drive and plug it back in; this does not damage the drive"))
      | .ok (), .ok () => .ok ()
    Sys.close fd
    return (verdict, {})

end LoopDevice

end UsbRestore
