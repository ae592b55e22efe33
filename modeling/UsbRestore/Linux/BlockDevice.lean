-- SUMMARY: The open block device: identity checks, raw writes, and the errors of its system calls.
import UsbRestore.Core.PartitionTable
import UsbRestore.Linux.Enumerate

/-!
# Block devices

A method that only reads the object takes it and fails with the message that it would put
into `*error`. A method that changes the object returns it, with its verdict beside it.
-/

namespace UsbRestore

variable [Host]

/-- Loops that an interrupted call or a clock keeps going take fuel and `spin` without it. -/
abbrev LoopFuel := Nat

def deviceErrorMessage (installed : Catalog) (context : RestoreMessage) (errorNumber : Errno) :
    RestoreMessage :=
  let text (source : String) := restoreText installed (QStringLiteral source)
  let again := text "Unplug the drive, plug it back in and try again"
  let (reason, advice) :=
    if errorNumber = Errno.EBUSY then
      (text "another program still has it open",
        text "Close that program, unmount every partition on the drive and try again")
    else if errorNumber = Errno.EACCES ∨ errorNumber = Errno.EPERM ∨ errorNumber = Errno.EROFS then
      (text "the drive would not accept writes",
        text "If it has a write-protect switch, turn it off and try again. If it has none, the drive may have made itself read-only, which worn drives do, and needs replacing")
    else if errorNumber = Errno.EIO then
      (text "the drive stopped answering",
        text "Unplug it, plug it back in and try again; if it keeps happening the drive is damaged")
    else if errorNumber = Errno.ENXIO ∨ errorNumber = Errno.ENODEV then
      (text "the drive is no longer there",
        text "Plug it back in, refresh the list and select it again")
    else if errorNumber = Errno.ENOSPC then
      (text "the drive ran out of room before its reported size",
        text "Unplug it, plug it back in and try again; if it happens again the drive is smaller than it claims")
    else (.ofText (Host.strerror errorNumber), again)
  (text "%1: %2 (errno %3). %4.").arg [context, reason, numberMessage errorNumber, advice]

/-- `fd` is none where `m_fd` is -1. -/
structure BlockDevice where
  devicePath : QString
  fd : Option Fd := none

namespace BlockDevice

inductive Access where
  /-- Read-only and shared. -/
  | inspect
  /-- Fails while any partition is mounted or claimed. -/
  | exclusive

def Access.flags : Access → OpenFlags
  | .inspect => { write := false, excl := false, sync := false }
  | .exclusive => { write := true, excl := true, sync := true }

variable (installed : Catalog) (device : BlockDevice)

/-- A refusal about the device path. -/
def refusal (source : QString) : RestoreMessage :=
  (restoreText installed source).arg [.ofText device.devicePath]

def close {ε : Type} : Prog LinuxI ε BlockDevice := do
  match device.fd with
  | none => return device
  | some fd =>
    Sys.close fd
    return { device with fd := none }

/-- Returns the descriptor that the object holds now. -/
def «open» {ε : Type} (access : Access) :
    Prog LinuxI ε (Except RestoreMessage Fd × BlockDevice) := do
  let device ← device.close
  match ← Sys.openNode device.devicePath access.flags with
  | .ok fd => return (.ok fd, { device with fd := some fd })
  | .error errorNumber =>
    let busy : Bool := match access with
      | .exclusive => errorNumber == Errno.EBUSY
      | .inspect => false
    if busy then
      return (.error (device.refusal installed (QStringLiteral "%1 is still in use. Close anything reading from the drive, make sure every partition is unmounted, and try again.")), device)
    else
      return (.error (deviceErrorMessage installed
        (device.refusal installed (QStringLiteral "Could not open %1")) errorNumber), device)

def sizeInBytes {ε : Type} : Prog LinuxI ε UInt64 := do
  match device.fd with
  | none => return 0
  | some fd =>
    match ← Sys.blkGetSize64 fd with
    | .ok size => return size
    | .error _ => return 0

def logicalSectorSize {ε : Type} : Prog LinuxI ε UInt32 := do
  match device.fd with
  | none => return 0
  | some fd =>
    match ← Sys.blkSszGet fd with
    | .ok sectorSize => return sectorSize
    | .error _ => return 0

def blockDeviceNumber (fd : Fd) : Prog LinuxI RestoreMessage DeviceNumber := do
  match ← Sys.fstat fd with
  | .error errorNumber =>
    .fail (deviceErrorMessage installed
      (device.refusal installed (QStringLiteral "Could not read the device information of %1"))
      errorNumber)
  | .ok status =>
    if status.kind ≠ .block then
      .fail (device.refusal installed (QStringLiteral "%1 is not a disk device."))
    else return status.rdev

/-- None before kernel 5.15. -/
def diskSequence {ε : Type} : Prog LinuxI ε (Option UInt64) := do
  match device.fd with
  | none => return none
  | some fd =>
    match ← Sys.blkGetDiskSeq fd with
    | .ok value => return if value = 0 then none else some value
    | .error _ => return none

/-- The part of `verifyIdentity` that asks the descriptor which instance it holds. -/
def verifySequence (expected : DiskInfo) : Prog LinuxI RestoreMessage Unit := do
  let unknown := device.refusal installed (QStringLiteral "%1 does not report which instance of the drive it is, so the tool cannot be sure this is the disk you selected. Linux restores need kernel 5.15 or newer (check with `uname -r`).")
  if expected.deviceSequence.isNone then .fail unknown
  else
    match ← device.diskSequence with
    | none => .fail unknown
    | some sequence =>
      .ofExcept (checkRestoreError installed
        (isSameDeviceSequence device.devicePath expected.deviceSequence (some sequence)))

/-- The part of `verifyIdentity` that asks the descriptor for its size and sector size. -/
def verifyGeometry (expected : DiskInfo) : Prog LinuxI RestoreMessage Unit := do
  let reportedSize ← device.sizeInBytes
  if reportedSize = 0 then
    .fail (device.refusal installed (QStringLiteral "%1 reports no usable media. The drive may be empty, damaged, or not fully plugged in."))
  else if expected.size ≠ 0 ∧ reportedSize ≠ expected.size then
    .fail ((restoreText installed (QStringLiteral "%1 now holds a %2 drive, not the %3 that was selected. Refresh and select the USB again.")).arg
      [.ofText device.devicePath, formatByteSizeMessage installed reportedSize,
        formatByteSizeMessage installed expected.size])
  else
    let reportedSector ← device.logicalSectorSize
    if reportedSector = 0 ∨ reportedSector ≠ expected.sectorSize then
      .fail ((restoreText installed (QStringLiteral "%1 uses %2-byte sectors, not the %3-byte sectors the layout was built for. Refresh and select the USB again.")).arg
        [.ofText device.devicePath, numberMessage reportedSector.toNat,
          numberMessage expected.sectorSize.toNat])
    else return ()

/-- The descriptor is asked first, then sysfs about the node it was opened through. -/
def verifyIdentity (expected : DiskInfo) : Prog LinuxI RestoreMessage Unit := do
  match device.fd with
  | none =>
    .fail (device.refusal installed (QStringLiteral "%1 is not open, so nothing could be checked on it."))
  | some fd =>
    let actual ← device.blockDeviceNumber installed fd
    device.verifySequence installed expected
    let diskName := QString.fileName device.devicePath
    let expectedNumber ← readDeviceNumber ((QStringLiteral "/sys/block/%1").arg [diskName])
    if !expectedNumber.isValid then
      .fail (device.refusal installed (QStringLiteral "%1 is not listed under /sys/block as a whole disk. Select the drive itself, such as /dev/sdb rather than /dev/sdb1."))
    else if actual ≠ expectedNumber then
      .fail (device.refusal installed (QStringLiteral "%1 no longer points at the disk that was selected. Refresh and select the USB again."))
    else
      device.verifyGeometry installed expected
      let readOnly ← readSysfsAttribute ((QStringLiteral "/sys/block/%1/ro").arg [diskName])
      if readOnly = QStringLiteral "1" then
        .fail (device.refusal installed (QStringLiteral "%1 is write-protected and cannot be formatted. Check for a write-protect switch on the drive."))
      else if !(← isUsbBlockDevice diskName) then
        .fail (device.refusal installed (QStringLiteral "%1 is not on the USB bus."))
      else
        let current ← diskInfoFor diskName
        .ofExcept (checkRestoreError installed (isSameRestoreTarget expected current))

/-- Whether this node is a partition of the disk instance that was formatted. -/
def verifyPartitionOf (diskName : QString) (expectedSequence : Option UInt64) :
    Prog LinuxI RestoreMessage Unit := do
  match device.fd with
  | none =>
    .fail (device.refusal installed (QStringLiteral "%1 is not open, so the new partition could not be checked."))
  | some fd =>
    let actual ← device.blockDeviceNumber installed fd
    let partitionName := QString.fileName device.devicePath
    let expectedNumber ←
      readDeviceNumber ((QStringLiteral "/sys/block/%1/%2").arg [diskName, partitionName])
    if !expectedNumber.isValid ∨ actual ≠ expectedNumber then
      .fail ((restoreText installed (QStringLiteral "%1 did not appear as a partition of /dev/%2. Unplug the drive, plug it back in and try again.")).arg
        [.ofText device.devicePath, .ofText diskName])
    else
      match expectedSequence with
      | none => return ()
      | some sequence =>
        if (← device.diskSequence) = some sequence then return ()
        else
          .fail (device.refusal installed (QStringLiteral "%1 is not the drive the partition table was written to: a different disk took its place during the restore."))

/-! ## Writing -/

/-- `O_SYNC` flushes each write, so a signature area should take one request. -/
def WriteChunkBytes : UInt64 := 4 * 1024 * 1024

/-- The loop of `writeAt`, after `written` bytes. -/
def writeFrom (fd : Fd) (offset : UInt64) (data : QByteArray) :
    (fuel : LoopFuel) → (written : Nat) → Prog LinuxI RestoreMessage Unit
  | 0, _ => .spin
  | fuel + 1, written => do
    if data.size ≤ written then return ()
    match ← Sys.pwrite fd (data.slice written (data.size - written))
        (offset + UInt64.ofNat written) with
    | .error errorNumber =>
      if errorNumber = Errno.EINTR then writeFrom fd offset data fuel written
      else
        .fail (deviceErrorMessage installed
          (device.refusal installed (QStringLiteral "Could not write to %1")) errorNumber)
    | .ok 0 =>
      .fail (device.refusal installed (QStringLiteral "%1 stopped accepting data part way through the write. Unplug the drive, plug it back in and try again; if it keeps happening the drive is damaged."))
    | .ok count => writeFrom fd offset data fuel (written + count)

def writeAt (fuel : LoopFuel) (offset : UInt64) (data : QByteArray) :
    Prog LinuxI RestoreMessage Unit := do
  match device.fd with
  | none =>
    .fail (device.refusal installed (QStringLiteral "%1 is not open, so nothing could be written to it."))
  | some fd => device.writeFrom installed fd offset data fuel 0

/-- The loop of `writeZeros`, with `remaining` bytes still to clear at `cursor`. -/
def writeZerosFrom (fuel : LoopFuel) (zeros : QByteArray) :
    (rounds : LoopFuel) → (cursor remaining : UInt64) → Prog LinuxI RestoreMessage Unit
  | 0, _, _ => .spin
  | rounds + 1, cursor, remaining => do
    if remaining = 0 then return ()
    let count := if remaining < UInt64.ofNat zeros.size then remaining else UInt64.ofNat zeros.size
    device.writeAt installed fuel cursor
      (if count.toNat = zeros.size then zeros else zeros.left count.toNat)
    writeZerosFrom fuel zeros rounds (cursor + count) (remaining - count)

/-- The zeros that one request of `writeZeros` sends: whole sectors, as many as fit. -/
def zeroChunk (bytes : UInt64) (sectorSize : UInt32) : QByteArray :=
  let sector := (supportedOr512 sectorSize).toUInt64
  let chunk := ((if bytes < WriteChunkBytes then bytes else WriteChunkBytes) / sector) * sector
  Bytes.zeros (if 0 < chunk then chunk.toNat else sector.toNat)

def writeZeros (fuel : LoopFuel) (offset bytes : UInt64) (sectorSize : UInt32) :
    Prog LinuxI RestoreMessage Unit := do
  if bytes = 0 then return ()
  let unaligned := unalignedZeroRangeError offset bytes sectorSize .english
  if !unaligned.isEmpty then
    .fail
      { english := unaligned
        display := unalignedZeroRangeError offset bytes sectorSize (.display installed) }
  else device.writeZerosFrom installed fuel (zeroChunk bytes sectorSize) fuel offset bytes

def flush : Prog LinuxI RestoreMessage Unit := do
  match device.fd with
  | none => return ()
  | some fd =>
    match ← Sys.fsync fd with
    | .error errorNumber =>
      .fail (deviceErrorMessage installed
        (device.refusal installed (QStringLiteral "Could not save the changes to %1")) errorNumber)
    | .ok () =>
      -- Whatever it answers, the call only drops the cached copy.
      let _ ← Sys.blkFlsBuf fd
      return ()

def rereadPartitionTable : Prog LinuxI RestoreMessage Unit := do
  match device.fd with
  | none =>
    .fail (device.refusal installed (QStringLiteral "%1 is not open, so its partition table could not be re-read."))
  | some fd =>
    match ← Sys.blkRrPart fd with
    | .error errorNumber =>
      .fail (deviceErrorMessage installed
        (device.refusal installed (QStringLiteral "The new partition table was written to %1, but the system would not re-scan it"))
        errorNumber)
    | .ok () => return ()

end BlockDevice

end UsbRestore
