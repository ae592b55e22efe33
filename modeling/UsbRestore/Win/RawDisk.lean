-- SUMMARY: The raw disk: zeroing, what its driver reports of the layout and of the serial number.
import UsbRestore.Base.Reading
import UsbRestore.Core.Geometry
import UsbRestore.Win.WindowsUtil

/-!
# The raw disk

Zeros are written through the file pointer of the handle, which the disk keeps. What a driver answers
to a question is a buffer and how much of it the driver has filled; everything that is looked up in it
is a reading.
-/

namespace UsbRestore

open WindowsError

/-! ## Calls -/

inductive RawOp where
  | win (op : WinOp)
  /-- `SetFilePointerEx` from the beginning of the disk. -/
  | setFilePointerEx (handle : Handle) (position : UInt64)
  /-- How many bytes were written, from the file pointer on. -/
  | writeFile (handle : Handle) (data : QByteArray)
  | sleep (milliseconds : Nat)
  | flushFileBuffers (handle : Handle)
  /-- `IOCTL_DISK_UPDATE_PROPERTIES` -/
  | updateProperties (handle : Handle)
  /-- `IOCTL_DISK_GET_DRIVE_LAYOUT_EX` with a buffer of this many bytes: how many were returned, and
  the buffer. -/
  | driveLayout (handle : Handle) (bytes : Nat)
  /-- `IOCTL_STORAGE_QUERY_PROPERTY` for the device, answered in the same way. -/
  | storageProperty (handle : Handle) (bytes : Nat)

def RawOp.Ans : RawOp → Type
  | .win op => op.Ans
  | .setFilePointerEx _ _ => Except Dword Unit
  | .writeFile _ _ => Except Dword Dword
  | .sleep _ => Unit
  | .flushFileBuffers _ => Except Dword Unit
  | .updateProperties _ => Except Dword Unit
  | .driveLayout _ _ => Except Dword (Dword × QByteArray)
  | .storageProperty _ _ => Except Dword (Dword × QByteArray)

def RawI : Interface := ⟨RawOp, RawOp.Ans⟩

variable {ε α : Type}

def raw (o : RawOp) : Prog RawI ε o.Ans := Prog.op (I := RawI) o

/-- A program that asks Windows alone. -/
def Prog.ofWin : Prog WinI ε α → Prog RawI ε α
  | .ret a => .ret a
  | .fail e => .fail e
  | .spin => .spin
  | .call o next => .call (.win o) fun ans => (next ans).ofWin

/-- `RawDisk` while it is open. -/
structure RawDisk where
  diskNumber : UInt32
  handle : Handle
  writeAccepted : Bool := false
  notReadyRetries : Nat := 0

namespace RawDisk

def lastError (installed : Catalog) (disk : RawDisk) (operation : QString) (code : Dword) :
    Prog RawI ε RestoreMessage :=
  (windowsDeviceErrorMessage installed
    ((restoreText installed (QStringLiteral "Could not %1 on disk %2")).arg
      [restoreText installed operation, numberMessage disk.diskNumber.toNat]) code).ofWin

def refreshLayout (installed : Catalog) (disk : RawDisk) :
    Prog RawI ε (Except RestoreMessage Unit) := do
  match ← raw (.updateProperties disk.handle) with
  | .ok () => return .ok ()
  | .error code =>
    let message ← disk.lastError installed (QStringLiteral "refresh the disk properties") code
    return .error message

/-! ## Zeroing -/

def MaxNotReadyRetries : Nat := 10

def NotReadyRetryDelayMs : Nat := 500

def alignDown (value alignment : UInt64) : UInt64 :=
  if alignment = 0 then value else value / alignment * alignment

/-- The size of the buffer of zeros: a megabyte in whole sectors, or one sector that is larger. A
sector that an `int` cannot hold makes the buffer empty. -/
def zeroBufferBytes (sector : UInt64) : Nat :=
  let bufferSize := alignDown (1024 * 1024) sector
  if 0 < bufferSize then bufferSize.toNat
  else if sector.toNat < 2 ^ 31 then sector.toNat else 0

/-- The loop of `writeZeros`. -/
def writeZerosFrom (installed : Catalog) (offset bytes : UInt64) (buffer : QByteArray) :
    (fuel : Nat) → RawDisk → (remaining : UInt64) → Prog RawI ε (Except RestoreMessage Unit × RawDisk)
  | 0, _, _ => .spin
  | fuel + 1, disk, remaining => do
    if remaining = 0 then return (.ok (), disk)
    else
      let toWrite := min remaining (UInt64.ofNat buffer.size)
      match ← raw (.writeFile disk.handle (buffer.left toWrite.toNat)) with
      | .error code =>
        if code = ERROR_NOT_READY ∧ disk.writeAccepted = false ∧
            disk.notReadyRetries < MaxNotReadyRetries then
          let disk := { disk with notReadyRetries := disk.notReadyRetries + 1 }
          raw (.sleep NotReadyRetryDelayMs)
          -- A refused write may have moved the file pointer.
          match ← raw (.setFilePointerEx disk.handle (offset + (bytes - remaining))) with
          | .error code =>
            let message ← disk.lastError installed (QStringLiteral "seek to the write position") code
            return (.error message, disk)
          | .ok () => writeZerosFrom installed offset bytes buffer fuel disk remaining
        else
          let message ← (windowsDeviceErrorMessage installed
            ((restoreText installed
              (QStringLiteral "Could not clear old signatures on disk %1")).arg
              [numberMessage disk.diskNumber.toNat]) code).ofWin
          return (.error message, disk)
      | .ok written =>
        if written = 0 then
          let message := (restoreText installed (QStringLiteral
            ("Disk %1 stopped accepting writes while clearing old signatures. Unplug the drive, " ++
              "plug it back in and try again; if it keeps happening, try another USB port or " ++
              "replace the drive."))).arg [numberMessage disk.diskNumber.toNat]
          return (.error message, disk)
        else
          writeZerosFrom installed offset bytes buffer fuel { disk with writeAccepted := true }
            (remaining - written.toUInt64)

/-- A disk is changed by its own writes, whatever they came to. -/
def writeZeros (installed : Catalog) (fuel : Nat) (disk : RawDisk) (offset bytes : UInt64)
    (sectorSize : UInt32) : Prog RawI ε (Except RestoreMessage Unit × RawDisk) := do
  if bytes = 0 then return (.ok (), disk)
  else
    let unaligned : RestoreMessage :=
      { english := unalignedZeroRangeError offset bytes sectorSize .english
        display := unalignedZeroRangeError offset bytes sectorSize (.display installed) }
    if !unaligned.english.isEmpty then
      return (.error ((restoreText installed (QStringLiteral
        "Could not clear old signatures on disk %1: %2 Restart the app and try again.")).arg
        [numberMessage disk.diskNumber.toNat, unaligned]), disk)
    else
      match ← raw (.setFilePointerEx disk.handle offset) with
      | .error code =>
        let message ← disk.lastError installed (QStringLiteral "seek to the write position") code
        return (.error message, disk)
      | .ok () =>
        let sector := if sectorSize = 0 then 512 else sectorSize.toUInt64
        writeZerosFrom installed offset bytes (Bytes.zeros (zeroBufferBytes sector)) fuel disk bytes

def clearPartitionSignatures (installed : Catalog) (fuel : Nat) (disk : RawDisk)
    (diskSize : UInt64) (sectorSize : UInt32) :
    Prog RawI ε (Except RestoreMessage Unit × RawDisk) := do
  let clear := signatureClearRange diskSize sectorSize
  if clear.bytes = 0 then
    return (.error ((restoreText installed (QStringLiteral
      "Disk %1 is too small to clear safely. Select a larger USB drive.")).arg
      [numberMessage disk.diskNumber.toNat]), disk)
  else
    let (head, disk) ← disk.writeZeros installed fuel 0 clear.bytes clear.sectorSize
    match head with
    | .error message => return (.error message, disk)
    | .ok () =>
      let (tail, disk) ←
        disk.writeZeros installed fuel clear.tailOffset clear.bytes clear.sectorSize
      match tail with
      | .error message => return (.error message, disk)
      | .ok () =>
        let _ ← raw (.flushFileBuffers disk.handle)
        let _ ← disk.refreshLayout installed
        return (.ok (), disk)

/-! ## The partition table -/

/-- `offsetof(DRIVE_LAYOUT_INFORMATION_EX, PartitionEntry)` -/
def PartitionEntryOffset : Nat := 48

/-- `sizeof(PARTITION_INFORMATION_EX)` -/
def PartitionInformationBytes : Nat := 144

def MaxEntries : Nat := 128

/-- `PartitionLength` of an entry is a positive `LONGLONG`. -/
def hasLength (index : Nat) : Reading Bool := do
  let length ← Reading.le (PartitionEntryOffset + PartitionInformationBytes * index + 16) 8
  return decide (0 < length ∧ length < 2 ^ 63)

/-- The number of entries is at offset 4. The loop breaks at the first entry with a length. -/
def layoutEntries (returned : Dword) : Reading Bool := do
  let reported ← Reading.le 4 4
  let count := boundedEntryCount (UInt32.ofNat reported) returned.toUInt64
    (UInt64.ofNat PartitionEntryOffset) (UInt64.ofNat PartitionInformationBytes)
  Reading.any hasLength (List.range count.toNat)

def layoutHasPartitions (installed : Catalog) (disk : RawDisk) :
    Prog RawI ε (Except RestoreMessage Bool) := do
  match ← raw (.driveLayout disk.handle
      (PartitionEntryOffset + PartitionInformationBytes * MaxEntries)) with
  | .error code =>
    let message ← disk.lastError installed (QStringLiteral "read the partition table") code
    return .error message
  | .ok (returned, buffer) =>
    if returned.toNat < PartitionEntryOffset then
      return .error ((restoreText installed (QStringLiteral
        ("Windows returned an incomplete partition table for disk %1. Unplug the drive, plug it " ++
          "back in and try again."))).arg [numberMessage disk.diskNumber.toNat])
    else return .ok ((layoutEntries returned).value buffer)

end RawDisk

/-! ## The storage descriptor -/

/-- `sizeof(STORAGE_DESCRIPTOR_HEADER)` -/
def StorageHeaderBytes : Nat := 8

/-- `sizeof(STORAGE_DEVICE_DESCRIPTOR)` -/
def StorageDescriptorBytes : Nat := 40

/-- The header tells the size of the descriptor at offset 4. The result is as long as what the second
answer filled. -/
def readStorageDeviceDescriptor (handle : Handle) : Prog RawI ε (Except Dword QByteArray) := do
  match ← raw (.storageProperty handle StorageHeaderBytes) with
  | .error code => return .error code
  | .ok (returned, header) =>
    let size := header.readLe 4 4
    if returned.toNat < StorageHeaderBytes ∨ size < StorageDescriptorBytes ∨ size > 64 * 1024 then
      return .error ERROR_INVALID_DATA
    else
      match ← raw (.storageProperty handle size) with
      | .error code => return .error code
      | .ok (returned, full) =>
        if returned.toNat < StorageDescriptorBytes then return .error ERROR_INVALID_DATA
        else return .ok (full.left returned.toNat)

/-- How many of the `available` bytes from `start` on come before the first NUL. -/
def serialLength (start : Nat) : (available : Nat) → Reading Nat
  | 0 => pure 0
  | available + 1 => do
    let c ← Reading.byte start
    if c = 0 then return 0
    let length ← serialLength (start + 1) available
    return length + 1

/-- `QString::fromLatin1` -/
def fromLatin1 (bytes : List UInt8) : QString := bytes.map UInt8.toUInt16

/-- `SerialNumberOffset` is at offset 24. -/
def serialFromDescriptor : Reading QString := do
  let size ← Reading.size
  if size < StorageDescriptorBytes then return []
  let offset ← Reading.le 24 4
  if offset = 0 ∨ offset ≥ size then return []
  let length ← serialLength offset (size - offset)
  let text ← Reading.each Reading.byte (List.range' offset length)
  return (fromLatin1 text).trimmed

end UsbRestore
