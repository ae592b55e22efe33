-- SUMMARY: The raw disk: opening it, checking whose it is, and rewriting its partition table.
import UsbRestore.Core.PartitionTable
import UsbRestore.Win.RawDisk

/-!
# Calls of the raw disk

A method of `RawDisk` that returns `false` with a message in `*error` is a failure with that message.
What a method writes of the layout is an argument of the call that writes it.
-/

namespace UsbRestore

open WindowsError

/-! ## Calls -/

/-- `GUID` -/
structure Guid where
  data1 : UInt32
  data2 : UInt16
  data3 : UInt16
  data4 : List UInt8
  deriving DecidableEq

/-- `STORAGE_DEVICE_NUMBER` -/
structure StorageDeviceNumber where
  deviceType : Dword
  deviceNumber : Dword
  partitionNumber : Dword

/-- `CREATE_DISK` -/
inductive CreateDisk where
  | raw
  | gpt (diskId : Guid)
  | mbr (signature : UInt32)

/-- What a `PARTITION_INFORMATION_EX` says of a partition in its own style. -/
inductive PartitionKind where
  | gpt (partitionType partitionId : Guid) (attributes : UInt64) (name : QString)
  | mbr (partitionType : UInt8) (bootIndicator recognized : Bool) (hiddenSectors : Dword)

/-- `PARTITION_INFORMATION_EX` -/
structure PartitionInformation where
  kind : PartitionKind
  startingOffset : UInt64 := 0
  partitionLength : UInt64 := 0
  partitionNumber : Dword := 0
  rewritePartition : Bool := true

/-- The part of a `DRIVE_LAYOUT_INFORMATION_EX` that depends on the style. -/
inductive DriveTable where
  | gpt (diskId : Guid) (startingUsableOffset usableLength : UInt64) (maxPartitionCount : Dword)
  | mbr (signature : UInt32)

/-- `DRIVE_LAYOUT_INFORMATION_EX`, whose `PartitionCount` is the number of partitions. -/
structure DriveLayout where
  table : DriveTable
  partitions : List PartitionInformation

inductive DeviceOp where
  | raw (op : RawOp)
  /-- `IOCTL_STORAGE_GET_DEVICE_NUMBER` -/
  | deviceNumber (handle : Handle)
  /-- `IOCTL_DISK_GET_LENGTH_INFO` -/
  | lengthInfo (handle : Handle)
  /-- `IOCTL_DISK_GET_DRIVE_GEOMETRY_EX`, of which the bytes in a sector are read. -/
  | driveGeometry (handle : Handle)
  /-- `IOCTL_DISK_IS_WRITABLE` -/
  | isWritable (handle : Handle)
  /-- `FSCTL_ALLOW_EXTENDED_DASD_IO` -/
  | allowExtendedDasdIo (handle : Handle)
  /-- `IOCTL_DISK_CREATE_DISK` -/
  | createDisk (handle : Handle) (contents : CreateDisk)
  /-- `IOCTL_DISK_SET_DRIVE_LAYOUT_EX` -/
  | setDriveLayout (handle : Handle) (layout : DriveLayout)
  /-- `CoCreateGuid`; nothing where it fails. -/
  | createGuid

def DeviceOp.Ans : DeviceOp → Type
  | .raw op => op.Ans
  | .deviceNumber _ => Except Dword StorageDeviceNumber
  | .lengthInfo _ => Except Dword UInt64
  | .driveGeometry _ => Except Dword Dword
  | .isWritable _ => Except Dword Unit
  | .allowExtendedDasdIo _ => Except Dword Unit
  | .createDisk _ _ => Except Dword Unit
  | .setDriveLayout _ _ => Except Dword Unit
  | .createGuid => Option Guid

def DeviceI : Interface := ⟨DeviceOp, DeviceOp.Ans⟩

variable {ε α : Type}

def device (o : DeviceOp) : Prog DeviceI ε o.Ans := Prog.op (I := DeviceI) o

/-- A program that asks of the raw disk only what zeroing asks. -/
def Prog.ofRaw (p : Prog RawI ε α) : Prog DeviceI ε α := p.implement fun o => device (.raw o)

/-! ## Serial numbers -/

/-- The character functions of Qt that serial numbers are compared with. -/
class SerialCharacters where
  isLetterOrNumber : QChar → Bool
  toUpper : QChar → QChar

def normalizedSerial [SerialCharacters] (value : QString) : QString :=
  (value.filter SerialCharacters.isLetterOrNumber).map SerialCharacters.toUpper

/-- A missing serial number on either side proves nothing. -/
def serialsAgree [SerialCharacters] (reported expected : QString) : Bool :=
  let a := normalizedSerial reported
  let b := normalizedSerial expected
  if a.isEmpty || b.isEmpty then true else a == b || a.tails.any b.isPrefixOf || b.tails.any a.isPrefixOf

namespace RawDisk

/-- `return refuse(lastError(operation))` -/
def failLast (installed : Catalog) (disk : RawDisk) (operation : QString) (code : Dword) :
    Prog DeviceI RestoreMessage α := do
  let message ← (disk.lastError installed operation code).ofRaw
  .fail message

/-- A message about the disk by its number. -/
def failDisk (installed : Catalog) (disk : RawDisk) (source : QString) :
    Prog DeviceI RestoreMessage α :=
  .fail ((restoreText installed source).arg [numberMessage disk.diskNumber.toNat])

/-- A call that fails as `lastError` says. -/
def demand (installed : Catalog) (disk : RawDisk) (operation : QString)
    (call : Prog DeviceI RestoreMessage (Except Dword α)) : Prog DeviceI RestoreMessage α := do
  match ← call with
  | .ok answer => return answer
  | .error code => disk.failLast installed operation code

/-! ## Opening -/

def physicalDrivePath (diskNumber : UInt32) : QString :=
  (QStringLiteral "\\\\.\\PhysicalDrive%1").arg [.number diskNumber.toNat]

def «open» (installed : Catalog) (diskNumber : UInt32) : Prog DeviceI RestoreMessage RawDisk := do
  match ← device (.raw (.win (.createFile (physicalDrivePath diskNumber) .readWrite))) with
  | .ok handle => return { diskNumber, handle }
  | .error code =>
    -- The message names the disk; there is no handle yet.
    failLast installed { diskNumber, handle := 0 } (QStringLiteral "open the drive") code

/-! ## Identity -/

def FILE_DEVICE_DISK : Dword := 7

/-- `BusTypeUsb` of `STORAGE_BUS_TYPE` -/
def BusTypeUsb : Nat := 7

/-- `BusType` of a storage descriptor. -/
def busTypeFromDescriptor : Reading Nat := Reading.le 28 4

/-- The comparison of the handle with a disk number. -/
def verifyDeviceNumber (installed : Catalog) (disk : RawDisk) :
    Prog DeviceI RestoreMessage Unit := do
  let number ← disk.demand installed (QStringLiteral "read the device number")
    (device (.deviceNumber disk.handle))
  if number.deviceType ≠ FILE_DEVICE_DISK then
    disk.failDisk installed (QStringLiteral
      ("Could not verify disk %1 because the opened device is not a disk. Refresh the list and " ++
        "select the USB drive again."))
  else if number.deviceNumber ≠ disk.diskNumber ∨ 0 < number.partitionNumber then
    .fail ((restoreText installed (QStringLiteral
      ("The opened handle points at disk %1, not the whole of disk %2. Refresh the list and select " ++
        "the USB drive again."))).arg
      [numberMessage number.deviceNumber.toNat, numberMessage disk.diskNumber.toNat])
  else return ()

/-- The comparison of the storage descriptor with the selected disk. -/
def verifyDescriptor [SerialCharacters] (installed : Catalog) (disk : RawDisk)
    (expected : DiskInfo) : Prog DeviceI RestoreMessage Unit := do
  let buffer ← disk.demand installed (QStringLiteral "read the storage properties")
    (readStorageDeviceDescriptor disk.handle).ofRaw
  if busTypeFromDescriptor.value buffer ≠ BusTypeUsb then
    disk.failDisk installed (QStringLiteral
      "Disk %1 is not on the USB bus. Refresh the list and select a USB drive.")
  else if !serialsAgree (serialFromDescriptor.value buffer) expected.serialNumber then
    disk.failDisk installed (QStringLiteral
      ("Disk %1 reports a different serial number than the disk that was selected. Refresh the list " ++
        "and select the USB drive again."))
  else return ()

/-- The comparison of size and sector size. A geometry that cannot be read is skipped. -/
def verifyGeometry [Host] (installed : Catalog) (disk : RawDisk) (expected : DiskInfo) :
    Prog DeviceI RestoreMessage Unit := do
  let reportedSize ← disk.demand installed (QStringLiteral "read the drive size")
    (device (.lengthInfo disk.handle))
  if expected.size ≠ 0 ∧ reportedSize ≠ expected.size then
    .fail ((restoreText installed (QStringLiteral
      ("Disk %1 now reports %2 instead of the %3 that was selected. Refresh the list and select the " ++
        "USB drive again."))).arg
      [numberMessage disk.diskNumber.toNat, formatByteSizeMessage installed reportedSize,
        formatByteSizeMessage installed expected.size])
  else
    match ← device (.driveGeometry disk.handle) with
    | .error _ => return ()
    | .ok reportedSectorSize =>
      if reportedSectorSize ≠ 0 ∧ expected.sectorSize ≠ 0 ∧
          reportedSectorSize ≠ expected.sectorSize then
        .fail ((restoreText installed (QStringLiteral
          ("Disk %1 reports %2-byte sectors instead of the %3-byte sectors that were selected. " ++
            "Refresh the list and select the USB drive again."))).arg
          [numberMessage disk.diskNumber.toNat, numberMessage reportedSectorSize.toNat,
            numberMessage expected.sectorSize.toNat])
      else return ()

/-- Everything is read from the handle again, not from an enumeration. The handle of an open disk
is valid. -/
def verifyIdentity [Host] [SerialCharacters] (installed : Catalog) (disk : RawDisk)
    (expected : DiskInfo) : Prog DeviceI RestoreMessage Unit := do
  disk.verifyDeviceNumber installed
  disk.verifyDescriptor installed expected
  disk.verifyGeometry installed expected
  disk.demand installed (QStringLiteral "check write access") (device (.isWritable disk.handle))

/-! ## Locking -/

/-- The loop of `lock`: some refusals are waited out. -/
def lockFrom (installed : Catalog) (disk : RawDisk) (code : Dword) :
    (attempts : Nat) → Prog DeviceI RestoreMessage Unit
  | 0 => do
    let message ← (windowsDeviceErrorMessage installed ((restoreText installed (QStringLiteral
      "Could not lock the drive on disk %1")).arg [numberMessage disk.diskNumber.toNat])
      code).ofWin.ofRaw
    .fail message
  | attempts + 1 => do
    match ← device (.raw (.win (.lockVolume disk.handle))) with
    | .ok () => return ()
    | .error code =>
      if code ≠ ERROR_ACCESS_DENIED ∧ code ≠ ERROR_SHARING_VIOLATION ∧
          code ≠ ERROR_LOCK_VIOLATION ∧ code ≠ ERROR_BUSY then
        lockFrom installed disk code 0
      else
        if 0 < attempts then let _ ← device (.raw (.sleep 500))
        lockFrom installed disk code attempts

def lock (installed : Catalog) (disk : RawDisk) : Prog DeviceI RestoreMessage Unit :=
  lockFrom installed disk 0 10

def allowExtendedIo (installed : Catalog) (disk : RawDisk) : Prog DeviceI RestoreMessage Unit :=
  disk.demand installed (QStringLiteral "enable extended disk I/O")
    (device (.allowExtendedDasdIo disk.handle))

/-! ## Rewriting the table -/

def createGptDisk (installed : Catalog) (disk : RawDisk) : Prog DeviceI RestoreMessage Guid := do
  match ← device .createGuid with
  | none =>
    disk.failDisk installed (QStringLiteral
      ("Could not generate an identifier for a partition table on disk %1. Run the restore again."))
  | some diskId =>
    disk.demand installed (QStringLiteral "write the GPT partition table")
      (device (.createDisk disk.handle (.gpt diskId)))
    return diskId

/-- The loop of `replaceLayoutWithEmptyGpt`, with the message of the last attempt that could not read
the layout, if it was one. -/
def awaitEmptyLayout (installed : Catalog) (disk : RawDisk) (readError : RestoreMessage) :
    (attempts : Nat) → Prog DeviceI RestoreMessage Unit
  | 0 =>
    if readError.english.isEmpty then
      disk.failDisk installed (QStringLiteral
        ("Windows still lists a partition on disk %1 after an empty partition table was written. " ++
          "Unplug the USB disk, plug it back in and run the restore again."))
    else .fail { english := readError.english, display := readError.display }
  | attempts + 1 => do
    let _ ← (disk.refreshLayout installed).ofRaw
    match ← (disk.layoutHasPartitions installed).ofRaw with
    | .ok false => return ()
    | .ok true =>
      let _ ← device (.raw (.sleep 250))
      awaitEmptyLayout installed disk {} attempts
    | .error message =>
      let _ ← device (.raw (.sleep 250))
      awaitEmptyLayout installed disk message attempts

def replaceLayoutWithEmptyGpt (installed : Catalog) (disk : RawDisk) :
    Prog DeviceI RestoreMessage Unit := do
  let _ ← disk.createGptDisk installed
  disk.awaitEmptyLayout installed {} 20

def setRaw (installed : Catalog) (disk : RawDisk) : Prog DeviceI RestoreMessage Unit := do
  disk.demand installed (QStringLiteral "reset the partition table")
    (device (.createDisk disk.handle .raw))
  let _ ← (disk.refreshLayout installed).ofRaw
  return ()

/-- `return refreshLayout(error)` -/
def refreshLayoutOrFail (installed : Catalog) (disk : RawDisk) :
    Prog DeviceI RestoreMessage Unit := do
  let refreshed ← (disk.refreshLayout installed).ofRaw
  .ofExcept refreshed

/-- EBD0A0A2-B9E5-4433-87C0-68B6B72699C7 -/
def BasicDataPartitionGuid : Guid :=
  ⟨0xebd0a0a2, 0xb9e5, 0x4433, [0x87, 0xc0, 0x68, 0xb6, 0xb7, 0x26, 0x99, 0xc7]⟩

def createSingleGptPartition (installed : Catalog) (disk : RawDisk) (layout : GptLayout) :
    Prog DeviceI RestoreMessage Unit := do
  let diskId ← disk.createGptDisk installed
  disk.refreshLayoutOrFail installed
  match ← device .createGuid with
  | none =>
    disk.failDisk installed (QStringLiteral
      "Could not generate a partition identifier for disk %1. Run the restore again.")
  | some partitionId =>
    disk.demand installed (QStringLiteral "create the GPT partition")
      (device (.setDriveLayout disk.handle
        { table := .gpt diskId layout.startOffset layout.length 128
          partitions := [
            { kind := .gpt BasicDataPartitionGuid partitionId 0 (QStringLiteral "USB")
              startingOffset := layout.startOffset
              partitionLength := layout.length
              partitionNumber := 1 }] }))
    disk.refreshLayoutOrFail installed

/-- The three slots that are not used are rewritten empty. -/
def createSingleMbrPartition (installed : Catalog) (disk : RawDisk) (layout : GptLayout)
    (fileSystem : FileSystemType) (sectorSize : UInt32) : Prog DeviceI RestoreMessage Unit := do
  match ← device .createGuid with
  | none =>
    disk.failDisk installed (QStringLiteral
      "Could not generate an MBR signature for disk %1. Run the restore again.")
  | some signatureSource =>
    disk.demand installed (QStringLiteral "write the MBR partition table")
      (device (.createDisk disk.handle (.mbr signatureSource.data1)))
    disk.refreshLayoutOrFail installed
    disk.demand installed (QStringLiteral "create the MBR partition")
      (device (.setDriveLayout disk.handle
        { table := .mbr signatureSource.data1
          partitions :=
            { kind := .mbr (mbrPartitionType fileSystem) false true
                (layout.startOffset / sectorSize.toUInt64).toUInt32
              startingOffset := layout.startOffset
              partitionLength := layout.length
              partitionNumber := 1 } ::
            List.replicate 3 { kind := .mbr 0 false false 0 } }))
    disk.refreshLayoutOrFail installed

def createSinglePartition (installed : Catalog) (disk : RawDisk) (style : PartitionStyle)
    (fileSystem : FileSystemType) (diskSize : UInt64) (sectorSize : UInt32) :
    Prog DeviceI RestoreMessage Unit :=
  let layout := calculateGptLayout diskSize sectorSize
  let failure : RestoreMessage :=
    { english := partitionLayoutError style layout sectorSize .english
      display := partitionLayoutError style layout sectorSize (.display installed) }
  if !failure.english.isEmpty then
    .fail ((restoreText installed (QStringLiteral
      ("Could not create a partition on disk %1: %2 Select a supported partition layout or a " ++
        "different USB drive."))).arg [numberMessage disk.diskNumber.toNat, failure])
  else if style = .mbr then
    disk.createSingleMbrPartition installed layout fileSystem sectorSize
  else disk.createSingleGptPartition installed layout

end RawDisk

end UsbRestore
