-- SUMMARY: The restore on Windows: fourteen steps over the methods of the raw disk and of the volumes.
import UsbRestore.Core.Fat32Growth
import UsbRestore.Win.DeviceCalls

/-!
# The restore on Windows

`WindowsDiskService::restore` over the methods it calls. A method of the raw disk returns what one of
its own runs returns; what a method of the enumerator or of the volume manager returns, and what it
writes into the message it is handed, is left open.
-/

namespace UsbRestore

/-! ## Filesystems -/

/-- FAT32 is judged by the size of the partition, which is smaller than the disk. -/
def canFormatFileSystem (installed : Catalog) (type : FileSystemType) (disk : DiskInfo) :
    Except RestoreMessage Unit :=
  match type with
  | .exFat | .ntfs => .ok ()
  | .fat32 =>
    if MaximumWindowsFat32VolumeBytes < (calculateGptLayout disk.size disk.sectorSize).length then
      .error (restoreText installed (QStringLiteral
        ("Windows cannot format FAT32 on a volume larger than 32 GB. Choose exFAT or NTFS.")))
    else if windowsFat32AllocationUnitSize disk = 0 then
      .error ((restoreText installed (QStringLiteral
        ("Windows cannot format FAT32 on a volume this small with %1-byte sectors. Choose exFAT or " ++
          "NTFS."))).arg [numberMessage disk.sectorSize.toNat])
    else .ok ()
  | .ext4 => .error (restoreText installed (QStringLiteral "ext4 is not available on Windows."))

/-! ## Messages -/

def windowsRestoreErrorMessage (installed : Catalog) (context detail advice : RestoreMessage) :
    RestoreMessage :=
  let nextStep :=
    if advice.english.isEmpty then
      restoreText installed (QStringLiteral
        ("Close any programs using the drive, unplug it, plug it back in and run the restore again"))
    else advice
  if detail.english.isEmpty then
    (RestoreMessage.ofText (QStringLiteral "%1. %2.")).arg [context, nextStep]
  else
    (RestoreMessage.ofText (QStringLiteral "%1. %2.%3")).arg
      [context, nextStep, (restoreText installed (QStringLiteral "\n\nDetails: %1")).arg [detail]]

/-- A failure with English text alone is shown in English. -/
def stepFailure (failure : RestoreMessage) : RestoreMessage :=
  if failure.display.isEmpty then .ofText failure.english else failure

/-! ## Methods -/

/-- What a method answers, and what it has written into the message it was handed, if it has. -/
abbrev Reply (α : Type) := α × Option RestoreMessage

inductive ServiceOp where
  | diskByNumber (diskNumber : UInt32)
  | openRawDisk (diskNumber : UInt32)
  | verifyIdentity (disk : RawDisk) (expected : DiskInfo)
  | refreshDisk (diskNumber : UInt32)
  | dismountUnletteredVolumesOnDisk (diskNumber : UInt32)
  | removeMountPointsForDisk (diskNumber : UInt32) (protectedLetters : List QString)
  | deletePartitionsForDisk (diskNumber : UInt32)
  | partitionVolumeDevices (diskNumber : UInt32)
  | replaceLayoutWithEmptyGpt (disk : RawDisk)
  | waitForVolumesToLeaveDisk (volumes : List QString) (diskNumber : UInt32) (timeoutMs : Nat)
  | lock (disk : RawDisk)
  | allowExtendedIo (disk : RawDisk)
  | refreshLayout (disk : RawDisk)
  | clearPartitionSignatures (disk : RawDisk) (diskSize : UInt64) (sectorSize : UInt32)
  | setRaw (disk : RawDisk)
  | createSinglePartition (disk : RawDisk) (style : PartitionStyle) (fileSystem : FileSystemType)
    (diskSize : UInt64) (sectorSize : UInt32)
  | waitForVolumeOnDisk (diskNumber : UInt32) (timeoutMs : Nat)
  | volumePathBelongsToDisk (volumeName : QString) (diskNumber : UInt32)
  | mountVolume (volumeName : QString)
  | formatVolume (volumeName driveRoot : QString) (diskNumber : UInt32)
    (fileSystem : FileSystemType) (allocationUnitSize : UInt32) (label : QString)
  /-- The destructor of an open `RawDisk`. -/
  | closeRawDisk (handle : Handle)
  | reporter (op : ReporterOp)

section

variable [Host] [SerialCharacters] (installed : Catalog) (fuel : Nat)

/-- A loop of a method of the raw disk goes round no more often than `fuel`. -/
def ServiceOp.Ans : ServiceOp → Type
  | .diskByNumber _ => Reply (Option DiskInfo)
  | .openRawDisk diskNumber => (RawDisk.open installed diskNumber).Outcome
  | .verifyIdentity disk expected => (disk.verifyIdentity installed expected).Outcome
  | .refreshDisk _ => Reply Bool
  | .dismountUnletteredVolumesOnDisk _ => Reply Bool
  | .removeMountPointsForDisk _ _ => Reply Bool
  -- Whether a partition at the very start of the disk was left comes with success.
  | .deletePartitionsForDisk _ => Reply (Option Bool)
  | .partitionVolumeDevices _ => List QString
  | .replaceLayoutWithEmptyGpt disk => (disk.replaceLayoutWithEmptyGpt installed).Outcome
  | .waitForVolumesToLeaveDisk _ _ _ => Bool
  | .lock disk => (disk.lock installed).Outcome
  | .allowExtendedIo disk => (disk.allowExtendedIo installed).Outcome
  | .refreshLayout disk => (disk.refreshLayoutOrFail installed).Outcome
  | .clearPartitionSignatures disk diskSize sectorSize =>
    (disk.clearPartitionSignatures installed fuel diskSize sectorSize : Prog RawI Empty _).Outcome
  | .setRaw disk => (disk.setRaw installed).Outcome
  | .createSinglePartition disk style fileSystem diskSize sectorSize =>
    (disk.createSinglePartition installed style fileSystem diskSize sectorSize).Outcome
  -- The name is empty where there is no such volume.
  | .waitForVolumeOnDisk _ _ => Reply QString
  | .volumePathBelongsToDisk _ _ => Reply Bool
  | .mountVolume _ => Reply QString
  | .formatVolume _ _ _ _ _ _ => Reply Bool
  | .closeRawDisk _ => Unit
  | .reporter op => op.Ans

def ServiceI : Interface := ⟨ServiceOp, ServiceOp.Ans installed fuel⟩

end

namespace WindowsDiskService

def NewVolumeTimeoutMs : Nat := 60 * 1000

def OldVolumeTimeoutMs : Nat := 30 * 1000

section

variable [Host] [SerialCharacters] {installed : Catalog} {fuel : Nat} {α : Type}

variable (installed fuel) in
def service (o : ServiceOp) :
    Prog (ServiceI installed fuel) RestoreMessage (o.Ans installed fuel) :=
  Prog.op (I := ServiceI installed fuel) o

def detail (message : QString) : Prog (ServiceI installed fuel) RestoreMessage Unit :=
  service installed fuel (.reporter (.detail message))

/-- `beginStep`, which also empties the message of the step before. -/
def beginStep (steps : RestoreStepCounter) (step : RestoreStep) (request : RestoreRequest) :
    Prog (ServiceI installed fuel) RestoreMessage RestoreStepCounter := do
  let message := restoreStepMessage installed step request.style request.fileSystem
  let (number, steps) := steps.advance step
  if number = 0 then
    detail ((QStringLiteral "Internal: \"%1\" is out of order in the restore plan.").arg
      [message.english])
  let _ ← service installed fuel (.reporter (.step step message))
  return steps

/-- A cancel checkpoint: `return false` with the message untouched. -/
def cancelCheckpoint : Prog (ServiceI installed fuel) RestoreMessage Unit := do
  let cancelled : Bool ← service installed fuel (.reporter .cancelRequested)
  if cancelled then .fail {} else return ()

/-- A check of the core, whose refusal is the failure of the step. -/
def require (check : TextMode → Except QString Unit) :
    Prog (ServiceI installed fuel) RestoreMessage Unit :=
  match checkRestoreError installed check with
  | .ok () => return ()
  | .error failure => .fail (stepFailure failure)

/-- `failure` is what the methods of the step have written, each over what was written before. -/
def failOperation (disk : DiskInfo) (operation : RestoreMessage) (failure : Option RestoreMessage)
    (advice : RestoreMessage) : Prog (ServiceI installed fuel) RestoreMessage α :=
  .fail (windowsRestoreErrorMessage installed
    ((restoreText installed (QStringLiteral "Could not %1 on disk %2")).arg
      [operation, numberMessage disk.number.toNat])
    (stepFailure (failure.getD {})) advice)

/-- A method of the raw disk: its failure is the failure of the restore. -/
def method {ε : Type} {p : Prog DeviceI ε α} (r : p.Outcome) : Except ε α := r.1

/-- After partitioning the stick is blank, so that the refusal tells how to recover. -/
def confirmStillSelected (rawDisk : RawDisk) (disk : DiskInfo) :
    Prog (ServiceI installed fuel) RestoreMessage Unit := do
  let verified ← service installed fuel (.verifyIdentity rawDisk disk)
  match method verified with
  | .ok () => return ()
  | .error reason =>
    .fail ((restoreText installed (QStringLiteral
      ("Stopped before formatting disk %1: %2 If the original USB disk was unplugged, its partition " ++
        "table has already been rewritten. Plug it back in and run the restore on it again."))).arg
      [numberMessage disk.number.toNat,
        { english := reason.english, display := reason.display }])

/-! ## The restore -/

/-- The first step: the disk is enumerated again and judged, and FAT32 gets its allocation unit. -/
def verifyDisk (request : RestoreRequest) :
    Prog (ServiceI installed fuel) RestoreMessage (DiskInfo × UInt32 × RestoreStepCounter) := do
  let disk := request.disk
  require (isSafeRestoreTarget disk request.guard)
  require (canCreatePartitionLayout request.style disk)
  let steps ← beginStep { plan := windowsRestorePlan } .verifyDisk request
  let (found, failure) ← service installed fuel (.diskByNumber disk.number)
  match found with
  | none =>
    failOperation disk (restoreText installed (QStringLiteral "verify the selected drive")) failure {}
  | some currentDisk =>
    require (isSameRestoreTarget disk currentDisk)
    require (isSafeRestoreTarget currentDisk request.guard)
    require (canCreatePartitionLayout request.style currentDisk)
    match canFormatFileSystem installed request.fileSystem currentDisk with
    | .error failure =>
      .fail (stepFailure { english := failure.english, display := failure.display })
    | .ok () =>
      let allocationUnitSize :=
        if request.fileSystem = .fat32 then windowsFat32AllocationUnitSize currentDisk else 0
      return (currentDisk, allocationUnitSize, steps)

def openDrive (request : RestoreRequest) (disk : DiskInfo) (steps : RestoreStepCounter) :
    Prog (ServiceI installed fuel) RestoreMessage (RawDisk × RestoreStepCounter) := do
  let steps ← beginStep steps .openDrive request
  let opened ← service installed fuel (.openRawDisk disk.number)
  let rawDisk ← Prog.ofExcept (method opened)
  return (rawDisk, steps)

/-- From the open handle to the last harmless stop. -/
def detachVolumes (request : RestoreRequest) (disk : DiskInfo) (rawDisk : RawDisk)
    (steps : RestoreStepCounter) :
    Prog (ServiceI installed fuel) RestoreMessage RestoreStepCounter := do
  let verified ← service installed fuel (.verifyIdentity rawDisk disk)
  Prog.ofExcept (method verified)
  cancelCheckpoint
  let steps ← beginStep steps .refreshMetadata request
  let (refreshed, failure) ← service installed fuel (.refreshDisk disk.number)
  if !refreshed then
    failOperation disk (restoreText installed (QStringLiteral "refresh Windows disk metadata"))
      failure {}
  else
    let steps ← beginStep steps .detachDriveLetters request
    let operation :=
      restoreText installed (QStringLiteral "detach the existing volumes and drive letters")
    let advice := restoreText installed (QStringLiteral
      ("Close any files, File Explorer windows and programs using the drive and run the restore " ++
        "again"))
    let (dismounted, failure) ←
      service installed fuel (.dismountUnletteredVolumesOnDisk disk.number)
    if !dismounted then failOperation disk operation failure advice
    else
      let (removed, later) ← service installed fuel
        (.removeMountPointsForDisk disk.number request.guard.mountPoints)
      if !removed then failOperation disk operation (later.or failure) advice
      else
        cancelCheckpoint
        return steps

/-- The partitions are deleted by the number of the disk, what is left of them through the handle. -/
def emptyLayout (request : RestoreRequest) (disk : DiskInfo) (rawDisk : RawDisk)
    (steps : RestoreStepCounter) :
    Prog (ServiceI installed fuel) RestoreMessage RestoreStepCounter := do
  let verified ← service installed fuel (.verifyIdentity rawDisk disk)
  Prog.ofExcept (method verified)
  let steps ← beginStep steps .deletePartitions request
  let (deleted, failure) ←
    service installed fuel (.deletePartitionsForDisk disk.number)
  match deleted with
  | none =>
    failOperation disk (restoreText installed (QStringLiteral "delete the existing partitions"))
      failure {}
  | some partitionAtDiskStart =>
    if partitionAtDiskStart then
      detail ((QStringLiteral
        ("Disk %1 has a partition at its very start that Windows cannot delete, as on a disk with " ++
          "no partition table; the empty table written next replaces it.")).arg
        [.number disk.number.toNat])
    let oldVolumes ←
      service installed fuel (.partitionVolumeDevices disk.number)
    let replaced ←
      service installed fuel (.replaceLayoutWithEmptyGpt rawDisk)
    Prog.ofExcept (method replaced)
    let left ← service installed fuel
      (.waitForVolumesToLeaveDisk oldVolumes disk.number OldVolumeTimeoutMs)
    if !left then
      detail (((QStringLiteral
        ("Windows had not removed the old volume on disk %1 after %2 seconds; continuing.")).arg
        [.number disk.number.toNat]).arg [.number (OldVolumeTimeoutMs / 1000)])
    return steps

/-- The lock is a help, not a condition. -/
def lockDrive (request : RestoreRequest) (rawDisk : RawDisk) (steps : RestoreStepCounter) :
    Prog (ServiceI installed fuel) RestoreMessage RestoreStepCounter := do
  let steps ← beginStep steps .lockDrive request
  let locked ← service installed fuel (.lock rawDisk)
  match method locked with
  | .ok () => pure ()
  | .error lockError =>
    detail ((QStringLiteral "Physical-drive lock skipped: %1").arg [lockError.english])
  let extended ← service installed fuel (.allowExtendedIo rawDisk)
  match method extended with
  | .ok () => pure ()
  | .error lockError =>
    detail ((QStringLiteral "Extended disk I/O hint skipped: %1").arg [lockError.english])
  let _ ← service installed fuel (.refreshLayout rawDisk)
  return steps

/-- Zeroing counts its retries in the raw disk. -/
def clearSignatures (request : RestoreRequest) (disk : DiskInfo) (rawDisk : RawDisk)
    (steps : RestoreStepCounter) :
    Prog (ServiceI installed fuel) RestoreMessage (RawDisk × RestoreStepCounter) := do
  let verified ← service installed fuel (.verifyIdentity rawDisk disk)
  Prog.ofExcept (method verified)
  let steps ← beginStep steps .clearSignatures request
  let answer ← service installed fuel
    (.clearPartitionSignatures rawDisk disk.size disk.sectorSize)
  match answer.1 with
  | .error impossible => nomatch impossible
  | .ok (cleared, rawDisk) =>
    if 0 < rawDisk.notReadyRetries then
      detail (((QStringLiteral
        ("Retried the first write to disk %1 %2 time(s) after Windows refused it as not ready " ++
          "while removing the old volume.")).arg [.number disk.number.toNat]).arg
        [.number rawDisk.notReadyRetries])
    Prog.ofExcept cleared
    return (rawDisk, steps)

def createPartition (request : RestoreRequest) (disk : DiskInfo) (rawDisk : RawDisk)
    (steps : RestoreStepCounter) :
    Prog (ServiceI installed fuel) RestoreMessage RestoreStepCounter := do
  let steps ← beginStep steps .resetToRaw request
  let reset ← service installed fuel (.setRaw rawDisk)
  Prog.ofExcept (method reset)
  let steps ← beginStep steps .createPartition request
  let created ← service installed fuel
    (.createSinglePartition rawDisk request.style request.fileSystem disk.size disk.sectorSize)
  Prog.ofExcept (method created)
  return steps

/-- The new volume, by its name. -/
def findVolume (request : RestoreRequest) (disk : DiskInfo) (steps : RestoreStepCounter) :
    Prog (ServiceI installed fuel) RestoreMessage (QString × RestoreStepCounter) := do
  let steps ← beginStep steps .waitForVolume request
  let (volumeName, failure) ← service installed fuel
    (.waitForVolumeOnDisk disk.number NewVolumeTimeoutMs)
  if volumeName.isEmpty then
    failOperation disk (restoreText installed (QStringLiteral "find the new volume")) failure {}
  else
    let steps ← beginStep steps .refreshNewVolume request
    let operation := restoreText installed (QStringLiteral "verify the new volume")
    let (refreshed, failure) ←
      service installed fuel (.refreshDisk disk.number)
    if !refreshed then failOperation disk operation failure {}
    else
      let (belongs, later) ← service installed fuel
        (.volumePathBelongsToDisk volumeName disk.number)
      if !belongs then failOperation disk operation (later.or failure) {}
      else return (volumeName, steps)

/-- The volume is mounted and formatted, each after the handle was asked again. -/
def formatNewVolume (request : RestoreRequest) (disk : DiskInfo) (allocationUnitSize : UInt32)
    (rawDisk : RawDisk) (volumeName : QString) (steps : RestoreStepCounter) :
    Prog (ServiceI installed fuel) RestoreMessage (QString × RestoreStepCounter) := do
  confirmStillSelected rawDisk disk
  let steps ← beginStep steps .assignDriveLetter request
  let (driveRoot, failure) ←
    service installed fuel (.mountVolume volumeName)
  if driveRoot.isEmpty then
    failOperation disk (restoreText installed (QStringLiteral "assign a drive letter")) failure
      (restoreText installed (QStringLiteral
        ("If every drive letter is in use, eject another drive to free one. Then unplug this " ++
          "drive, plug it back in and run the restore again")))
  else
    let steps ← beginStep steps .format request
    confirmStillSelected rawDisk disk
    let (formatted, failure) ← service installed fuel
      (.formatVolume volumeName driveRoot disk.number request.fileSystem allocationUnitSize
        request.volumeLabel)
    if !formatted then
      failOperation disk ((restoreText installed (QStringLiteral "format as %1")).arg
        [.ofText (fileSystemTypeName request.fileSystem)]) failure {}
    else return (driveRoot, steps)

/-- What happens while the raw disk is open. -/
def restoreOpened (request : RestoreRequest) (disk : DiskInfo) (allocationUnitSize : UInt32)
    (rawDisk : RawDisk) (steps : RestoreStepCounter) :
    Prog (ServiceI installed fuel) RestoreMessage RestoreResult := do
  let steps ← detachVolumes request disk rawDisk steps
  let steps ← emptyLayout request disk rawDisk steps
  let steps ← lockDrive request rawDisk steps
  let (rawDisk, steps) ← clearSignatures request disk rawDisk steps
  let steps ← createPartition request disk rawDisk steps
  let (volumeName, steps) ← findVolume request disk steps
  let (driveRoot, steps) ←
    formatNewVolume request disk allocationUnitSize rawDisk volumeName steps
  let _ ← beginStep steps .complete request
  return { location := driveRoot }

/-- The handle is kept open for the whole restore. -/
def restore (request : RestoreRequest) :
    Prog (ServiceI installed fuel) RestoreMessage RestoreResult := do
  let (disk, allocationUnitSize, steps) ← verifyDisk request
  let (rawDisk, steps) ← openDrive request disk steps
  (restoreOpened request disk allocationUnitSize rawDisk steps).withCleanup
    (service installed fuel (.closeRawDisk rawDisk.handle))

end

end WindowsDiskService

end UsbRestore
