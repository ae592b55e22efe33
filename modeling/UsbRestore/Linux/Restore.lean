-- SUMMARY: The Linux restore: unmounting, formatting, and the restore of one disk from start to end.
import UsbRestore.Linux.LoopDevice

/-!
# The Linux restore

A `false` of the source with the message it left in `*error` is a failure with that message.
A cancel checkpoint returns without touching the message, so it fails with an empty one.
-/

namespace UsbRestore

variable [Host]

def NewPartitionTimeoutMs : Nat := 30 * 1000

/-- A version 4, variant 1 identifier made of four random words. -/
def randomGuid {ε : Type} : Prog LinuxI ε QByteArray := do
  let (w0, w1, w2, w3) ← Sys.randomWords
  let guid := (((Bytes.le 4 w0.toNat).append (Bytes.le 4 w1.toNat)).append
    (Bytes.le 4 w2.toNat)).append (Bytes.le 4 w3.toNat)
  let guid := guid.set 7 ((guid.byteAt 7 &&& (0x0F : UInt8)) ||| (0x40 : UInt8))
  return guid.set 8 ((guid.byteAt 8 &&& (0x3F : UInt8)) ||| (0x80 : UInt8))

/-- A name that ends in a digit takes a "p" before the number of the partition. -/
def partitionNameFor (diskName : QString) (index : Nat) : QString :=
  let separator := match diskName.getLast? with
    | some c => if Host.isDigit c then QStringLiteral "p" else []
    | none => []
  ((QStringLiteral "%1%2%3").arg [diskName, separator]).arg [.number index]

/-! ## Unmounting -/

/-- The loop of `unmountDisk`. The live table is asked again about protected mounts. -/
def unmountEach (installed : Catalog) (disk : DiskInfo) (owned : List DeviceNumber) :
    List MountEntry → Prog LinuxI RestoreMessage Unit
  | [] => return ()
  | mount :: mounts => do
    if mount.device ∉ owned then unmountEach installed disk owned mounts
    else if isProtectedMountPoint mount.mountPoint protectedSystemMounts then
      .fail ((restoreText installed (QStringLiteral "%1 is mounted at %2, which the running system needs. Pick a different drive.")).arg
        [.ofText disk.deviceId, .ofText mount.mountPoint])
    else
      Reporter.detail ((QStringLiteral "Unmounting %1").arg [mount.mountPoint])
      match ← Sys.umount mount.mountPoint with
      | .ok () => unmountEach installed disk owned mounts
      | .error errorNumber =>
        -- Already gone between reading the table and acting on it.
        if errorNumber = Errno.EINVAL ∨ errorNumber = Errno.ENOENT then
          unmountEach installed disk owned mounts
        else
          .fail (deviceErrorMessage installed
            ((restoreText installed (QStringLiteral "Could not unmount %1")).arg
              [.ofText mount.mountPoint]) errorNumber)

/-- Deepest first. Mounts of one depth keep the order of the table. -/
def unmountDisk (installed : Catalog) (disk : DiskInfo) : Prog LinuxI RestoreMessage Unit := do
  let diskName := QString.fileName disk.deviceId
  let mounts ← readMounts
  let owned ← deviceNumbersOnDisk diskName
  let ordered := mounts.insertionSort fun left right =>
    right.mountPoint.length ≤ left.mountPoint.length
  unmountEach installed disk owned ordered

/-! ## Formatting -/

/-- Owner of the root directory of a new ext4 filesystem. -/
structure DesktopOwner where
  uid : UInt32
  gid : UInt32

def environmentId {ε : Type} (name : QString) : Prog LinuxI ε (Option UInt32) := do
  let raw ← Sys.getenv name
  return match raw.toULongLong with
    | some value => if 0xFFFFFFFF < value then none else some value.toUInt32
    | none => none

/-- pkexec and sudo set these themselves rather than passing the caller's environment. -/
def callerUid {ε : Type} : Prog LinuxI ε (Option UInt32) := do
  match ← environmentId (QStringLiteral "PKEXEC_UID") with
  | some uid => return some uid
  | none => environmentId (QStringLiteral "SUDO_UID")

def desktopOwner {ε : Type} : Prog LinuxI ε (Option DesktopOwner) := do
  match ← callerUid with
  | none => return none
  | some uid =>
    if uid = 0 then return none
    else
      match ← Sys.getpwuid uid with
      | some gid => return some ⟨uid, gid⟩
      | none =>
        let gid ← environmentId (QStringLiteral "SUDO_GID")
        return gid.map (DesktopOwner.mk uid)

/-- The argument lists to try, in this order. -/
def formatAttempts {ε : Type} (fileSystem : FileSystemType) (partitionPath label : QString)
    (partitionStartSector : UInt64) : Prog LinuxI ε (List (List QString)) := do
  let text := QStringLiteral
  let startSector := QString.number partitionStartSector.toNat
  match fileSystem with
  | .exFat => return [[text "-L", label, partitionPath], [text "-n", label, partitionPath]]
  | .fat32 =>
    return [[text "-F", text "32", text "-n", label, text "-h", startSector, partitionPath]]
  | .ntfs => return [[text "-Q", text "-L", label, text "-p", startSector, partitionPath]]
  | .ext4 =>
    let arguments := [text "-F", text "-L", label, text "-m", text "0"]
    match ← desktopOwner with
    | some owner =>
      let uid := QString.number owner.uid.toNat
      let gid := QString.number owner.gid.toNat
      Reporter.detail ((text "New filesystem will belong to uid %1, gid %2").arg [uid, gid])
      return [arguments ++ [text "-E", (text "root_owner=%1:%2").arg [uid, gid], partitionPath]]
    | none =>
      Reporter.detail (text "No unprivileged caller to give the new filesystem to; it will belong to root.")
      return [arguments ++ [partitionPath]]

def unknownOptionMarkers : List QString :=
  [QStringLiteral "invalid option", QStringLiteral "unrecognized option",
    QStringLiteral "unknown option", QStringLiteral "illegal option"]

/-- `arguments.join(' ')` -/
def joinArguments (arguments : List QString) : QString :=
  List.intercalate [QChar.ofChar ' '] arguments

/-- One run of the formatter: whether it succeeded, and its output otherwise. -/
def runFormatter (installed : Catalog) (tool : QString) (arguments : List QString) :
    Prog LinuxI RestoreMessage (Except QString Unit) := do
  let refuse (source : QString) : RestoreMessage :=
    (restoreText installed source).arg [.ofText (QString.fileName tool)]
  if !(← Sys.startProcess tool arguments) then
    .fail (refuse (QStringLiteral "Could not run %1, the tool that formats the drive. Check that it is still installed and that the system allows it to run, then try again."))
  else if !(← Sys.waitForFinished (15 * 60 * 1000)) then
    Sys.killProcess
    let _ ← Sys.waitForFinished (5 * 1000)
    .fail (refuse (QStringLiteral "%1 did not finish formatting after 15 minutes and was stopped. The drive may be partly formatted: unplug it, plug it back in and run the restore again."))
  else
    let result ← Sys.processResult
    let lastOutput := result.output.trimmed
    let commandLine := [tool, joinArguments arguments]
    if result.normalExit && result.exitCode == 0 then
      Reporter.detail ((QStringLiteral "%1 %2").arg commandLine)
      if !lastOutput.isEmpty then Reporter.detail lastOutput
      return .ok ()
    else
      Reporter.detail ((QStringLiteral "%1 %2 failed: %3").arg (commandLine ++ [lastOutput]))
      return .error lastOutput

/-- The loop of `formatLinuxPartition`: another dialect is tried only where the formatter did
not know an option. Returns the last output of a formatter that failed. -/
def tryAttempts (installed : Catalog) (tool : QString) :
    (lastOutput : QString) → List (List QString) →
      Prog LinuxI RestoreMessage (Except QString Unit)
  | lastOutput, [] => return .error lastOutput
  | _, arguments :: attempts => do
    match ← runFormatter installed tool arguments with
    | .ok () => return .ok ()
    | .error lastOutput =>
      if unknownOptionMarkers.any (Host.containsCaseInsensitive lastOutput) then
        tryAttempts installed tool lastOutput attempts
      else return .error lastOutput

def formatLinuxPartition (installed : Catalog) (fileSystem : FileSystemType)
    (tool partitionPath label : QString) (partitionStartSector : UInt64) :
    Prog LinuxI RestoreMessage Unit := do
  let attempts ← formatAttempts fileSystem partitionPath label partitionStartSector
  match ← tryAttempts installed tool [] attempts with
  | .ok () => return ()
  | .error lastOutput =>
    let names := [RestoreMessage.ofText (QString.fileName tool), .ofText partitionPath]
    if lastOutput.isEmpty then
      .fail ((restoreText installed (QStringLiteral "%1 failed to format the new volume on %2. Unplug the drive, plug it back in and run the restore again.")).arg
        names)
    else
      .fail ((restoreText installed (QStringLiteral "%1 failed to format the new volume on %2: %3\n\nUnplug the drive, plug it back in and run the restore again.")).arg
        (names ++ [.ofText lastOutput]))

/-- The names of a formatter, an older package's second, and the text that asks for it. -/
def formatTools : FileSystemType → List QString × QString
  | .exFat =>
    ([QStringLiteral "mkfs.exfat", QStringLiteral "mkexfatfs"],
      QStringLiteral "mkfs.exfat was not found. Install exfatprogs (Debian/Ubuntu and Fedora: \"exfatprogs\", Arch: \"exfatprogs\") and try again.")
  | .fat32 =>
    ([QStringLiteral "mkfs.vfat", QStringLiteral "mkfs.fat"],
      QStringLiteral "mkfs.vfat was not found. Install dosfstools and try again.")
  | .ntfs =>
    ([QStringLiteral "mkfs.ntfs", QStringLiteral "mkntfs"],
      QStringLiteral "mkfs.ntfs was not found. Install ntfs-3g (Debian/Ubuntu: \"ntfs-3g\", Fedora: \"ntfsprogs\", Arch: \"ntfs-3g\") and try again.")
  | .ext4 =>
    ([QStringLiteral "mkfs.ext4"],
      QStringLiteral "mkfs.ext4 was not found. Install e2fsprogs and try again.")

/-- The first of the names that is installed; empty when none is. -/
def firstInstalled {ε : Type} : List QString → Prog LinuxI ε QString
  | [] => return []
  | name :: names => do
    let tool ← findSystemExecutable name
    if !tool.isEmpty then return tool else firstInstalled names

def resolveFormatTool (installed : Catalog) (fileSystem : FileSystemType) :
    Prog LinuxI RestoreMessage QString := do
  let (names, missing) := formatTools fileSystem
  let tool ← firstInstalled names
  if tool.isEmpty then .fail (restoreText installed missing) else return tool

/-- FAT32 is judged by the size of the partition, which is what is formatted. -/
def canCreateFileSystemOn (installed : Catalog) (fileSystem : FileSystemType) (disk : DiskInfo) :
    Except RestoreMessage Unit :=
  match fileSystem with
  | .exFat | .ntfs | .ext4 => .ok ()
  | .fat32 =>
    let length := (calculateGptLayout disk.size disk.sectorSize).length
    let maximum := maximumMkfsFat32VolumeBytes disk.sectorSize
    let minimum := minimumMkfsFat32VolumeBytes disk.sectorSize
    if maximum = 0 ∨ minimum = 0 then
      .error ((restoreText installed (QStringLiteral "A disk with %1-byte sectors cannot be formatted as FAT32.")).arg
        [numberMessage disk.sectorSize.toNat])
    else if maximum < length then
      .error ((restoreText installed (QStringLiteral "FAT32 cannot address a volume larger than %1 with %2-byte sectors, and the rest of the drive would be left unused. Choose exFAT or NTFS.")).arg
        [formatByteSizeMessage installed maximum, numberMessage disk.sectorSize.toNat])
    else if length < minimum then
      .error ((restoreText installed (QStringLiteral "This drive is too small for a valid FAT32 filesystem; it needs at least %1. Choose exFAT.")).arg
        [formatByteSizeMessage installed minimum])
    else .ok ()

/-- The three calls that make the filesystem, each made only if those before it succeeded. -/
def formatThroughMapping (installed : Catalog) (request : RestoreRequest) (formatTool : QString)
    (partitionStartSector : UInt64) (formatter : LoopDevice) :
    Prog LinuxI RestoreMessage (Except RestoreMessage Unit × LoopDevice) := do
  let (prepared, formatter) ← formatter.prepareForFormatting installed
  match prepared with
  | .error message => return (.error message, formatter)
  | .ok () =>
    match ← (formatLinuxPartition installed request.fileSystem formatTool formatter.path
      request.volumeLabel partitionStartSector).attempt with
    | .error message => return (.error message, formatter)
    | .ok () => formatter.detach installed

/-- The mapping is detached on every way out, so the destructor of `formatter` finds nothing. -/
def formatAndRereadPartitionTable (installed : Catalog) (request : RestoreRequest)
    (formatTool : QString) (partitionStartSector : UInt64) (device : BlockDevice)
    (formatter : LoopDevice) (steps : RestoreStepCounter) :
    Prog LinuxI RestoreMessage (UInt64 × RestoreStepCounter) := do
  let steps ← reportPlannedStep installed steps .format request
  let (formatted, formatter) ←
    formatThroughMapping installed request formatTool partitionStartSector formatter
  match formatted with
  | .error message =>
    let _ ← formatter.detach installed
    -- The new table is on the disk; the kernel must not keep the old partitions over it.
    match ← (device.flush installed >>= fun _ => device.rereadPartitionTable installed).attempt with
    | .ok () => .fail message
    | .error rereadError =>
      Reporter.detail rereadError.english
      .fail message
  | .ok () =>
    let steps ← reportPlannedStep installed steps .rereadPartitionTable request
    device.flush installed
    device.rereadPartitionTable installed
    match ← device.diskSequence with
    | some diskSequence => return (diskSequence, steps)
    | none =>
      .fail ((restoreText installed (QStringLiteral "The drive %1 was formatted, but it could not be re-identified afterwards. Unplug it, plug it back in and check that it shows one new partition.")).arg
        [.ofText request.disk.deviceId])

/-! ## The restore -/

/-- A cancel checkpoint: `return false` with the message untouched. -/
def cancelCheckpoint : Prog LinuxI RestoreMessage Unit := do
  if ← Reporter.cancelRequested then .fail {} else return ()

/-- The scope of `inspect`: a wrong device is caught after only a read-only open. -/
def inspectDevice (installed : Catalog) (disk : DiskInfo) : Prog LinuxI RestoreMessage Unit := do
  let (opened, inspect) ← BlockDevice.open installed { devicePath := disk.deviceId } .inspect
  match opened with
  | .error message => .fail message
  | .ok _ =>
    (inspect.verifyIdentity installed disk).withCleanup do
      let _ ← inspect.close
      return ()

/-- What comes before the exclusive opens after the first: the automounter can remount the stick
between the unmount and the open. -/
def unmountAgain (installed : Catalog) (disk : DiskInfo) (attempt : Nat) :
    Prog LinuxI RestoreMessage Unit := do
  if attempt = 0 then return ()
  else
    Reporter.detail
      ((QStringLiteral "The drive is still in use; unmounting it and trying again (attempt %1 of 3)").arg
        [.number (attempt + 1)])
    unmountDisk installed disk
    Sys.msleep 500

/-- The loop of exclusive opens, after `attempt` of them. -/
def openExclusively (installed : Catalog) (disk : DiskInfo) :
    (remaining : Nat) → (attempt : Nat) → (openError : RestoreMessage) →
      Prog LinuxI RestoreMessage Fd
  | 0, _, openError => .fail openError
  | remaining + 1, attempt, _ => do
    unmountAgain installed disk attempt
    let (opened, _) ← BlockDevice.open installed { devicePath := disk.deviceId } .exclusive
    match opened with
    | .ok fd => return fd
    | .error openError => openExclusively installed disk remaining (attempt + 1) openError

def restoreTableRequest (request : RestoreRequest) (disk : DiskInfo)
    (diskGuid partitionGuid : QByteArray) : PartitionTableRequest :=
  { style := request.style
    fileSystem := request.fileSystem
    diskSize := disk.size
    sectorSize := disk.sectorSize
    layout := calculateGptLayout disk.size disk.sectorSize
    diskGuid
    partitionGuid
    partitionName := request.volumeLabel }

/-- The two zeroed ranges. -/
def clearSignatures (installed : Catalog) (fuel : LoopFuel) (disk : DiskInfo)
    (device : BlockDevice) : Prog LinuxI RestoreMessage Unit := do
  let clear := signatureClearRange disk.size disk.sectorSize
  if clear.bytes = 0 then
    .fail ((restoreText installed (QStringLiteral "%1 reports too little space to clear its old partition signatures. Unplug the drive, plug it back in and select it again; if it still reports a tiny size, the drive is damaged.")).arg
      [.ofText disk.deviceId])
  else
    device.writeZeros installed fuel 0 clear.bytes clear.sectorSize
    device.writeZeros installed fuel clear.tailOffset clear.bytes clear.sectorSize

/-- The GPT pair or the MBR. -/
def writePartitionTable (installed : Catalog) (fuel : LoopFuel)
    (tableRequest : PartitionTableRequest) (device : BlockDevice) :
    Prog LinuxI RestoreMessage Unit := do
  if tableRequest.style = .gpt then
    device.writeAt installed fuel 0 (buildGptPrimary tableRequest)
    device.writeAt installed fuel (gptBackupOffset tableRequest) (buildGptBackup tableRequest)
  else device.writeAt installed fuel 0 (buildMbr tableRequest)

/-- From the last cancel checkpoint up to the flush of the new table. -/
def eraseAndWrite (installed : Catalog) (fuel : LoopFuel) (request : RestoreRequest)
    (disk : DiskInfo) (tableRequest : PartitionTableRequest) (device : BlockDevice)
    (steps : RestoreStepCounter) : Prog LinuxI RestoreMessage RestoreStepCounter := do
  cancelCheckpoint
  device.verifyIdentity installed disk
  let steps ← reportPlannedStep installed steps .clearSignatures request
  clearSignatures installed fuel disk device
  let steps ← reportPlannedStep installed steps .writePartitionTable request
  writePartitionTable installed fuel tableRequest device
  device.flush installed
  return steps

/-- What happens while the disk is open exclusively as `fd`. -/
def restoreExclusively (installed : Catalog) (fuel : LoopFuel) (request : RestoreRequest)
    (formatTool : QString) (disk : DiskInfo) (fd : Fd) (steps : RestoreStepCounter) :
    Prog LinuxI RestoreMessage (UInt64 × RestoreStepCounter) := do
  let device : BlockDevice := { devicePath := disk.deviceId, fd := some fd }
  device.verifyIdentity installed disk
  cancelCheckpoint
  let diskGuid ← randomGuid
  let partitionGuid ← randomGuid
  let tableRequest := restoreTableRequest request disk diskGuid partitionGuid
  .ofExcept (checkRestoreError installed (isWritablePartitionRequest tableRequest))
  let formatter ← LoopDevice.configure installed {} fd tableRequest.layout.startOffset
    tableRequest.layout.length disk.sectorSize
  match ← (eraseAndWrite installed fuel request disk tableRequest device steps).attempt with
  | .error message =>
    let _ ← formatter.detach installed
    .fail message
  | .ok steps =>
    formatAndRereadPartitionTable installed request formatTool
      (tableRequest.layout.startOffset / disk.sectorSize.toUInt64) device formatter steps

/-- Wait until the node exists or the time is over. -/
def waitForNode (partitionPath : QString) :
    (fuel : LoopFuel) → (lastWaitNote : Nat) → Prog LinuxI RestoreMessage Unit
  | 0, _ => .spin
  | fuel + 1, lastWaitNote => do
    if ← Sys.pathExists partitionPath then return ()
    if NewPartitionTimeoutMs ≤ (← Sys.elapsed) then return ()
    Sys.msleep 250
    if lastWaitNote + 5000 ≤ (← Sys.elapsed) then
      let lastWaitNote ← Sys.elapsed
      Reporter.detail ((QStringLiteral "Still waiting for %1 (%2 s)").arg
        [partitionPath, .number (lastWaitNote / 1000)])
      waitForNode partitionPath fuel lastWaitNote
    else waitForNode partitionPath fuel lastWaitNote

/-- Opens the new partition, checks that it lies on the formatted disk, and reports the end.
The partition is closed at the end of its scope. -/
def verifyNewPartition (installed : Catalog) (request : RestoreRequest)
    (diskName partitionPath : QString) (diskSequence : UInt64) (steps : RestoreStepCounter) :
    Prog LinuxI RestoreMessage Unit := do
  let (opened, partition) ← BlockDevice.open installed { devicePath := partitionPath } .inspect
  match opened with
  | .error message => .fail message
  | .ok _ =>
    (do
      partition.verifyPartitionOf installed diskName (some diskSequence)
      let _ ← reportPlannedStep installed steps .complete request
      return () : Prog LinuxI RestoreMessage Unit).withCleanup do
        let _ ← partition.close
        return ()

/-- The checks and the first two steps, up to the device that is to be unmounted: the disk that
was found, the formatter, and the counter. -/
def identifyDisk (installed : Catalog) (request : RestoreRequest) :
    Prog LinuxI RestoreMessage (DiskInfo × QString × RestoreStepCounter) := do
  .ofExcept (checkRestoreError installed (isSafeRestoreTarget request.disk request.guard))
  let formatTool ← resolveFormatTool installed request.fileSystem
  let steps ← reportPlannedStep installed { plan := linuxRestorePlan } .verifyDisk request
  let currentDisk ← refreshUsbDisk installed request.disk.deviceId
  .ofExcept (checkRestoreError installed (isSameRestoreTarget request.disk currentDisk))
  .ofExcept (checkRestoreError installed (isSafeRestoreTarget currentDisk request.guard))
  .ofExcept (checkRestoreError installed (canCreatePartitionLayout request.style currentDisk))
  .ofExcept (canCreateFileSystemOn installed request.fileSystem currentDisk)
  let steps ← reportPlannedStep installed steps .identifyDevice request
  inspectDevice installed currentDisk
  return (currentDisk, formatTool, steps)

def performLinuxRestore (installed : Catalog) (fuel : LoopFuel) (request : RestoreRequest) :
    Prog LinuxI RestoreMessage RestoreResult := do
  let (disk, formatTool, steps) ← identifyDisk installed request
  cancelCheckpoint
  let steps ← reportPlannedStep installed steps .unmount request
  unmountDisk installed disk
  let steps ← reportPlannedStep installed steps .openExclusive request
  let fd ← openExclusively installed disk 3 0 {}
  -- Closed on success before the node is awaited, and by the destructor on every failure.
  let (diskSequence, steps) ←
    (restoreExclusively installed fuel request formatTool disk fd steps).withCleanup (Sys.close fd)
  let steps ← reportPlannedStep installed steps .waitForPartition request
  let diskName := QString.fileName disk.deviceId
  let partitionPath := devicePathFor (partitionNameFor diskName 1)
  waitForNode partitionPath fuel 0
  if !(← Sys.pathExists partitionPath) then
    .fail ((restoreText installed (QStringLiteral "The new partition did not appear on %1 within %2 seconds. Unplug the drive, plug it back in and run the restore again.")).arg
      [.ofText disk.deviceId, numberMessage (NewPartitionTimeoutMs / 1000)])
  else
    verifyNewPartition installed request diskName partitionPath diskSequence steps
    return { location := partitionPath }

end UsbRestore
