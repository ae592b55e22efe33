-- SUMMARY: The refusals of the core: safe targets, same targets, layouts, ranges and FAT32 sizes.
import UsbRestore.Core.Disk

/-!
# Safety checks

A check that fills in a reason is an `Except` whose error is that reason. Arithmetic is
the 32- and 64-bit unsigned arithmetic of the source.
-/

namespace UsbRestore

structure GptLayout where
  startOffset : UInt64 := 0
  length : UInt64 := 0
  deriving DecidableEq

def MinimumRestoreTargetBytes : UInt64 := 8 * 1024 * 1024

/-- What must not be touched, supplied by the platform backend. -/
structure RestoreGuard where
  mountPoints : List QString := []
  deviceIds : List QString := []

def GptEntryCount : UInt32 := 128

def GptEntrySize : UInt32 := 128

def SignatureClearBytes : UInt64 := 4 * 1024 * 1024

/-! ## Identity texts -/

section Texts

variable [Host]

def normalizedIdentity (value : QString) : QString := Host.toCaseFolded value.trimmed

def bothKnownAndDifferent (left right : QString) : Bool :=
  let a := normalizedIdentity left
  let b := normalizedIdentity right
  !a.isEmpty && !b.isEmpty && a != b

/-- Not the negation of `bothKnownAndDifferent`: an empty entry matches nothing. -/
def bothKnownAndEqual (left right : QString) : Bool :=
  let a := normalizedIdentity left
  let b := normalizedIdentity right
  !a.isEmpty && !b.isEmpty && a == b

/-! ## Mount points -/

def looksLikeDriveLetter (value : QString) : Bool :=
  match value with
  | [] => false
  | [c] => Host.isLetter c
  | _ :: c :: _ => c == QChar.ofChar ':'

def normalizedMountPoint (value : QString) : QString :=
  let mount := value.trimmed
  if mount.isEmpty then []
  else if looksLikeDriveLetter mount then Host.toUpper (mount.take 1)
  else
    let slashed := mount.map fun c => if c = QChar.ofChar '\\' then QChar.ofChar '/' else c
    -- The loop keeps one character, so a text of slashes alone becomes "/".
    slashed.take 1 ++ (slashed.drop 1).rdropWhile (fun c => c == QChar.ofChar '/')

def isProtectedMountPoint (mountPoint : QString) (protectedMountPoints : List QString) : Bool :=
  let candidate := normalizedMountPoint mountPoint
  if candidate.isEmpty then false
  else protectedMountPoints.any fun entry =>
    let guarded := normalizedMountPoint entry
    if guarded.isEmpty then false
    else if candidate = guarded then true
    else if !looksLikeDriveLetter candidate && !looksLikeDriveLetter guarded then
      let textPrefix :=
        if candidate = QStringLiteral "/" then candidate else candidate ++ [QChar.ofChar '/']
      textPrefix.isPrefixOf guarded
    else false

def containsProtectedMountPoint (disk : DiskInfo) (guard : RestoreGuard) : Bool :=
  disk.mountPoints.any fun mountPoint => isProtectedMountPoint mountPoint guard.mountPoints

end Texts

/-! ## Sectors and layouts -/

def isSupportedSectorSize (sectorSize : UInt32) : Bool :=
  sectorSize == 512 || sectorSize == 1024 || sectorSize == 2048 || sectorSize == 4096

def effectiveSectorSize (sectorSize : UInt32) : UInt32 :=
  if sectorSize = 0 then 512 else sectorSize

/-- The sector size, or 512 where it is not supported. -/
def supportedOr512 (sectorSize : UInt32) : UInt32 :=
  if isSupportedSectorSize sectorSize then sectorSize else 512

def gptEntryArraySectors (sectorSize : UInt32) : UInt32 :=
  let sector := supportedOr512 sectorSize
  let bytes := GptEntryCount * GptEntrySize
  (bytes + sector - 1) / sector

def calculateGptLayout (diskSize : UInt64) (sectorSize : UInt32) : GptLayout :=
  let sector := (supportedOr512 sectorSize).toUInt64
  let oneMiB : UInt64 := 1024 * 1024
  let start := ((oneMiB + sector - 1) / sector) * sector
  let backupGpt := ((gptEntryArraySectors sectorSize).toUInt64 + 1) * sector
  if diskSize ≤ start + backupGpt + sector then {}
  else
    let alignment := max oneMiB sector
    let rawLength := diskSize - start - backupGpt
    let length := (rawLength / alignment) * alignment
    if length = 0 then {} else ⟨start, length⟩

structure SignatureClearRange where
  bytes : UInt64 := 0
  tailOffset : UInt64 := 0
  sectorSize : UInt32 := 512
  deriving DecidableEq

def signatureClearRange (diskSize : UInt64) (sectorSize : UInt32) : SignatureClearRange :=
  let rangeSector := supportedOr512 sectorSize
  let sector := rangeSector.toUInt64
  let clearBytes := if diskSize / 4 < SignatureClearBytes then diskSize / 4 else SignatureClearBytes
  let bytes := (clearBytes / sector) * sector
  let tailOffset := if 0 < bytes then ((diskSize - bytes) / sector) * sector else 0
  ⟨bytes, tailOffset, rangeSector⟩

/-- Empty when the range can be zeroed as it is. -/
def unalignedZeroRangeError (offset bytes : UInt64) (sectorSize : UInt32) (mode : TextMode) :
    QString :=
  let sector := (supportedOr512 sectorSize).toUInt64
  if offset % sector = 0 ∧ bytes % sector = 0 then []
  else
    (coreText (QStringLiteral "Refusing to zero %1 bytes at offset %2: not a multiple of the %3-byte sector size.") mode).arg
      [.number bytes.toNat, .number offset.toNat, .number sector.toNat]

/-- Empty when `layout` can be written in `style` on a disk with `sectorSize`-byte sectors. -/
def partitionLayoutError (style : PartitionStyle) (layout : GptLayout) (sectorSize : UInt32)
    (mode : TextMode) : QString :=
  if !isSupportedSectorSize sectorSize then
    (coreText (QStringLiteral "Unsupported sector size of %1 bytes.") mode).arg
      [.number sectorSize.toNat]
  else if layout.length = 0 then
    coreText (QStringLiteral "The disk is too small for a partition layout.") mode
  else if style ≠ .mbr ∧ style ≠ .gpt then
    coreText (QStringLiteral "No partition style was chosen.") mode
  else if style = .mbr ∧ (layout.startOffset + layout.length) / sectorSize.toUInt64 > 0xFFFFFFFF then
    coreText (QStringLiteral "MBR cannot address a partition this far into the disk. Choose GPT.") mode
  else []

/-- The verdict is that the error text is empty, in whichever language it was asked for. -/
def canCreatePartitionLayout (style : PartitionStyle) (disk : DiskInfo) (mode : TextMode) :
    Except QString Unit :=
  let failure :=
    partitionLayoutError style (calculateGptLayout disk.size disk.sectorSize) disk.sectorSize mode
  if failure.isEmpty then .ok () else .error failure

def isValidDeviceRange (size offset length : UInt64) (sectorSize : UInt32) : Bool :=
  isSupportedSectorSize sectorSize && decide (0 < length) && decide (offset ≤ size) &&
    decide (length ≤ size - offset) && offset % sectorSize.toUInt64 == 0 &&
    length % sectorSize.toUInt64 == 0

/-! ## Targets -/

def isSafeRestoreTarget [Host] (disk : DiskInfo) (guard : RestoreGuard) (mode : TextMode) :
    Except QString Unit :=
  let name := disk.shownId
  if disk.deviceId.trimmed.isEmpty then
    .error (coreText (QStringLiteral "This disk reports no device path to restore.") mode)
  else if disk.busType ≠ UsbBusType then
    .error ((coreText (QStringLiteral "%1 is on the %2 bus, not USB.") mode).arg
      [name, busTypeName disk.busType mode])
  else if guard.deviceIds.any (fun protectedDevice => bothKnownAndEqual disk.deviceId protectedDevice) then
    .error ((coreText (QStringLiteral "%1 is a disk the running system depends on.") mode).arg [name])
  else if disk.isBoot || disk.isSystem then
    .error ((coreText (QStringLiteral "%1 is marked as a boot or system disk.") mode).arg [name])
  else if containsProtectedMountPoint disk guard then
    .error ((coreText (QStringLiteral "%1 holds a protected system location.") mode).arg [name])
  else if disk.isOffline then
    .error ((coreText (QStringLiteral "%1 is offline.") mode).arg [name])
  else if disk.isReadOnly then
    .error ((coreText (QStringLiteral "%1 is read-only.") mode).arg [name])
  else if disk.size = 0 then
    .error ((coreText (QStringLiteral "%1 reports no usable media.") mode).arg [name])
  else if disk.size < MinimumRestoreTargetBytes then
    .error ((coreText (QStringLiteral "%1 reports only %2, which is too small to restore.") mode).arg
      [name, formatByteSize disk.size mode])
  else if !isSupportedSectorSize disk.sectorSize then
    .error ((coreText (QStringLiteral "%1 reports an unsupported sector size of %2 bytes.") mode).arg
      [name, .number disk.sectorSize.toNat])
  else if (calculateGptLayout disk.size disk.sectorSize).length = 0 then
    .error ((coreText (QStringLiteral "%1 is too small for a safe partition layout.") mode).arg [name])
  else .ok ()

/-- `device` names the disk in the refusal. -/
def isSameDeviceSequence (device : QString) (expected current : Option UInt64) (mode : TextMode) :
    Except QString Unit :=
  match expected, current with
  | some e, some c => if e ≠ 0 ∧ e = c then .ok () else refuse
  | _, _ => refuse
where
  refuse : Except QString Unit :=
    .error ((coreText (QStringLiteral "Could not confirm that %1 is still the disk that was selected. Refresh and select the USB again.") mode).arg
      [device])

/-- A device sequence the selection has must match; any other identifier one side lacks is
skipped. -/
def isSameRestoreTarget [Host] (selected current : DiskInfo) (mode : TextMode) : Except QString Unit :=
  let name := selected.shownId
  let refuse (what : QString) : Except QString Unit :=
    .error ((coreText (QStringLiteral "%1 no longer reports the same %2. Refresh and select the USB again.") mode).arg
      [name, coreText what mode])
  if normalizedIdentity selected.deviceId ≠ normalizedIdentity current.deviceId then
    .error ((coreText (QStringLiteral "The selected disk moved from %1 to %2. Refresh and select the USB again.") mode).arg
      [selected.deviceId, current.deviceId])
  else if selected.size ≠ current.size then refuse (QStringLiteral "size")
  else if selected.deviceSequence.isSome &&
      !(isSameDeviceSequence name selected.deviceSequence current.deviceSequence .english).isOk then
    refuse (QStringLiteral "device instance")
  else if selected.sectorSize ≠ 0 ∧ current.sectorSize ≠ 0 ∧
      selected.sectorSize ≠ current.sectorSize then
    refuse (QStringLiteral "sector size")
  else if bothKnownAndDifferent selected.serialNumber current.serialNumber then
    refuse (QStringLiteral "serial number")
  else if bothKnownAndDifferent selected.uniqueId current.uniqueId then
    refuse (QStringLiteral "unique ID")
  else if bothKnownAndDifferent selected.path current.path then
    refuse (QStringLiteral "device path")
  else if bothKnownAndDifferent selected.name current.name then
    refuse (QStringLiteral "device name")
  else .ok ()

/-! ## Serial numbers -/

/-- Remove what `-[0-9]+:[0-9]+$` matches; the end may stand before a final newline. -/
def removeHostSuffix (value : QString) : QString :=
  let newline := if value.getLast? = some 10 then value.drop (value.length - 1) else []
  let body := value.take (value.length - newline.length)
  let beforePort := body.rdropWhile QChar.isDigit
  let host := beforePort.dropLast
  let beforeHost := host.rdropWhile QChar.isDigit
  if beforePort.length < body.length ∧ beforePort.getLast? = some (QChar.ofChar ':') ∧
      beforeHost.length < host.length ∧ beforeHost.getLast? = some (QChar.ofChar '-') then
    beforeHost.dropLast ++ newline
  else value

/-- A candidate that is part of the product name is not passed off as a serial. -/
def serialFromUsbByIdLink [Host] (link productName : QString) : QString :=
  if !(QStringLiteral "usb-").isPrefixOf link then []
  else
    let parts := QString.splitSkipEmpty (QChar.ofChar '_') ((removeHostSuffix link).drop 4)
    if parts.length < 3 then []
    else
      let candidate := parts.getLastD []
      if !productName.isEmpty && Host.containsCaseInsensitive productName candidate then []
      else candidate

/-! ## FAT32 sizes -/

/-- The binary search of `fat32DataClusterCount` for the largest fitting cluster count. Every
round halves the interval, so 64 rounds empty any interval of 64-bit numbers. -/
def fat32ClusterSearch (totalSectors sectorSize sectorsPerCluster : UInt64) :
    (rounds : Nat) → (low high : UInt64) → UInt64
  | 0, low, _ => low
  | rounds + 1, low, high =>
    if low < high then
      let clusters := low + (high - low + 1) / 2
      let fatBytes := (clusters + 2) * 4
      let fatSectors := (fatBytes + sectorSize - 1) / sectorSize
      let requiredSectors := 32 + 2 * fatSectors + clusters * sectorsPerCluster
      if requiredSectors ≤ totalSectors then
        fat32ClusterSearch totalSectors sectorSize sectorsPerCluster rounds clusters high
      else fat32ClusterSearch totalSectors sectorSize sectorsPerCluster rounds low (clusters - 1)
    else low

def fat32DataClusterCount (volumeSize : UInt64) (sectorSize allocationUnitSize : UInt32) : UInt64 :=
  if sectorSize = 0 ∨ allocationUnitSize < sectorSize ∨ allocationUnitSize % sectorSize ≠ 0 ∨
      volumeSize % sectorSize.toUInt64 ≠ 0 then 0
  else
    let totalSectors := volumeSize / sectorSize.toUInt64
    if totalSectors ≤ 32 then 0
    else
      let sectorsPerCluster := (allocationUnitSize / sectorSize).toUInt64
      fat32ClusterSearch totalSectors sectorSize.toUInt64 sectorsPerCluster 64 0
        ((totalSectors - 32) / sectorsPerCluster)

def fat32AllocationUnitSizes : List UInt32 :=
  [512, 1024, 2048, 4096, 8192, 16 * 1024, 32 * 1024, 64 * 1024, 128 * 1024, 256 * 1024]

def fat32PreferredUnit (volumeSize : UInt64) : UInt32 :=
  let oneMiB : UInt64 := 1024 * 1024
  let oneGiB : UInt64 := 1024 * oneMiB
  if volumeSize ≤ 64 * oneMiB then 512
  else if volumeSize ≤ 128 * oneMiB then 1024
  else if volumeSize ≤ 256 * oneMiB then 2048
  else if volumeSize ≤ 8 * oneGiB then 4096
  else if volumeSize ≤ 16 * oneGiB then 8 * 1024
  else if volumeSize ≤ 32 * oneGiB then 16 * 1024
  else 32 * 1024

/-- Zero where no supported geometry produces FAT32's required cluster count. -/
def fat32AllocationUnitSize (volumeSize : UInt64) (sectorSize : UInt32)
    (maximumVolumeSize : UInt64) : UInt32 :=
  if !isSupportedSectorSize sectorSize || volumeSize == 0 || maximumVolumeSize < volumeSize then 0
  else
    let preferred := fat32PreferredUnit volumeSize
    fat32AllocationUnitSizes.foldl (fun best allocationUnitSize =>
      if (64 * 1024 < allocationUnitSize ∧ sectorSize = 512) ∨ allocationUnitSize < sectorSize ∨
          allocationUnitSize % sectorSize ≠ 0 then best
      else
        let clusterCount := fat32DataClusterCount volumeSize sectorSize allocationUnitSize
        if clusterCount < 65527 ∨ 4177917 < clusterCount then best
        else if best = 0 ∨ allocationUnitSize ≤ preferred then allocationUnitSize
        else best) 0

def minimumMkfsFat32VolumeBytes (sectorSize : UInt32) : UInt64 :=
  if !isSupportedSectorSize sectorSize then 0
  else
    let minimumClusters : UInt64 := 65525
    let fatBytes := (minimumClusters + 2) * 4
    let fatSectors := (fatBytes + sectorSize.toUInt64 - 1) / sectorSize.toUInt64
    let bare := (32 + 2 * fatSectors + minimumClusters) * sectorSize.toUInt64
    let oneMiB : UInt64 := 1024 * 1024
    ((bare + oneMiB - 1) / oneMiB) * oneMiB

def maximumMkfsFat32VolumeBytes (sectorSize : UInt32) : UInt64 :=
  if !isSupportedSectorSize sectorSize then 0 else 0xFFFFFFFF * sectorSize.toUInt64

end UsbRestore
