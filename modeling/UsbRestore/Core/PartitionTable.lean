-- SUMMARY: The partition table writers: GPT headers and entries, the protective and the plain MBR.
import UsbRestore.Base.Bytes
import UsbRestore.Base.Crc32
import UsbRestore.Core.Safety

/-!
# Partition tables

The bytes of a GPT pair or an MBR, and the gate that decides whether a request can be
written at all. A writer of the source that sets bytes one after the other is
`Bytes.write` of them at once.
-/

namespace UsbRestore

abbrev QByteArray := Bytes

def GptHeaderSize : UInt32 := 92

def MbrMaxSectors : UInt64 := 0xFFFFFFFF

def MbrHeads : UInt64 := 255

def MbrSectorsPerTrack : UInt64 := 63

def MbrExFatPartitionType : UInt8 := 0x07

def MbrFat32LbaPartitionType : UInt8 := 0x0C

def MbrLinuxPartitionType : UInt8 := 0x83

structure PartitionTableRequest where
  style : PartitionStyle := .gpt
  fileSystem : FileSystemType := .exFat
  diskSize : UInt64 := 0
  sectorSize : UInt32 := 512
  layout : GptLayout := {}
  diskGuid : QByteArray := Bytes.empty
  partitionGuid : QByteArray := Bytes.empty
  partitionName : QString := []

/-! ## Writing fields -/

def writeLe16 (buffer : QByteArray) (offset : Nat) (value : UInt16) : QByteArray :=
  buffer.write offset (Bytes.le 2 value.toNat)

def writeLe32 (buffer : QByteArray) (offset : Nat) (value : UInt32) : QByteArray :=
  buffer.write offset (Bytes.le 4 value.toNat)

def writeLe64 (buffer : QByteArray) (offset : Nat) (value : UInt64) : QByteArray :=
  buffer.write offset (Bytes.le 8 value.toNat)

/-- At most `length` bytes of `value`. -/
def writeBytes (buffer : QByteArray) (offset : Nat) (value : QByteArray) (length : Nat) :
    QByteArray :=
  buffer.write offset (value.left length)

/-- The loop of `buildEntryArray` over the code units of the name. -/
def writeName (buffer : QByteArray) (offset : Nat) : QString → QByteArray
  | [] => buffer
  | c :: name => writeName (writeLe16 buffer offset c) (offset + 2) name

def writeMbrSignature (buffer : QByteArray) : QByteArray :=
  (buffer.set 510 0x55).set 511 0xAA

/-! ## Checksum and type identifiers -/

def gptCrc32 (data : QByteArray) : UInt32 :=
  data.toList.foldl Crc32.tableUpdate 0xFFFFFFFF ^^^ 0xFFFFFFFF

/-- EBD0A0A2-B9E5-4433-87C0-68B6B72699C7 -/
def basicDataPartitionTypeGuid : QByteArray :=
  Bytes.ofList [0xa2, 0xa0, 0xd0, 0xeb, 0xe5, 0xb9, 0x33, 0x44,
    0x87, 0xc0, 0x68, 0xb6, 0xb7, 0x26, 0x99, 0xc7]

/-- 0FC63DAF-8483-4772-8E79-3D69D8477DE4 -/
def linuxFilesystemPartitionTypeGuid : QByteArray :=
  Bytes.ofList [0xaf, 0x3d, 0xc6, 0x0f, 0x83, 0x84, 0x72, 0x47,
    0x8e, 0x79, 0x3d, 0x69, 0xd8, 0x47, 0x7d, 0xe4]

def gptPartitionTypeGuid (fileSystem : FileSystemType) : QByteArray :=
  if fileSystem = .ext4 then linuxFilesystemPartitionTypeGuid else basicDataPartitionTypeGuid

def mbrPartitionType : FileSystemType → UInt8
  | .fat32 => MbrFat32LbaPartitionType
  | .ext4 => MbrLinuxPartitionType
  | .exFat | .ntfs => MbrExFatPartitionType

/-! ## Geometry -/

def sectorCount (request : PartitionTableRequest) : UInt64 :=
  request.diskSize / (effectiveSectorSize request.sectorSize).toUInt64

/-- Nothing but `primaryEntryLba` and `arraySectors` is valid unless `fits`. -/
structure GptGeometry where
  fits : Bool := false
  arraySectors : UInt32 := 0
  lastLba : UInt64 := 0
  primaryEntryLba : UInt64 := 2
  backupEntryLba : UInt64 := 0
  firstUsableLba : UInt64 := 0
  lastUsableLba : UInt64 := 0

def gptGeometry (request : PartitionTableRequest) : GptGeometry :=
  let arraySectors := gptEntryArraySectors request.sectorSize
  let sectors := sectorCount request
  if sectors < arraySectors.toUInt64 * 2 + 3 then { arraySectors }
  else
    let lastLba := sectors - 1
    let backupEntryLba := lastLba - arraySectors.toUInt64
    { fits := true
      arraySectors
      lastLba
      backupEntryLba
      firstUsableLba := 2 + arraySectors.toUInt64
      lastUsableLba := backupEntryLba - 1 }

/-! ## GPT -/

/-- First and last block of the partition, both inclusive. -/
def entryFirstLba (request : PartitionTableRequest) : UInt64 :=
  request.layout.startOffset / (effectiveSectorSize request.sectorSize).toUInt64

def entryLastLba (request : PartitionTableRequest) : UInt64 :=
  (request.layout.startOffset + request.layout.length) /
    (effectiveSectorSize request.sectorSize).toUInt64 - 1

def buildEntryArray (request : PartitionTableRequest) : QByteArray :=
  let entries := Bytes.zeros (GptEntryCount * GptEntrySize).toNat
  let entries := writeBytes entries 0 (gptPartitionTypeGuid request.fileSystem) 16
  let entries := writeBytes entries 16 request.partitionGuid 16
  let entries := writeLe64 entries 32 (entryFirstLba request)
  let entries := writeLe64 entries 40 (entryLastLba request)
  let entries := writeLe64 entries 48 0
  writeName entries 56 (request.partitionName.take 36)

/-- `QByteArrayLiteral("EFI PART")` -/
def gptSignature : QByteArray :=
  Bytes.ofList [0x45, 0x46, 0x49, 0x20, 0x50, 0x41, 0x52, 0x54]

/-- The header while its checksum field is still zero. -/
def headerFields (request : PartitionTableRequest) (entries : QByteArray) (primary : Bool) :
    QByteArray :=
  let sector := effectiveSectorSize request.sectorSize
  let geometry := gptGeometry request
  let lastLba := geometry.lastLba
  let header := Bytes.zeros sector.toNat
  let header := writeBytes header 0 gptSignature 8
  let header := writeLe32 header 8 0x00010000
  let header := writeLe32 header 12 GptHeaderSize
  let header := writeLe32 header 16 0
  let header := writeLe32 header 20 0
  let header := writeLe64 header 24 (if primary then 1 else lastLba)
  let header := writeLe64 header 32 (if primary then lastLba else 1)
  let header := writeLe64 header 40 geometry.firstUsableLba
  let header := writeLe64 header 48 geometry.lastUsableLba
  let header := writeBytes header 56 request.diskGuid 16
  let header :=
    writeLe64 header 72 (if primary then geometry.primaryEntryLba else geometry.backupEntryLba)
  let header := writeLe32 header 80 GptEntryCount
  let header := writeLe32 header 84 GptEntrySize
  writeLe32 header 88 (gptCrc32 entries)

def buildHeader (request : PartitionTableRequest) (entries : QByteArray) (primary : Bool) :
    QByteArray :=
  let header := headerFields request entries primary
  writeLe32 header 16 (gptCrc32 (header.left GptHeaderSize.toNat))

/-- The first sector of a GPT disk, one 0xEE partition over everything after it. -/
def buildProtectiveMbr (request : PartitionTableRequest) : QByteArray :=
  let sector := effectiveSectorSize request.sectorSize
  let sectors := sectorCount request
  let protectiveMbr := Bytes.zeros sector.toNat
  let protectiveMbr := protectiveMbr.write 446 (Bytes.ofList [0, 0, 0x02, 0, 0xEE, 0xFF, 0xFF, 0xFF])
  let protectiveMbr := writeLe32 protectiveMbr 454 1
  let protectiveMbr := writeLe32 protectiveMbr 458 (min (sectors - 1) MbrMaxSectors).toUInt32
  writeMbrSignature protectiveMbr

/-- Zeros after the entry array up to a whole sector. -/
def entryPadding (request : PartitionTableRequest) (entries : QByteArray) : QByteArray :=
  let sector := effectiveSectorSize request.sectorSize
  Bytes.zeros ((gptEntryArraySectors sector * sector).toNat - entries.size)

def buildGptPrimary (request : PartitionTableRequest) : QByteArray :=
  let entries := buildEntryArray request
  let header := buildHeader request entries true
  (((buildProtectiveMbr request).append header).append entries).append (entryPadding request entries)

def buildGptBackup (request : PartitionTableRequest) : QByteArray :=
  let entries := buildEntryArray request
  let header := buildHeader request entries false
  (entries.append (entryPadding request entries)).append header

def gptBackupOffset (request : PartitionTableRequest) : UInt64 :=
  let geometry := gptGeometry request
  if geometry.fits then
    geometry.backupEntryLba * (effectiveSectorSize request.sectorSize).toUInt64
  else 0

/-! ## MBR -/

/-- Cylinder, head and sector of a block, or the marker of one past their reach. -/
def writeChs (buffer : QByteArray) (offset : Nat) (lba : UInt64) : QByteArray :=
  let cylinder := lba / (MbrHeads * MbrSectorsPerTrack)
  if 1023 < cylinder then ((buffer.set offset 0xFE).set (offset + 1) 0xFF).set (offset + 2) 0xFF
  else
    let head := (lba / MbrSectorsPerTrack) % MbrHeads
    let sector := (lba % MbrSectorsPerTrack) + 1
    let buffer := buffer.set offset head.toUInt8
    let buffer := buffer.set (offset + 1) 
      ((sector &&& (0x3F : UInt64)) ||| ((cylinder >>> 2) &&& (0xC0 : UInt64))).toUInt8
    buffer.set (offset + 2) cylinder.toUInt8

def buildMbr (request : PartitionTableRequest) : QByteArray :=
  let sector := (effectiveSectorSize request.sectorSize).toUInt64
  let firstLba := request.layout.startOffset / sector
  let sectorSpan := request.layout.length / sector
  let lastLba := firstLba + sectorSpan - 1
  let mbr := Bytes.zeros sector.toNat
  let mbr :=
    if 4 ≤ request.diskGuid.size then writeBytes mbr 440 (request.diskGuid.left 4) 4 else mbr
  let mbr := mbr.set 446 0x00
  let mbr := writeChs mbr 447 firstLba
  let mbr := mbr.set 450 (mbrPartitionType request.fileSystem)
  let mbr := writeChs mbr 451 lastLba
  let mbr := writeLe32 mbr 454 (min firstLba MbrMaxSectors).toUInt32
  let mbr := writeLe32 mbr 458 (min sectorSpan MbrMaxSectors).toUInt32
  writeMbrSignature mbr

/-! ## The write gate -/

def isWritablePartitionRequest (request : PartitionTableRequest) (mode : TextMode) :
    Except QString Unit :=
  let failure := partitionLayoutError request.style request.layout request.sectorSize mode
  let sector := request.sectorSize.toUInt64
  let sectors := sectorCount request
  let endLba := (request.layout.startOffset + request.layout.length) / sector
  if !failure.isEmpty then .error failure
  else if request.layout.startOffset % sector ≠ 0 ∨ request.layout.length % sector ≠ 0 then
    .error (coreText (QStringLiteral "The partition layout is not aligned to the sector size.") mode)
  else if sectors = 0 ∨ sectors < endLba then
    .error (coreText (QStringLiteral "The partition layout runs past the end of the disk.") mode)
  else if request.style = .gpt then
    let geometry := gptGeometry request
    if !geometry.fits then
      .error (coreText (QStringLiteral "The disk is too small to hold both GPT headers.") mode)
    else if request.diskGuid.size ≠ 16 ∨ request.partitionGuid.size ≠ 16 then
      .error (coreText (QStringLiteral "A GPT layout needs a disk and partition identifier.") mode)
    else
      let firstLba := request.layout.startOffset / sector
      let lastLba := endLba - 1
      if firstLba < geometry.firstUsableLba ∨ geometry.lastUsableLba < lastLba then
        .error (coreText (QStringLiteral "The partition layout overlaps the GPT headers.") mode)
      else .ok ()
  else if request.diskGuid.size < 4 then
    .error (coreText (QStringLiteral "An MBR layout needs a disk identifier.") mode)
  else .ok ()

end UsbRestore
