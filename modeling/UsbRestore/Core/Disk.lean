-- SUMMARY: Disk descriptions, partition styles and filesystems, with their names.
import UsbRestore.Core.Language

/-!
# Disks

The snapshot of a disk that enumeration fills in and every check reads.
-/

namespace UsbRestore

/-- `MSFT_Disk.BusType` for USB; the Linux backend reports the same value. -/
def UsbBusType : UInt32 := 7

inductive PartitionStyle where
  | unknown
  | mbr
  | gpt
  deriving DecidableEq

/-- The `quint16` the enumerator stands for. -/
def PartitionStyle.toUInt16 : PartitionStyle → UInt16
  | .unknown => 0
  | .mbr => 1
  | .gpt => 2

inductive FileSystemType where
  | exFat
  | fat32
  | ntfs
  | ext4
  deriving DecidableEq

structure DiskInfo where
  deviceId : QString := []
  displayId : QString := []
  number : UInt32 := 0
  busType : UInt32 := 0
  name : QString := []
  uniqueId : QString := []
  serialNumber : QString := []
  path : QString := []
  deviceSequence : Option UInt64 := none
  size : UInt64 := 0
  sectorSize : UInt32 := 512
  partitionStyle : UInt16 := PartitionStyle.toUInt16 .unknown
  mountPoints : List QString := []
  labels : List QString := []
  fileSystems : List QString := []
  isBoot : Bool := false
  isSystem : Bool := false
  isReadOnly : Bool := false
  isOffline : Bool := false
  deriving DecidableEq

/-- `name` or `deviceId` of a disk in a message. -/
def DiskInfo.shownId (disk : DiskInfo) : QString :=
  if disk.displayId.isEmpty then disk.deviceId else disk.displayId

/-! ## Filesystem names -/

structure FileSystemNames where
  type : FileSystemType
  name : QString
  token : QString

def FileSystemNamesTable : List FileSystemNames :=
  [⟨.exFat, QStringLiteral "exFAT", QStringLiteral "exfat"⟩,
    ⟨.fat32, QStringLiteral "FAT32", QStringLiteral "fat32"⟩,
    ⟨.ntfs, QStringLiteral "NTFS", QStringLiteral "ntfs"⟩,
    ⟨.ext4, QStringLiteral "ext4", QStringLiteral "ext4"⟩]

def fileSystemTypeName (type : FileSystemType) : QString :=
  match FileSystemNamesTable.find? (fun entry => entry.type = type) with
  | some entry => entry.name
  | none => QStringLiteral "Unknown"

def fileSystemTypeToken (type : FileSystemType) : QString :=
  match FileSystemNamesTable.find? (fun entry => entry.type = type) with
  | some entry => entry.token
  | none => []

def parseFileSystemType (token : QString) : Option FileSystemType :=
  (FileSystemNamesTable.find? (fun entry => token = entry.token)).map FileSystemNames.type

def isKnownFileSystem (type : FileSystemType) : Bool :=
  FileSystemNamesTable.any (fun entry => entry.type = type)

/-- A token names one filesystem and is its own token. -/
theorem parseFileSystemType_token (type : FileSystemType) :
    parseFileSystemType (fileSystemTypeToken type) = some type := by
  cases type <;> decide

/-! ## Bus names -/

def BusTypeNames : List (UInt32 × QString) :=
  [(1, QStringLiteral "SCSI"), (2, QStringLiteral "ATAPI"), (3, QStringLiteral "ATA"),
    (4, QStringLiteral "1394"), (5, QStringLiteral "SSA"), (6, QStringLiteral "Fibre Channel"),
    (UsbBusType, QStringLiteral "USB"), (8, QStringLiteral "RAID"), (9, QStringLiteral "iSCSI"),
    (10, QStringLiteral "SAS"), (11, QStringLiteral "SATA"), (12, QStringLiteral "SD"),
    (13, QStringLiteral "MMC"), (17, QStringLiteral "NVMe")]

def busTypeName (busType : UInt32) (mode : TextMode) : QString :=
  match BusTypeNames.find? (fun entry => entry.1 = busType) with
  | some entry => entry.2
  | none => coreText (QStringLiteral "Unknown") mode

/-! ## Sizes -/

def ByteUnits : List QString :=
  [QStringLiteral "B", QStringLiteral "KB", QStringLiteral "MB", QStringLiteral "GB",
    QStringLiteral "TB", QStringLiteral "PB"]

/-- `static_cast<double>`: the nearest number of 53 bits, and of two as near the even one. -/
def toDouble (n : Nat) : Rat :=
  let shift := n.log2 + 1 - 53
  let kept := n / 2 ^ shift
  let rest := n % 2 ^ shift
  let up := 2 ^ shift < 2 * rest ∨ 2 * rest = 2 ^ shift ∧ kept % 2 = 1
  (((if up then kept + 1 else kept) * 2 ^ shift : Nat) : Rat)

/-- The loop of `formatByteSize`. A double that is not small is divided by 1024 exactly. -/
def scaleByteSize : (units : Nat) → (value : Rat) → (unit : Nat) → Rat × Nat
  | 0, value, unit => (value, unit)
  | units + 1, value, unit =>
    if 1024 ≤ value then scaleByteSize units (value / 1024) (unit + 1) else (value, unit)

def formatByteSize [Host] (bytes : UInt64) (mode : TextMode) : QString :=
  let (value, unit) := scaleByteSize 5 (toDouble bytes.toNat) 0
  if unit = 0 then
    ((QStringLiteral "%1 %2").arg [.number bytes.toNat]).arg [ByteUnits.getD unit []]
  else ((QStringLiteral "%1 %2").arg [formatDecimal value 2 mode]).arg [ByteUnits.getD unit []]

/-- The value in the unit that the loop ends in: less than 1024 of the unit, unless it is the last,
and at least one, unless it is the first. -/
structure InUnit (units : Nat) (value : Rat) (unit : Nat) (shown : Rat × Nat) : Prop where
  first : unit ≤ shown.2
  last : shown.2 ≤ unit + units
  value : shown.1 * 1024 ^ (shown.2 - unit) = value
  below : shown.2 < unit + units → shown.1 < 1024
  least : unit < shown.2 → 1 ≤ shown.1

theorem scaleByteSize_inUnit (units : Nat) (value : Rat) (unit : Nat) :
    InUnit units value unit (scaleByteSize units value unit) := by
  induction units generalizing value unit with
  | zero =>
    unfold scaleByteSize
    exact ⟨Nat.le_refl _, Nat.le_refl _, by simp, fun h => absurd h (Nat.lt_irrefl _),
      fun h => absurd h (Nat.lt_irrefl _)⟩
  | succ units ih =>
    unfold scaleByteSize
    split_ifs with hlarge
    · obtain ⟨hfirst, hlast, hvalue, hbelow, hleast⟩ := ih (value / 1024) (unit + 1)
      refine ⟨Nat.le_of_succ_le hfirst, by omega, ?_, fun h => hbelow (by omega), fun _ => ?_⟩
      · rw [show (scaleByteSize units (value / 1024) (unit + 1)).2 - unit =
          (scaleByteSize units (value / 1024) (unit + 1)).2 - (unit + 1) + 1 by omega,
          Rat.pow_succ, ← Rat.mul_assoc, hvalue, Rat.div_mul_cancel (by decide)]
      · rcases Nat.eq_or_lt_of_le hfirst with hunit | hunit
        · rw [← hunit, Nat.sub_self, Rat.pow_zero, Rat.mul_one] at hvalue
          rw [hvalue]
          refine Rat.not_lt.mp fun hsmall => Rat.not_le.mpr ?_ hlarge
          simpa using (Rat.div_lt_iff (by decide)).mp hsmall
        · exact hleast hunit
    · exact ⟨Nat.le_refl _, Nat.le_add_right _ _, by simp, fun _ => Rat.not_le.mp hlarge,
        fun h => absurd h (Nat.lt_irrefl _)⟩

/-- Every size is shown in one of the units. -/
theorem formatByteSize_unit [Host] (bytes : UInt64) (mode : TextMode) :
    ∃ shown name, InUnit 5 (toDouble bytes.toNat) 0 shown ∧ ByteUnits[shown.2]? = some name ∧
      formatByteSize bytes mode = ((QStringLiteral "%1 %2").arg
        [if shown.2 = 0 then .number bytes.toNat else formatDecimal shown.1 2 mode]).arg [name] := by
  have hshown := scaleByteSize_inUnit 5 (toDouble bytes.toNat) 0
  have hunit : (scaleByteSize 5 (toDouble bytes.toNat) 0).2 < ByteUnits.length :=
    Nat.lt_succ_of_le hshown.last
  refine ⟨_, _, hshown, List.getElem?_eq_getElem hunit, ?_⟩
  unfold formatByteSize
  dsimp only
  rw [List.getD_eq_getElem?_getD, List.getElem?_eq_getElem hunit, Option.getD_some]
  split_ifs <;> rfl

open SmallStick in
example : formatByteSize (16 * 1024 ^ 3) .english = QStringLiteral "16.00 GB" := by decide +kernel

end UsbRestore
