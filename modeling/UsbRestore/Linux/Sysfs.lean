-- SUMMARY: What the backend reads from sysfs, the mount table and the by-id links.
import UsbRestore.Linux.System
import Mathlib.Data.List.Sort

/-!
# Reading sysfs

Every function asks the environment afresh; nothing is cached between two calls.
-/

namespace UsbRestore

variable {ε : Type}

def SysBlock : QString := QStringLiteral "/sys/block"

/-! ## Parsing -/

def isOctalDigit (c : QChar) : Bool := 48 ≤ c && c ≤ 55

/-- `toInt(&ok, 8)` of a text of at most three units, which cannot overflow. -/
def toIntOctal (text : QString) : Option Int :=
  let body := text.trimmed
  let (negative, unsigned) := match body with
    | c :: rest =>
      if c = QChar.ofChar '-' then (true, rest)
      else if c = QChar.ofChar '+' then (false, rest)
      else (false, body)
    | [] => (false, [])
  if unsigned.isEmpty || !unsigned.all isOctalDigit then none
  else
    let value := unsigned.foldl (fun (value : Nat) c => 8 * value + (c.toNat - 48)) 0
    some (if negative then -(value : Int) else value)

/-- `QChar(code)`, which keeps the low 16 bits. -/
def charOfCode (code : Int) : QChar := UInt16.ofNat (code % 65536).toNat

/-- mountinfo escapes space, tab, newline and backslash as three octal digits. -/
def unescapeMountField : QString → QString
  | [] => []
  | c :: d1 :: d2 :: d3 :: rest =>
    if c = QChar.ofChar '\\' then
      match toIntOctal [d1, d2, d3] with
      | some code => charOfCode code :: unescapeMountField rest
      | none => c :: unescapeMountField (d1 :: d2 :: d3 :: rest)
    else c :: unescapeMountField (d1 :: d2 :: d3 :: rest)
  | c :: rest => c :: unescapeMountField rest

def parseDeviceNumber (text : QString) : DeviceNumber :=
  match text.trimmed.split (QChar.ofChar ':') with
  | [major, minor] => ⟨major.toUInt.getD 0, minor.toUInt.getD 0⟩
  | _ => {}

structure MountEntry where
  device : DeviceNumber := {}
  mountPoint : QString := []
  source : QString := []
  deriving DecidableEq

/-- One line of mountinfo: id, parent, major:minor, root, mount point, options, then after a
dash the type, the source and the options of the superblock. -/
def parseMountLine (line : QString) : Option MountEntry :=
  let fields := line.splitSkipEmpty (QChar.ofChar ' ')
  if fields.length < 6 then none
  else
    let separator := fields.findIdx (· = QStringLiteral "-")
    some
      { device := parseDeviceNumber (fields.getD 2 [])
        mountPoint := unescapeMountField (fields.getD 4 [])
        source :=
          if separator + 2 < fields.length then unescapeMountField (fields.getD (separator + 2) [])
          else [] }

def parseMounts (text : QString) : List MountEntry :=
  (text.splitSkipEmpty 10).filterMap parseMountLine

/-! ## Attributes and devices -/

/-- Empty when the attribute does not exist. -/
def readSysfsAttribute (path : QString) : Prog LinuxI ε QString := do
  let text ← Sys.readFile path
  return (text.getD []).trimmed

/-- The order `QStringList::sort` puts names in. -/
def lexLe : QString → QString → Bool
  | [], _ => true
  | _ :: _, [] => false
  | c :: s, d :: t => if c < d then true else if d < c then false else lexLe s t

/-- Keep the entries that have a `partition` attribute. -/
def keepPartitions (dir : QString) : List QString → Prog LinuxI ε (List QString)
  | [] => return []
  | entry :: entries => do
    let present ← Sys.pathExists ((QStringLiteral "%1/%2/partition").arg [dir, entry])
    let rest ← keepPartitions dir entries
    return if present then entry :: rest else rest

/-- Kernel names of the partitions of a disk. -/
def listPartitionNames (diskName : QString) : Prog LinuxI ε (List QString) := do
  let dir := (QStringLiteral "%1/%2").arg [SysBlock, diskName]
  let entries ← Sys.entryList dir .dirs
  let names ← keepPartitions dir entries
  return names.insertionSort (fun a b => lexLe a b = true)

def readDeviceNumber (sysfsPath : QString) : Prog LinuxI ε DeviceNumber := do
  let text ← readSysfsAttribute ((QStringLiteral "%1/dev").arg [sysfsPath])
  return parseDeviceNumber text

def readPartitionNumbers (diskName : QString) : List QString → Prog LinuxI ε (List DeviceNumber)
  | [] => return []
  | partition :: partitions => do
    let number ← readDeviceNumber ((QStringLiteral "%1/%2/%3").arg [SysBlock, diskName, partition])
    let rest ← readPartitionNumbers diskName partitions
    return if number.isValid then number :: rest else rest

/-- The number of the whole disk and of every partition, without the invalid ones. -/
def deviceNumbersOnDisk (diskName : QString) : Prog LinuxI ε (List DeviceNumber) := do
  let diskNumber ← readDeviceNumber ((QStringLiteral "%1/%2").arg [SysBlock, diskName])
  let partitions ← listPartitionNames diskName
  let rest ← readPartitionNumbers diskName partitions
  return if diskNumber.isValid then diskNumber :: rest else rest

def readMounts : Prog LinuxI ε (List MountEntry) := do
  let text ← Sys.readFile (QStringLiteral "/proc/self/mountinfo")
  return parseMounts (text.getD [])

/-- `^usb[0-9]+$`, whose end may stand before a final newline. -/
def isUsbController (component : QString) : Bool :=
  let body := if component.getLast? = some 10 then component.dropLast else component
  (QStringLiteral "usb").isPrefixOf body && !(body.drop 3).isEmpty && (body.drop 3).all QChar.isDigit

def isUsbBlockDevice (diskName : QString) : Prog LinuxI ε Bool := do
  let resolved ← Sys.canonicalFilePath ((QStringLiteral "%1/%2").arg [SysBlock, diskName])
  if resolved.isEmpty then return false
  return (resolved.splitSkipEmpty (QChar.ofChar '/')).any isUsbController

/-! ## Links -/

/-- The loop of `linkTo` over the entries still to be looked at. -/
def linkAmong (directory target preferredPrefix : QString) :
    (fallback : QString) → List QString → Prog LinuxI ε QString
  | fallback, [] => return fallback
  | fallback, entry :: entries => do
    let preferred := preferredPrefix.isPrefixOf entry
    if !preferred && !fallback.isEmpty then
      linkAmong directory target preferredPrefix fallback entries
    else
      let resolved ← Sys.canonicalFilePath (directory ++ QStringLiteral "/" ++ entry)
      if resolved ≠ target then linkAmong directory target preferredPrefix fallback entries
      else if preferred then return entry
      else linkAmong directory target preferredPrefix entry entries

/-- The first entry that links to the device, preferring names with the prefix. -/
def linkTo (directory deviceName preferredPrefix : QString) : Prog LinuxI ε QString := do
  if !(← Sys.pathExists directory) then return []
  let entries ← Sys.entryList directory .all
  linkAmong directory ((QStringLiteral "/dev/%1").arg [deviceName]) preferredPrefix [] entries

def stableDeviceIdLink (diskName : QString) : Prog LinuxI ε QString :=
  linkTo (QStringLiteral "/dev/disk/by-id") diskName (QStringLiteral "usb-")

def parentAmong (partitionName : QString) : List QString → Prog LinuxI ε QString
  | [] => return []
  | disk :: disks => do
    if partitionName = disk then parentAmong partitionName disks
    else if ← Sys.pathExists ((QStringLiteral "%1/%2/%3/partition").arg [SysBlock, disk, partitionName])
    then return disk
    else parentAmong partitionName disks

/-- Empty when the name is not that of a partition. -/
def parentDiskName (partitionName : QString) : Prog LinuxI ε QString := do
  let disks ← Sys.entryList SysBlock .dirs
  parentAmong partitionName disks

/-! ## Executables -/

def executableAmong (name : QString) : List QString → Prog LinuxI ε QString
  | [] => return []
  | directory :: directories => do
    let candidate := (QStringLiteral "%1/%2").arg [directory, name]
    let info ← Sys.fileInfo candidate
    if info.present && info.isExecutable && !info.isDir then return candidate
    else executableAmong name directories

/-- Fixed directories, never the caller's search path. -/
def findSystemExecutable (name : QString) : Prog LinuxI ε QString :=
  executableAmong name
    [QStringLiteral "/usr/sbin", QStringLiteral "/sbin", QStringLiteral "/usr/bin",
      QStringLiteral "/bin", QStringLiteral "/usr/local/sbin", QStringLiteral "/usr/local/bin"]

/-! ## Partition styles -/

/-- `detectPartitionStyle` of a device that can be opened, as the bytes it holds. -/
def detectPartitionStyle (device : Bytes) (sectorSize : UInt32) : PartitionStyle :=
  let sector := (effectiveSectorSize sectorSize).toNat
  let first := device.left sector
  if first.size < 512 then .unknown
  else if ((device.slice sector (min 8 (device.size - sector))).toList =
      gptSignature.toList) then .gpt
  else if first.byteAt 510 = 0x55 ∧ first.byteAt 511 = 0xAA then .mbr
  else .unknown

end UsbRestore
