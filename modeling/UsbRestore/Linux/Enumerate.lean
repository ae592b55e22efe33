-- SUMMARY: Enumeration of one USB disk and of the disks the running system depends on.
import UsbRestore.Linux.Sysfs

/-!
# Enumeration on Linux

Read-only facts about one disk, with the details a restore asks for.
-/

namespace UsbRestore

variable [Host]

/-- sysfs sizes are in 512-byte units, whatever the sector size of the device. -/
def SysfsSectorUnit : UInt64 := 512

def protectedSystemMounts : List QString :=
  [QStringLiteral "/", QStringLiteral "/boot", QStringLiteral "/boot/efi", QStringLiteral "/efi",
    QStringLiteral "/etc", QStringLiteral "/home", QStringLiteral "/nix", QStringLiteral "/opt",
    QStringLiteral "/srv", QStringLiteral "/usr", QStringLiteral "/var"]

def devicePathFor (kernelName : QString) : QString := (QStringLiteral "/dev/%1").arg [kernelName]

/-- The mount points of the devices in `owned`, each once. -/
def mountPointsOf (owned : List DeviceNumber) (mounts : List MountEntry) : List QString :=
  mounts.foldl (fun points mount =>
    if mount.device ∈ owned ∧ mount.mountPoint ∉ points then points ++ [mount.mountPoint]
    else points) []

/-- `diskInfoWithMounts` with the details of a restore. -/
def diskInfoWithMounts {ε : Type} (diskName : QString) (mounts : List MountEntry) :
    Prog LinuxI ε DiskInfo := do
  let sysfs := (QStringLiteral "/sys/block/%1").arg [diskName]
  let deviceId := devicePathFor diskName
  let isUsb ← isUsbBlockDevice diskName
  let vendor ← readSysfsAttribute ((QStringLiteral "%1/device/vendor").arg [sysfs])
  let model ← readSysfsAttribute ((QStringLiteral "%1/device/model").arg [sysfs])
  let reported := ((QStringLiteral "%1 %2").arg [vendor, model]).trimmed
  let name := if reported.isEmpty then QStringLiteral "USB disk" else reported
  let uniqueId ← stableDeviceIdLink diskName
  let path ← Sys.canonicalFilePath sysfs
  let sequence ← readSysfsAttribute ((QStringLiteral "%1/diskseq").arg [sysfs])
  let size ← readSysfsAttribute ((QStringLiteral "%1/size").arg [sysfs])
  let sectorSize ← readSysfsAttribute ((QStringLiteral "%1/queue/logical_block_size").arg [sysfs])
  let readOnly ← readSysfsAttribute ((QStringLiteral "%1/ro").arg [sysfs])
  let owned ← deviceNumbersOnDisk diskName
  let bytes := (size.toULongLong.getD 0) * SysfsSectorUnit
  return {
    deviceId
    displayId := deviceId
    busType := if isUsb then UsbBusType else 0
    name
    uniqueId
    serialNumber := serialFromUsbByIdLink uniqueId name
    path
    deviceSequence := sequence.toULongLong.filter (fun number => number != 0)
    size := bytes
    sectorSize := effectiveSectorSize (sectorSize.toUInt.getD 0)
    isReadOnly := readOnly = QStringLiteral "1"
    isOffline := bytes = 0
    mountPoints := mountPointsOf owned mounts }

def diskInfoFor {ε : Type} (diskName : QString) : Prog LinuxI ε DiskInfo := do
  let mounts ← readMounts
  diskInfoWithMounts diskName mounts

/-- Fails for a partition, which has no directory of its own under `/sys/block`. -/
def refreshUsbDisk (installed : Catalog) (deviceId : QString) :
    Prog LinuxI RestoreMessage DiskInfo := do
  let name := QString.fileName deviceId
  let refuse (source : QString) : RestoreMessage :=
    (restoreText installed source).arg [.ofText deviceId]
  let gone := refuse (QStringLiteral "%1 is no longer present. Refresh and select the USB again.")
  if name.isEmpty then .fail gone
  else if !(← Sys.pathExists ((QStringLiteral "/sys/block/%1").arg [name])) then .fail gone
  else if !(← isUsbBlockDevice name) then
    .fail (refuse (QStringLiteral "%1 is no longer reported on the USB bus. Refresh and select the USB again."))
  else diskInfoFor name

/-- The loop of `linuxRestoreGuard`: the disk behind every protected mount. -/
def protectedDeviceIds {ε : Type} : (found : List QString) → List MountEntry →
    Prog LinuxI ε (List QString)
  | found, [] => return found
  | found, mount :: mounts => do
    if !isProtectedMountPoint mount.mountPoint protectedSystemMounts then
      protectedDeviceIds found mounts
    else if !(QStringLiteral "/dev/").isPrefixOf mount.source then protectedDeviceIds found mounts
    else
      let name := QString.fileName mount.source
      let disk ← parentDiskName name
      let deviceId := devicePathFor (if disk.isEmpty then name else disk)
      protectedDeviceIds (if deviceId ∈ found then found else found ++ [deviceId]) mounts

/-- Pins the disk behind each protected mount, however its mount point is spelled. -/
def linuxRestoreGuard {ε : Type} : Prog LinuxI ε RestoreGuard := do
  let mounts ← readMounts
  let deviceIds ← protectedDeviceIds [] mounts
  return { mountPoints := protectedSystemMounts, deviceIds }

end UsbRestore
