-- SUMMARY: What every enumerated disk has: its node, a name and a sector size.
import UsbRestore.Linux.Footprint

/-!
# Enumerated disks

Facts about a disk that do not depend on what sysfs answers.
-/

namespace UsbRestore

open Prog

variable [Host]

/-- The node of the kernel name, some model name, and a sector size. -/
structure EnumeratedAs (diskName : QString) (disk : DiskInfo) : Prop where
  deviceId : disk.deviceId = devicePathFor diskName
  name : disk.name.trimmed ≠ []
  sectorSize : disk.sectorSize ≠ 0

omit [Host] in
theorem effectiveSectorSize_ne_zero (sectorSize : UInt32) : effectiveSectorSize sectorSize ≠ 0 := by
  unfold effectiveSectorSize
  split_ifs with h
  · decide
  · exact h

/-- The enumeration always ends in a disk with these properties. -/
theorem diskInfoFor_enumerated {ε : Type} (diskName : QString) :
    (diskInfoFor diskName : Prog LinuxI ε DiskInfo).Satisfies (fun _ => True)
      (fun r => ∃ disk, r = .ok disk ∧ EnumeratedAs diskName disk) := by
  have hany : ∀ {α : Type} {p : Prog LinuxI ε α}, p.Satisfies LinuxOp.Lookup Returns →
      p.Satisfies (fun _ => True) Returns :=
    fun h => h.mono (fun _ _ => trivial) (fun _ h => h)
  unfold diskInfoFor
  refine .seq (hany readMounts_lookup) fun mounts => ?_
  unfold diskInfoWithMounts
  dsimp only
  refine .seq (hany (isUsbBlockDevice_lookup _)) fun isUsb => ?_
  refine .seq (hany (readSysfsAttribute_lookup _)) fun vendor => ?_
  refine .seq (hany (readSysfsAttribute_lookup _)) fun model => ?_
  refine .seq (hany (stableDeviceIdLink_lookup _)) fun uniqueId => ?_
  refine .call trivial fun path => ?_
  refine .seq (hany (readSysfsAttribute_lookup _)) fun sequence => ?_
  refine .seq (hany (readSysfsAttribute_lookup _)) fun size => ?_
  refine .seq (hany (readSysfsAttribute_lookup _)) fun sectorSize => ?_
  refine .seq (hany (readSysfsAttribute_lookup _)) fun readOnly => ?_
  refine .seq (hany (deviceNumbersOnDisk_lookup _)) fun owned => ?_
  refine ⟨_, rfl, rfl, ?_, effectiveSectorSize_ne_zero _⟩
  dsimp only
  split_ifs with hreported
  · decide
  · rw [QString.trimmed_trimmed]
    simpa using hreported

theorem diskInfoFor_run {ε : Type} {diskName : QString} {disk : DiskInfo} {t : List (Event LinuxI)}
    (h : Runs (diskInfoFor diskName : Prog LinuxI ε DiskInfo) t (some (.ok disk))) :
    EnumeratedAs diskName disk := by
  obtain ⟨disk', hdisk, henumerated⟩ := ((diskInfoFor_enumerated diskName).runs h).2 _ rfl
  cases hdisk
  exact henumerated

theorem refreshUsbDisk_run {installed : Catalog} {path : QString} {disk : DiskInfo}
    {t : List (Event LinuxI)} (h : Runs (refreshUsbDisk installed path) t (some (.ok disk))) :
    EnumeratedAs (QString.fileName path) disk := by
  unfold refreshUsbDisk at h
  dsimp only at h
  split at h
  · exact h.not_fail_ok.elim
  obtain ⟨present, rest, rfl, hpresent⟩ := Runs.call_ok h
  split at hpresent
  · exact hpresent.not_fail_ok.elim
  obtain ⟨bus, rest, isUsb, rfl, _, husb⟩ := Runs.bind_ok hpresent
  split at husb
  · exact husb.not_fail_ok.elim
  exact diskInfoFor_run husb

end UsbRestore
