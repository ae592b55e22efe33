-- SUMMARY: The parts of a restore around its writes: each of them ends, and which calls it makes.
import UsbRestore.Base.Machine
import UsbRestore.Linux.ProtectedMounts
import UsbRestore.Linux.RestoreFootprint

/-!
# Parts that end

Only the loops that write and the wait for the new node can go on for long. Everything else between
the exclusive open and the end of the formatting ends, whatever is answered, makes no raw write, and
maps one range.
-/

namespace UsbRestore

open Prog

namespace LinuxOp

/-- No raw write, and no mapping of another range. -/
def MapsOnly (start length : UInt64) : LinuxOp → Prop
  | .sys (.pwrite _ _ _) => False
  | .sys (.loopConfigure _ config) => config.offset = start ∧ config.sizeLimit = length
  | _ => True

/-- No formatter but for this device. -/
def Formats (start length : UInt64) (device : QString) : LinuxOp → Prop
  | .sys (.startProcess _ arguments) => arguments.getLast? = some device
  | o => o.MapsOnly start length

/-- No formatter at all. -/
def Prepares (start length : UInt64) : LinuxOp → Prop
  | .sys (.startProcess _ _) => False
  | o => o.MapsOnly start length

variable {start length : UInt64} {device : QString} {o : LinuxOp}

theorem Prepares.formats (h : o.Prepares start length) : o.Formats start length device := by
  unfold Prepares at h
  split at h
  · exact h.elim
  · next hno =>
    unfold Formats
    split
    · exact absurd rfl (hno _ _)
    · exact h

theorem Formats.mapsOnly (h : o.Formats start length device) : o.MapsOnly start length := by
  unfold Formats at h
  split at h
  · trivial
  · exact h

/-- Calls that prepare a mapping make no other. -/
theorem Prepares.mapsOnly (h : o.Prepares start length) : o.MapsOnly start length :=
  (@Prepares.formats _ _ [] _ h).mapsOnly

theorem Query.prepares (h : o.Query) : o.Prepares start length := by
  cases o with
  | sys o => cases o <;> trivial
  | reporter o => cases h

end LinuxOp

section

variable {start length : UInt64} {ε α : Type}

/-- The calls of the preparation. -/
abbrev Preparing (start length : UInt64) (p : Prog LinuxI ε α) : Prop :=
  p.Ending (LinuxOp.Prepares start length)

/-- A total program of lookups prepares nothing and comes to an end. -/
theorem preparing_of_lookup {p : Prog LinuxI ε α} {R : Except ε α → Prop} (htotal : p.Total)
    (h : p.Satisfies LinuxOp.Lookup R) : Preparing start length p :=
  .of_total htotal (h.mono (fun _ ho => ho.query.prepares) fun _ hR => hR)

/-! ## Identity checks -/

/-- The enumeration of a disk comes to an end, whatever is answered. -/
theorem diskInfoFor_total [Host] (diskName : QString) :
    (diskInfoFor diskName : Prog LinuxI ε DiskInfo).Total :=
  Total.call fun _ => .bind (isUsbBlockDevice_total _) fun _ =>
    .bind (readSysfsAttribute_total _) fun _ => .bind (readSysfsAttribute_total _) fun _ =>
    .bind (stableDeviceIdLink_total _) fun _ => .call fun _ =>
    .bind (readSysfsAttribute_total _) fun _ => .bind (readSysfsAttribute_total _) fun _ =>
    .bind (readSysfsAttribute_total _) fun _ => .bind (readSysfsAttribute_total _) fun _ =>
    .bind (deviceNumbersOnDisk_total _) fun _ => trivial

theorem readDeviceNumber_total (path : QString) :
    (readDeviceNumber path : Prog LinuxI ε DeviceNumber).Total :=
  fun _ => trivial

namespace BlockDevice

variable (installed : Catalog) (device : BlockDevice)

theorem sizeInBytes_preparing : Preparing (ε := ε) start length device.sizeInBytes := by
  unfold sizeInBytes
  split
  · exact .ret _
  · refine .call trivial fun answered => ?_
    cases answered <;> exact .ret _

theorem logicalSectorSize_preparing :
    Preparing (ε := ε) start length device.logicalSectorSize := by
  unfold logicalSectorSize
  split
  · exact .ret _
  · refine .call trivial fun answered => ?_
    cases answered <;> exact .ret _

theorem diskSequence_preparing : Preparing (ε := ε) start length device.diskSequence := by
  unfold diskSequence
  split
  · exact .ret _
  · refine .call trivial fun answered => ?_
    cases answered <;> exact .ret _

variable [Host]

theorem blockDeviceNumber_preparing (fd : Fd) :
    Preparing start length (device.blockDeviceNumber installed fd) := by
  refine .call trivial fun answered => ?_
  cases answered with
  | error errorNumber => exact .fail _
  | ok status =>
    dsimp only
    split
    · exact .fail _
    · exact .ret _

omit [Host] in
theorem verifySequence_preparing (expected : DiskInfo) :
    Preparing start length (device.verifySequence installed expected) := by
  unfold verifySequence
  dsimp only
  split
  · exact .fail _
  · refine .seq (diskSequence_preparing device) fun sequence => ?_
    cases sequence with
    | none => exact .fail _
    | some sequence => exact .ofExcept _

theorem verifyGeometry_preparing (expected : DiskInfo) :
    Preparing start length (device.verifyGeometry installed expected) := by
  refine .seq (sizeInBytes_preparing device) fun reportedSize => ?_
  split
  · exact .fail _
  · split
    · exact .fail _
    · refine .seq (logicalSectorSize_preparing device) fun reportedSector => ?_
      split
      · exact .fail _
      · exact .ret _

/-- The identity check comes to an end and leaves the mapping as it is. -/
theorem verifyIdentity_preparing (expected : DiskInfo) :
    Preparing start length (device.verifyIdentity installed expected) := by
  unfold verifyIdentity
  split
  · exact .fail _
  · refine .seq (blockDeviceNumber_preparing installed device _) fun actual => ?_
    refine .seq (verifySequence_preparing installed device expected) fun _ => ?_
    refine .seq (preparing_of_lookup (readDeviceNumber_total _) (readDeviceNumber_lookup _))
      fun expectedNumber => ?_
    split
    · exact .fail _
    · split
      · exact .fail _
      · refine .seq (verifyGeometry_preparing installed device expected) fun _ => ?_
        refine .seq (preparing_of_lookup (readSysfsAttribute_total _)
          (readSysfsAttribute_lookup _)) fun readOnly => ?_
        split
        · exact .fail _
        · refine .seq (preparing_of_lookup (isUsbBlockDevice_total _) (isUsbBlockDevice_lookup _))
            fun isUsb => ?_
          split
          · exact .fail _
          · exact .seq (preparing_of_lookup (diskInfoFor_total _) (diskInfoFor_lookup _))
              fun current => .ofExcept _

theorem verifyPartitionOf_preparing (diskName : QString) (expectedSequence : Option UInt64) :
    Preparing start length (device.verifyPartitionOf installed diskName expectedSequence) := by
  unfold verifyPartitionOf
  split
  · exact .fail _
  · refine .seq (blockDeviceNumber_preparing installed device _) fun actual => ?_
    refine .seq (preparing_of_lookup (readDeviceNumber_total _) (readDeviceNumber_lookup _))
      fun expectedNumber => ?_
    split
    · exact .fail _
    · split
      · exact .ret _
      · refine .seq (diskSequence_preparing device) fun sequence => ?_
        split
        · exact .ret _
        · exact .fail _

theorem flush_preparing : Preparing start length (device.flush installed) := by
  unfold flush
  split
  · exact .ret _
  · refine .call trivial fun answered => ?_
    cases answered with
    | error errorNumber => exact .fail _
    | ok _ => exact .call trivial fun _ => .ret _

theorem rereadPartitionTable_preparing :
    Preparing start length (device.rereadPartitionTable installed) := by
  unfold rereadPartitionTable
  split
  · exact .fail _
  · refine .call trivial fun answered => ?_
    cases answered with
    | error errorNumber => exact .fail _
    | ok _ => exact .ret _

end BlockDevice

/-! ## The reporter and the identifiers -/

theorem cancelCheckpoint_preparing : Preparing start length cancelCheckpoint := by
  refine .call trivial fun cancelled => ?_
  split
  · exact .fail _
  · exact .ret _

theorem reportPlannedStep_preparing (installed : Catalog) (counter : RestoreStepCounter)
    (step : RestoreStep) (request : RestoreRequest) :
    Preparing (ε := ε) start length (reportPlannedStep installed counter step request) := by
  unfold reportPlannedStep
  generalize counter.advance step = advanced
  obtain ⟨number, counter⟩ := advanced
  dsimp only
  split
  · exact .call trivial fun _ => .call trivial fun _ => .ret _
  · exact .call trivial fun _ => .ret _

theorem randomGuid_preparing : Preparing (ε := ε) start length randomGuid :=
  .call trivial fun _ => .ret _

/-! ## The mapping -/

namespace LoopDevice

variable (installed : Catalog)

theorem loopNumber_preparing (control : Fd) (busy : Bool) :
    Preparing (ε := ε) start length (loopNumber control busy) := by
  unfold loopNumber
  split
  · exact .op trivial
  · exact .op trivial

/-- The attempts come to an end, and what they map is the range they were given. -/
theorem configureAttempts_preparing (control : Fd) {config : LoopConfig}
    (hconfig : config.offset = start ∧ config.sizeLimit = length) (attempts : Nat) (busy : Bool)
    (errorNumber : Errno) : Preparing (ε := ε) start length
      (configureAttempts control config attempts busy errorNumber) := by
  induction attempts generalizing busy errorNumber with
  | zero => exact .ret _
  | succ attempts ih =>
    unfold configureAttempts
    refine .seq (loopNumber_preparing control busy) fun number => ?_
    cases number with
    | error code => exact .ret _
    | ok number =>
      refine .call trivial fun claimed => ?_
      cases claimed with
      | error code =>
        dsimp only
        split
        · exact ih true code
        · exact .ret _
      | ok claim =>
        refine .call hconfig fun configured => ?_
        cases configured with
        | ok _ =>
          refine .call trivial fun opened => ?_
          cases opened with
          | ok fd => exact .ret _
          | error code => exact .call trivial fun _ => .call trivial fun _ => .ret _
        | error code =>
          refine .call trivial fun _ => ?_
          split
          · exact ih true code
          · exact .ret _

theorem backingSize_preparing (backingDescriptor : Fd) (status : FileStatus) :
    Preparing (ε := ε) start length (backingSize backingDescriptor status) := by
  unfold backingSize
  split
  · exact .ret _
  · refine .call trivial fun answered => ?_
    cases answered <;> exact .ret _
  · exact .ret _

variable [Host]

/-- The range that is mapped is the one that was asked for. -/
theorem configure_preparing (formatter : LoopDevice) (backingDescriptor : Fd)
    (sectorSize : UInt32) : Preparing start length
      (configure installed formatter backingDescriptor start length sectorSize) := by
  unfold configure
  dsimp only
  split
  · exact .fail _
  · refine .call trivial fun answered => ?_
    cases answered with
    | error errorNumber => exact .fail _
    | ok status =>
      refine .seq (backingSize_preparing _ _) fun size => ?_
      cases size with
      | none => exact .fail _
      | some size =>
        dsimp only
        split
        · exact .fail _
        · refine .call trivial fun opened => ?_
          cases opened with
          | error errorNumber => exact .fail _
          | ok control =>
            refine .seq (configureAttempts_preparing control (by exact ⟨rfl, rfl⟩) 8 false 0)
              fun configured => ?_
            refine .call trivial fun _ => ?_
            cases configured with
            | ok formatter => exact .ret _
            | error errorNumber => exact .fail _

omit [Host] in
theorem releaseClaim_preparing (formatter : LoopDevice) :
    Preparing (ε := ε) start length formatter.releaseClaim := by
  unfold releaseClaim
  split
  · exact .ret _
  · exact .call trivial fun _ => .ret _

/-- Making the mapping ready for the formatter maps nothing more. -/
theorem prepareForFormatting_preparing (formatter : LoopDevice) :
    Preparing start length (formatter.prepareForFormatting installed) := by
  unfold prepareForFormatting
  dsimp only
  split
  · exact .ret _
  · refine .call trivial fun answered => ?_
    cases answered with
    | error errorNumber => exact .ret _
    | ok _ => exact .seq (releaseClaim_preparing formatter) fun _ => .ret _

theorem detach_preparing (formatter : LoopDevice) :
    Preparing (ε := ε) start length (formatter.detach installed) := by
  unfold detach
  dsimp only
  split
  · exact .seq (releaseClaim_preparing formatter) fun _ => .ret _
  · exact .call trivial fun _ => .seq (releaseClaim_preparing formatter) fun _ =>
      .call trivial fun _ => .call trivial fun _ => .ret _

end LoopDevice

/-! ## Formatting -/

/-- The calls of the formatting of a device. -/
abbrev Formatting (start length : UInt64) (device : QString) (p : Prog LinuxI ε α) : Prop :=
  p.Ending (LinuxOp.Formats start length device)

variable {device : QString}

/-- What prepares a mapping may also stand where a formatter runs. -/
theorem Preparing.formatting {p : Prog LinuxI ε α} (h : Preparing start length p) :
    Formatting start length device p :=
  h.mono fun _ => LinuxOp.Prepares.formats

theorem environmentId_formatting (name : QString) :
    Formatting (ε := ε) start length device (environmentId name) := by
  refine .call trivial fun raw => ?_
  split
  · split <;> exact .ret _
  · exact .ret _

theorem desktopOwner_formatting : Formatting (ε := ε) start length device desktopOwner := by
  unfold desktopOwner callerUid
  refine .seq (.seq (environmentId_formatting _) fun uid => ?_) fun uid => ?_
  · cases uid with
    | some uid => exact .ret _
    | none => exact environmentId_formatting _
  · cases uid with
    | none => exact .ret _
    | some uid =>
      dsimp only
      split
      · exact .ret _
      · refine .call trivial fun gid => ?_
        cases gid with
        | some gid => exact .ret _
        | none => exact .seq (environmentId_formatting _) fun _ => .ret _

/-- Making up the argument lists starts no formatter. -/
theorem formatAttempts_formatting (fileSystem : FileSystemType) (partitionPath label : QString)
    (partitionStartSector : UInt64) : Formatting (ε := ε) start length device
      (formatAttempts fileSystem partitionPath label partitionStartSector) := by
  cases fileSystem with
  | exFat => exact .ret _
  | fat32 => exact .ret _
  | ntfs => exact .ret _
  | ext4 =>
    refine .seq desktopOwner_formatting fun owner => ?_
    cases owner with
    | some owner => exact .call trivial fun _ => .ret _
    | none => exact .call trivial fun _ => .ret _

variable [Host] (installed : Catalog)

omit [Host] in
/-- The formatter is started on the device that its last argument names. -/
theorem runFormatter_formatting (tool : QString) {arguments : List QString}
    (h : arguments.getLast? = some device) :
    Formatting start length device (runFormatter installed tool arguments) := by
  unfold runFormatter
  dsimp only
  refine .call h fun started => ?_
  split
  · exact .fail _
  · refine .call trivial fun finished => ?_
    split
    · exact .call trivial fun _ => .call trivial fun _ => .fail _
    · refine .call trivial fun result => ?_
      split
      · refine .call trivial fun _ => ?_
        split
        · exact .call trivial fun _ => .ret _
        · exact .ret _
      · exact .call trivial fun _ => .ret _

/-- Each attempt formats the same device. -/
theorem tryAttempts_formatting (tool lastOutput : QString) {attempts : List (List QString)}
    (h : ∀ arguments ∈ attempts, arguments.getLast? = some device) :
    Formatting start length device (tryAttempts installed tool lastOutput attempts) := by
  induction attempts generalizing lastOutput with
  | nil => exact .ret _
  | cons arguments attempts ih =>
    refine .seq (runFormatter_formatting installed tool (h _ List.mem_cons_self)) fun ran => ?_
    cases ran with
    | ok _ => exact .ret _
    | error lastOutput =>
      dsimp only
      split
      · exact ih lastOutput fun other hother => h other (List.mem_cons_of_mem _ hother)
      · exact .ret _

/-- A formatter is only started to format the node it is to format. -/
theorem formatLinuxPartition_formatting (fileSystem : FileSystemType) (tool label : QString)
    (partitionStartSector : UInt64) : Formatting start length device
      (formatLinuxPartition installed fileSystem tool device label partitionStartSector) := by
  unfold formatLinuxPartition
  refine .seq_of (formatAttempts_formatting _ _ _ _) (formatAttempts_aimed _
    { fd := 0, tool, path := device, claim := none } _ _ _) fun attempts hattempts => ?_
  refine .seq (tryAttempts_formatting installed tool [] hattempts) fun tried => ?_
  cases tried with
  | ok _ => exact .ret _
  | error lastOutput =>
    dsimp only
    split <;> exact .fail _

/-- The whole phase of formatting formats the device of the mapping, and no other. -/
theorem formatAndReread_formatting (request : RestoreRequest) (formatTool : QString)
    (partitionStartSector : UInt64) (device : BlockDevice) (formatter : LoopDevice)
    (steps : RestoreStepCounter) : Formatting start length formatter.path
      (formatAndRereadPartitionTable installed request formatTool partitionStartSector device
        formatter steps) := by
  unfold formatAndRereadPartitionTable formatThroughMapping
  refine .seq (reportPlannedStep_preparing installed _ _ _).formatting fun steps => ?_
  refine .seq ?_ fun formatted => ?_
  · refine .seq_of (LoopDevice.prepareForFormatting_preparing installed formatter).formatting
      (LoopDevice.prepareForFormatting_aimed installed formatter 0 formatTool)
      fun prepared hprepared => ?_
    obtain ⟨verdict, formatter⟩ := prepared
    cases verdict with
    | error message => exact .ret _
    | ok _ =>
      rw [← hprepared.2]
      refine .seq (formatLinuxPartition_formatting installed _ _ _ _).attempt fun formatted => ?_
      cases formatted with
      | error message => exact .ret _
      | ok _ => exact (LoopDevice.detach_preparing installed formatter).formatting
  · obtain ⟨verdict, formatter⟩ := formatted
    cases verdict with
    | error message =>
      refine .seq (LoopDevice.detach_preparing installed formatter).formatting fun _ => ?_
      refine .seq (Ending.seq (device.flush_preparing installed).formatting fun _ =>
        (device.rereadPartitionTable_preparing installed).formatting).attempt fun reread => ?_
      cases reread with
      | ok _ => exact .fail _
      | error rereadError => exact .call trivial fun _ => .fail _
    | ok _ =>
      refine .seq (reportPlannedStep_preparing installed _ _ _).formatting fun steps => ?_
      refine .seq (device.flush_preparing installed).formatting fun _ => ?_
      refine .seq (device.rereadPartitionTable_preparing installed).formatting fun _ => ?_
      refine .seq device.diskSequence_preparing.formatting fun sequence => ?_
      cases sequence with
      | some diskSequence => exact .ret _
      | none => exact .fail _

/-! ## Finding, unmounting and opening the disk -/

omit [Host] in
theorem executableAmong_total (name : QString) (directories : List QString) :
    (executableAmong name directories : Prog LinuxI ε QString).Total := by
  induction directories with
  | nil => trivial
  | cons directory directories ih =>
    refine Total.call fun info => ?_
    split
    · trivial
    · exact ih

omit [Host] in
theorem firstInstalled_total (names : List QString) :
    (firstInstalled names : Prog LinuxI ε QString).Total := by
  induction names with
  | nil => trivial
  | cons name names ih =>
    refine Total.bind (executableAmong_total _ _) fun tool => ?_
    split
    · trivial
    · exact ih

omit [Host] in
theorem resolveFormatTool_preparing (fileSystem : FileSystemType) :
    Preparing start length (resolveFormatTool installed fileSystem) := by
  refine .seq (preparing_of_lookup (firstInstalled_total _) (firstInstalled_lookup _)) fun tool => ?_
  split
  · exact .fail _
  · exact .ret _

theorem refreshUsbDisk_preparing (deviceId : QString) :
    Preparing start length (refreshUsbDisk installed deviceId) := by
  unfold refreshUsbDisk
  dsimp only
  split
  · exact .fail _
  · refine .call trivial fun present => ?_
    split
    · exact .fail _
    · refine .seq (preparing_of_lookup (isUsbBlockDevice_total _) (isUsbBlockDevice_lookup _))
        fun isUsb => ?_
      split
      · exact .fail _
      · exact preparing_of_lookup (diskInfoFor_total _) (diskInfoFor_lookup _)

omit [Host] in
theorem BlockDevice.close_preparing (device : BlockDevice) :
    Preparing (ε := ε) start length device.close := by
  unfold BlockDevice.close
  split
  · exact .ret _
  · exact .call trivial fun _ => .ret _

theorem BlockDevice.open_preparing (device : BlockDevice) (access : BlockDevice.Access) :
    Preparing (ε := ε) start length (device.open installed access) := by
  unfold BlockDevice.open
  refine .seq device.close_preparing fun device => .call trivial fun answered => ?_
  cases answered with
  | ok fd => exact .ret _
  | error errorNumber =>
    dsimp only
    split <;> split <;> exact .ret _

theorem inspectDevice_preparing (disk : DiskInfo) :
    Preparing start length (inspectDevice installed disk) := by
  refine .seq (BlockDevice.open_preparing installed _ _) fun opened => ?_
  obtain ⟨verdict, inspect⟩ := opened
  cases verdict with
  | error message => exact .fail _
  | ok fd =>
    exact .withCleanup (BlockDevice.verifyIdentity_preparing installed inspect disk)
      (.seq inspect.close_preparing fun _ => .ret _)

/-- Finding the disk comes to an end and maps nothing. -/
theorem identifyDisk_preparing (request : RestoreRequest) :
    Preparing start length (identifyDisk installed request) := by
  unfold identifyDisk
  refine .seq (.ofExcept _) fun _ => .seq (resolveFormatTool_preparing _ _) fun tool => ?_
  refine .seq (reportPlannedStep_preparing installed _ _ _) fun steps => ?_
  refine .seq (refreshUsbDisk_preparing installed _) fun disk => ?_
  refine .seq (.ofExcept _) fun _ => .seq (.ofExcept _) fun _ => .seq (.ofExcept _) fun _ => ?_
  refine .seq (.ofExcept _) fun _ => .seq (reportPlannedStep_preparing installed _ _ _) fun steps => ?_
  exact .seq (inspectDevice_preparing installed disk) fun _ => .ret _

theorem unmountEach_preparing (disk : DiskInfo) (owned : List DeviceNumber)
    (mounts : List MountEntry) :
    Preparing start length (unmountEach installed disk owned mounts) := by
  induction mounts with
  | nil => exact .ret _
  | cons mount mounts ih =>
    unfold unmountEach
    split
    · exact ih
    · split
      · exact .fail _
      · refine .call trivial fun _ => .call trivial fun answered => ?_
        cases answered with
        | ok _ => exact ih
        | error errorNumber =>
          dsimp only
          split
          · exact ih
          · exact .fail _

/-- The unmount comes to an end and maps nothing. -/
theorem unmountDisk_preparing (disk : DiskInfo) :
    Preparing start length (unmountDisk installed disk) :=
  .seq (preparing_of_lookup (fun _ => trivial) readMounts_lookup) fun _ =>
    .seq (preparing_of_lookup (deviceNumbersOnDisk_total _) (deviceNumbersOnDisk_lookup _)) fun _ =>
    unmountEach_preparing installed disk _ _

theorem unmountAgain_preparing (disk : DiskInfo) (attempt : Nat) :
    Preparing start length (unmountAgain installed disk attempt) := by
  unfold unmountAgain
  split
  · exact .ret _
  · exact .call trivial fun _ => .seq (unmountDisk_preparing installed disk) fun _ => .op trivial

/-- The check of the new partition comes to an end and maps nothing. -/
theorem verifyNewPartition_preparing (request : RestoreRequest) (diskName partitionPath : QString)
    (diskSequence : UInt64) (steps : RestoreStepCounter) : Preparing start length
      (verifyNewPartition installed request diskName partitionPath diskSequence steps) := by
  refine .seq (BlockDevice.open_preparing installed _ _) fun opened => ?_
  obtain ⟨verdict, partition⟩ := opened
  cases verdict with
  | error message => exact .fail _
  | ok fd =>
    refine .withCleanup (.seq ?_ fun _ => .seq (reportPlannedStep_preparing installed _ _ _)
      fun _ => .ret _) (.seq partition.close_preparing fun _ => .ret _)
    exact BlockDevice.verifyPartitionOf_preparing installed partition _ _

end

end UsbRestore
