-- SUMMARY: Which calls each function of the Linux backend makes, and that its failures say why.
import UsbRestore.Core.Reasons
import UsbRestore.Linux.Restore

/-!
# Footprints

Facts about the calls of one function and about its failures, whatever the answers. The
cancel checkpoint is the only function that fails with an empty message.
-/

namespace UsbRestore

open Prog

/-- Reading sysfs, `/proc`, `/dev` and the directories of programs. -/
def SysOp.isLookup : SysOp → Bool
  | .readFile _ | .entryList _ _ | .pathExists _ | .canonicalFilePath _ | .fileInfo _ => true
  | _ => false

/-- Lookups, and the questions an identity check puts to a descriptor. -/
def SysOp.isQuery : SysOp → Bool
  | .fstat _ | .blkGetSize64 _ | .blkSszGet _ | .blkGetDiskSeq _ => true
  | o => o.isLookup

/-- What changes the disk: raw writes, and the formatter, the only process the backend starts. -/
def SysOp.isDestructive : SysOp → Bool
  | .pwrite _ _ _ | .startProcess _ _ => true
  | _ => false

/-- The way the backend opens a whole disk for writing. -/
def SysOp.isExclusiveOpen : SysOp → Bool
  | .openNode _ flags => flags = BlockDevice.Access.exclusive.flags
  | _ => false

/-- What gives the process a descriptor or takes one from it. -/
def SysOp.isDescriptorCall : SysOp → Bool
  | .openNode _ _ | .close _ => true
  | _ => false

/-- The first call of an identity check. -/
def SysOp.isIdentityQuery : SysOp → Bool
  | .fstat _ => true
  | _ => false

def SysOp.isUnmapping : SysOp → Bool
  | .loopClrFd _ => true
  | _ => false

/-- What the part of a restore that changes the disk is aimed at. -/
structure Aim where
  /-- The descriptor of the disk. -/
  fd : Fd
  /-- The formatter, and the node that it is to format. -/
  tool : QString
  path : QString
  /-- The only descriptor that may be closed. -/
  claim : Option Fd

namespace LinuxOp

def Lookup : LinuxOp → Prop
  | .sys o => o.isLookup = true
  | .reporter _ => False

def Query : LinuxOp → Prop
  | .sys o => o.isQuery = true
  | .reporter _ => False

/-- No step and no change to the disk. -/
def Silent : LinuxOp → Prop
  | .sys o => o.isDestructive = false
  | .reporter (.step _ _) => False
  | .reporter _ => True

/-- Silent, and no exclusive open. -/
def Quiet : LinuxOp → Prop
  | .sys o => o.isDestructive = false ∧ o.isExclusiveOpen = false
  | .reporter (.step _ _) => False
  | .reporter _ => True

/-- Silent, and no descriptor is opened or closed. -/
def Idle : LinuxOp → Prop
  | .sys o => o.isDestructive = false ∧ o.isDescriptorCall = false
  | .reporter (.step _ _) => False
  | .reporter _ => True

/-- No step, no open, and the identity check and the mapping remain the latest of their kind.
Changes go to the descriptor, or to the formatter with the node as its last argument, which is
where each of the formatters takes the device. -/
def Aimed (aim : Aim) : LinuxOp → Prop
  | .sys (.pwrite target _ _) => target = aim.fd
  | .sys (.startProcess program arguments) =>
    program = aim.tool ∧ arguments.getLast? = some aim.path
  | .sys (.close target) => aim.claim = some target
  | .sys o => o.isDescriptorCall = false ∧ o.isIdentityQuery = false ∧ o.isUnmapping = false
  | .reporter (.step _ _) => False
  | .reporter _ => True

theorem Lookup.query {o : LinuxOp} (h : o.Lookup) : o.Query := by
  cases o with
  | sys o => cases o <;> first | rfl | exact h
  | reporter o => cases h

theorem Query.idle {o : LinuxOp} (h : o.Query) : o.Idle := by
  cases o with
  | sys o => cases o <;> first | exact ⟨rfl, rfl⟩ | exact absurd h Bool.false_ne_true
  | reporter o => cases h

theorem Idle.quiet {o : LinuxOp} (h : o.Idle) : o.Quiet := by
  cases o with
  | sys o => cases o <;> first | exact ⟨h.1, rfl⟩ | exact absurd h.2.symm Bool.false_ne_true
  | reporter o => cases o <;> exact h

theorem Query.quiet {o : LinuxOp} (h : o.Query) : o.Quiet := h.idle.quiet

theorem Quiet.silent {o : LinuxOp} (h : o.Quiet) : o.Silent := by
  cases o with
  | sys o => exact h.1
  | reporter o => cases o <;> exact h

end LinuxOp

/-- A failure that says why. -/
def Explained {α : Type} : Except RestoreMessage α → Prop
  | .ok _ => True
  | .error message => message.english ≠ []

theorem Explained.of_returns {α : Type} {r : Except RestoreMessage α} (h : Returns r) :
    Explained r := by
  obtain ⟨a, rfl⟩ := h
  trivial

section Rules

variable {α β : Type} {P : LinuxOp → Prop} {p : Prog LinuxI RestoreMessage α}
  {f : α → Prog LinuxI RestoreMessage β}

/-- Sequencing where either half may fail with a message. -/
theorem Prog.Satisfies.explained (h : p.Satisfies P Explained)
    (hf : ∀ a, (f a).Satisfies P Explained) : (p >>= f).Satisfies P Explained :=
  .bind h (fun a _ => hf a) (fun _ he => he)

theorem Prog.Satisfies.query {ε : Type} {p : Prog LinuxI ε α} {Q : Except ε α → Prop}
    (h : p.Satisfies LinuxOp.Lookup Q) : p.Satisfies LinuxOp.Query Q :=
  h.mono (fun _ => LinuxOp.Lookup.query) (fun _ hQ => hQ)

/-- Calls that do not so much as open a descriptor leave the disk alone. -/
theorem Prog.Satisfies.quietly {ε : Type} {p : Prog LinuxI ε α} {Q : Except ε α → Prop}
    (h : p.Satisfies LinuxOp.Idle Q) : p.Satisfies LinuxOp.Quiet Q :=
  h.mono (fun _ => LinuxOp.Idle.quiet) (fun _ hQ => hQ)

theorem Prog.Satisfies.quiet {ε : Type} {p : Prog LinuxI ε α} {Q : Except ε α → Prop}
    (h : p.Satisfies LinuxOp.Query Q) : p.Satisfies LinuxOp.Quiet Q :=
  h.mono (fun _ => LinuxOp.Query.quiet) (fun _ hQ => hQ)

/-- Calls that leave the disk alone report no step and ask for no cancellation. -/
theorem Prog.Satisfies.silent {ε : Type} {p : Prog LinuxI ε α} {Q : Except ε α → Prop}
    (h : p.Satisfies LinuxOp.Quiet Q) : p.Satisfies LinuxOp.Silent Q :=
  h.mono (fun _ => LinuxOp.Quiet.silent) (fun _ hQ => hQ)

theorem Prog.Satisfies.fail {message : RestoreMessage} (h : message.english ≠ []) :
    (Prog.fail message : Prog LinuxI RestoreMessage α).Satisfies P Explained :=
  h

end Rules

/-! ## Messages -/

-- A literal is long for the elaborator, which compares it with its list of characters.
set_option maxRecDepth 10000

section

variable {installed : Catalog} {characters : List Char}

/-- Every refusal of a device has a text of its own. -/
theorem BlockDevice.refusal_ne_nil {device : BlockDevice} (h : ' ' ∈ characters) :
    (device.refusal installed (QStringLiteral (String.ofList characters))).english ≠ [] :=
  restoreText_arg_ne_nil h

end

/-- An error of a device call is always explained. -/
theorem deviceErrorMessage_ne_nil [Host] {installed : Catalog} {context : RestoreMessage}
    {errorNumber : Errno} : (deviceErrorMessage installed context errorNumber).english ≠ [] :=
  restoreText_arg_ne_nil (by decide)

theorem loopErrorMessage_ne_nil [Host] {installed : Catalog} {operation advice : RestoreMessage}
    {errorNumber : Errno} :
    (loopErrorMessage installed operation errorNumber advice).english ≠ [] :=
  restoreText_arg_ne_nil (by decide)

/-! ## Verdicts of the core -/

/-- A target that is refused is refused with a reason. -/
theorem isSafeRestoreTarget_hasReason [Host] (disk : DiskInfo) (guard : RestoreGuard) :
    HasReason (isSafeRestoreTarget disk guard .english) := by
  refine .unless_text (by decide) ?_
  iterate 10 refine .unless_arg (by decide) ?_
  exact .ok

theorem isSameDeviceSequence_hasReason (device : QString) (expected current : Option UInt64) :
    HasReason (isSameDeviceSequence device expected current .english) := by
  have hrefuse : HasReason (isSameDeviceSequence.refuse device .english) := .arg (by decide)
  unfold isSameDeviceSequence
  split
  · exact .ite .ok hrefuse
  · exact hrefuse

/-- A selection that no longer fits is refused with a reason. -/
theorem isSameRestoreTarget_hasReason [Host] (selected current : DiskInfo) :
    HasReason (isSameRestoreTarget selected current .english) := by
  iterate 8 refine .unless_arg (by decide) ?_
  exact .ok

theorem canCreatePartitionLayout_hasReason (style : PartitionStyle) (disk : DiskInfo) :
    HasReason (canCreatePartitionLayout style disk .english) := by
  simp only [canCreatePartitionLayout]
  split
  · exact .ok
  · next hne => exact .error (by simpa using hne)

/-- A request that the gate refuses is refused with a reason. -/
theorem isWritablePartitionRequest_hasReason (request : PartitionTableRequest) :
    HasReason (isWritablePartitionRequest request .english) := by
  simp only [isWritablePartitionRequest]
  split
  · next hne => exact .error (by simpa using hne)
  · refine .unless_text (by decide) (.unless_text (by decide) (.ite ?_ ?_))
    · iterate 3 refine .unless_text (by decide) ?_
      exact .ok
    · exact .unless_text (by decide) .ok

/-- A check of the core, made into a message, fails only with a text. -/
theorem satisfies_checkRestoreError {P : LinuxOp → Prop} {installed : Catalog}
    {check : TextMode → Except QString Unit} (h : HasReason (check .english)) :
    (Prog.ofExcept (checkRestoreError installed check) :
      Prog LinuxI RestoreMessage Unit).Satisfies P Explained := by
  refine .ofExcept ?_
  cases hr : checkRestoreError installed check with
  | ok _ => trivial
  | error message => exact h _ (checkRestoreError_error hr)

/-- A filesystem that cannot be created on a disk is refused with a text. -/
theorem canCreateFileSystemOn_explained [Host] (installed : Catalog) (fileSystem : FileSystemType)
    (disk : DiskInfo) : Explained (canCreateFileSystemOn installed fileSystem disk) := by
  unfold canCreateFileSystemOn
  split
  · trivial
  · trivial
  · trivial
  · simp only
    split_ifs
    · exact restoreText_arg_ne_nil (by decide)
    · exact restoreText_arg_ne_nil (by decide)
    · exact restoreText_arg_ne_nil (by decide)
    · trivial

/-! ## Reading sysfs -/

section Lookups

variable {ε : Type}

theorem readSysfsAttribute_lookup (path : QString) :
    (readSysfsAttribute path : Prog LinuxI ε QString).Satisfies LinuxOp.Lookup Returns :=
  .call rfl fun _ => .returns _

theorem keepPartitions_lookup (dir : QString) (entries : List QString) :
    (keepPartitions dir entries : Prog LinuxI ε (List QString)).Satisfies
      LinuxOp.Lookup Returns := by
  induction entries with
  | nil => exact .returns _
  | cons entry entries ih => exact .call rfl fun _ => .seq ih fun _ => .returns _

theorem listPartitionNames_lookup (diskName : QString) :
    (listPartitionNames diskName : Prog LinuxI ε (List QString)).Satisfies
      LinuxOp.Lookup Returns :=
  .call rfl fun _ => .seq (keepPartitions_lookup _ _) fun _ => .returns _

theorem readDeviceNumber_lookup (path : QString) :
    (readDeviceNumber path : Prog LinuxI ε DeviceNumber).Satisfies LinuxOp.Lookup Returns :=
  .seq (readSysfsAttribute_lookup _) fun _ => .returns _

theorem readPartitionNumbers_lookup (diskName : QString) (partitions : List QString) :
    (readPartitionNumbers diskName partitions : Prog LinuxI ε (List DeviceNumber)).Satisfies
      LinuxOp.Lookup Returns := by
  induction partitions with
  | nil => exact .returns _
  | cons partition partitions ih =>
    exact .seq (readDeviceNumber_lookup _) fun _ => .seq ih fun _ => .returns _

theorem deviceNumbersOnDisk_lookup (diskName : QString) :
    (deviceNumbersOnDisk diskName : Prog LinuxI ε (List DeviceNumber)).Satisfies
      LinuxOp.Lookup Returns :=
  .seq (readDeviceNumber_lookup _) fun _ => .seq (listPartitionNames_lookup _) fun _ =>
    .seq (readPartitionNumbers_lookup _ _) fun _ => .returns _

theorem readMounts_lookup :
    (readMounts : Prog LinuxI ε (List MountEntry)).Satisfies LinuxOp.Lookup Returns :=
  .call rfl fun _ => .returns _

theorem isUsbBlockDevice_lookup (diskName : QString) :
    (isUsbBlockDevice diskName : Prog LinuxI ε Bool).Satisfies LinuxOp.Lookup Returns := by
  refine .call rfl fun resolved => ?_
  split
  · exact .returns _
  · exact .returns _

theorem linkAmong_lookup (directory target preferredPrefix fallback : QString)
    (entries : List QString) :
    (linkAmong directory target preferredPrefix fallback entries : Prog LinuxI ε QString).Satisfies
      LinuxOp.Lookup Returns := by
  induction entries generalizing fallback with
  | nil => exact .returns _
  | cons entry entries ih =>
    unfold linkAmong
    simp only
    split
    · exact ih _
    · refine .call rfl fun resolved => ?_
      split
      · exact ih _
      · split
        · exact .returns _
        · exact ih _

theorem stableDeviceIdLink_lookup (diskName : QString) :
    (stableDeviceIdLink diskName : Prog LinuxI ε QString).Satisfies LinuxOp.Lookup Returns := by
  refine .call rfl fun present => ?_
  split
  · exact .returns _
  · exact .call rfl fun _ => linkAmong_lookup _ _ _ _ _

/-- The enumeration of a disk only looks things up. -/
theorem diskInfoFor_lookup [Host] (diskName : QString) :
    (diskInfoFor diskName : Prog LinuxI ε DiskInfo).Satisfies LinuxOp.Lookup Returns :=
  .seq readMounts_lookup fun _ => .seq (isUsbBlockDevice_lookup _) fun _ =>
    .seq (readSysfsAttribute_lookup _) fun _ => .seq (readSysfsAttribute_lookup _) fun _ =>
    .seq (stableDeviceIdLink_lookup _) fun _ => .call rfl fun _ =>
    .seq (readSysfsAttribute_lookup _) fun _ => .seq (readSysfsAttribute_lookup _) fun _ =>
    .seq (readSysfsAttribute_lookup _) fun _ => .seq (readSysfsAttribute_lookup _) fun _ =>
    .seq (deviceNumbersOnDisk_lookup _) fun _ => .returns _

theorem executableAmong_lookup (name : QString) (directories : List QString) :
    (executableAmong name directories : Prog LinuxI ε QString).Satisfies
      LinuxOp.Lookup Returns := by
  induction directories with
  | nil => exact .returns _
  | cons directory directories ih =>
    refine .call rfl fun info => ?_
    split
    · exact .returns _
    · exact ih

theorem firstInstalled_lookup (names : List QString) :
    (firstInstalled names : Prog LinuxI ε QString).Satisfies LinuxOp.Lookup Returns := by
  induction names with
  | nil => exact .returns _
  | cons name names ih =>
    refine .seq (executableAmong_lookup _ _) fun tool => ?_
    split
    · exact .returns _
    · exact ih

theorem parentAmong_lookup (partitionName : QString) (disks : List QString) :
    (parentAmong partitionName disks : Prog LinuxI ε QString).Satisfies
      LinuxOp.Lookup Returns := by
  induction disks with
  | nil => exact .returns _
  | cons disk disks ih =>
    unfold parentAmong
    split
    · exact ih
    · refine .call rfl fun present => ?_
      split
      · exact .returns _
      · exact ih

theorem protectedDeviceIds_lookup [Host] (found : List QString) (mounts : List MountEntry) :
    (protectedDeviceIds found mounts : Prog LinuxI ε (List QString)).Satisfies
      LinuxOp.Lookup Returns := by
  induction mounts generalizing found with
  | nil => exact .returns _
  | cons mount mounts ih =>
    unfold protectedDeviceIds
    split
    · exact ih _
    · split
      · exact ih _
      · exact .seq (.call rfl fun _ => parentAmong_lookup _ _) fun _ => ih _

/-- What the running system needs is found out by looking things up. -/
theorem linuxRestoreGuard_lookup [Host] :
    (linuxRestoreGuard : Prog LinuxI ε RestoreGuard).Satisfies LinuxOp.Lookup Returns :=
  .seq readMounts_lookup fun _ => .seq (protectedDeviceIds_lookup _ _) fun _ => .returns _

end Lookups

/-- Finding the disk again only looks things up, and a failure is explained. -/
theorem refreshUsbDisk_lookup [Host] (installed : Catalog) (deviceId : QString) :
    (refreshUsbDisk installed deviceId).Satisfies LinuxOp.Lookup Explained := by
  unfold refreshUsbDisk
  simp only
  split
  · exact .fail (restoreText_arg_ne_nil (by decide))
  · refine .call rfl fun present => ?_
    split
    · exact .fail (restoreText_arg_ne_nil (by decide))
    · refine .seq (isUsbBlockDevice_lookup _) fun isUsb => ?_
      split
      · exact .fail (restoreText_arg_ne_nil (by decide))
      · exact (diskInfoFor_lookup _).mono (fun _ h => h) (fun _ => Explained.of_returns)

/-- The format tool is looked up, and a missing one is explained. -/
theorem resolveFormatTool_lookup (installed : Catalog) (fileSystem : FileSystemType) :
    (resolveFormatTool installed fileSystem).Satisfies LinuxOp.Lookup Explained := by
  refine .seq (firstInstalled_lookup _) fun tool => ?_
  split
  · cases fileSystem <;> exact .fail (restoreText_ne_nil (by decide))
  · trivial

/-! ## The open device -/

namespace BlockDevice

variable (installed : Catalog) (device : BlockDevice) {ε : Type}

theorem close_quiet :
    (device.close : Prog LinuxI ε BlockDevice).Satisfies LinuxOp.Quiet Returns := by
  unfold close
  split
  · exact .returns _
  · exact .call ⟨rfl, rfl⟩ fun _ => .returns _

theorem sizeInBytes_query :
    (device.sizeInBytes : Prog LinuxI ε UInt64).Satisfies LinuxOp.Query Returns := by
  unfold sizeInBytes
  split
  · exact .returns _
  · refine .call rfl fun answered => ?_
    cases answered <;> exact .returns _

theorem logicalSectorSize_query :
    (device.logicalSectorSize : Prog LinuxI ε UInt32).Satisfies LinuxOp.Query Returns := by
  unfold logicalSectorSize
  split
  · exact .returns _
  · refine .call rfl fun answered => ?_
    cases answered <;> exact .returns _

theorem diskSequence_query :
    (device.diskSequence : Prog LinuxI ε (Option UInt64)).Satisfies LinuxOp.Query Returns := by
  unfold diskSequence
  split
  · exact .returns _
  · refine .call rfl fun answered => ?_
    cases answered <;> exact .returns _

theorem blockDeviceNumber_query [Host] (fd : Fd) :
    (device.blockDeviceNumber installed fd).Satisfies LinuxOp.Query Explained := by
  refine .call rfl fun answered => ?_
  cases answered with
  | error errorNumber => exact .fail deviceErrorMessage_ne_nil
  | ok status =>
    dsimp only
    split
    · exact .fail (refusal_ne_nil (by decide))
    · trivial

theorem verifySequence_query (expected : DiskInfo) :
    (device.verifySequence installed expected).Satisfies LinuxOp.Query Explained := by
  unfold verifySequence
  dsimp only
  split
  · exact .fail (refusal_ne_nil (by decide))
  · refine .seq (diskSequence_query device) fun sequence => ?_
    cases sequence with
    | none => exact .fail (refusal_ne_nil (by decide))
    | some sequence => exact satisfies_checkRestoreError (isSameDeviceSequence_hasReason _ _ _)

theorem verifyGeometry_query [Host] (expected : DiskInfo) :
    (device.verifyGeometry installed expected).Satisfies LinuxOp.Query Explained := by
  refine .seq (sizeInBytes_query device) fun reportedSize => ?_
  split
  · exact .fail (refusal_ne_nil (by decide))
  · split
    · exact .fail (restoreText_arg_ne_nil (by decide))
    · refine .seq (logicalSectorSize_query device) fun reportedSector => ?_
      split
      · exact .fail (restoreText_arg_ne_nil (by decide))
      · trivial

/-- The identity check asks about the descriptor it was given and changes nothing. -/
theorem verifyIdentity_query [Host] (expected : DiskInfo) :
    (device.verifyIdentity installed expected).Satisfies LinuxOp.Query Explained := by
  unfold verifyIdentity
  split
  · exact .fail (refusal_ne_nil (by decide))
  · refine .explained (blockDeviceNumber_query installed device _) fun actual => ?_
    refine .explained (verifySequence_query installed device expected) fun _ => ?_
    refine .seq (readDeviceNumber_lookup _).query fun expectedNumber => ?_
    split
    · exact .fail (refusal_ne_nil (by decide))
    · split
      · exact .fail (refusal_ne_nil (by decide))
      · refine .explained (verifyGeometry_query installed device expected) fun _ => ?_
        refine .seq (readSysfsAttribute_lookup _).query fun readOnly => ?_
        split
        · exact .fail (refusal_ne_nil (by decide))
        · refine .seq (isUsbBlockDevice_lookup _).query fun isUsb => ?_
          split
          · exact .fail (refusal_ne_nil (by decide))
          · refine .seq (diskInfoFor_lookup _).query fun current => ?_
            exact satisfies_checkRestoreError (isSameRestoreTarget_hasReason _ _)

/-- Whose partition a node is gets asked of the node, and nothing is changed. -/
theorem verifyPartitionOf_query [Host] (diskName : QString) (expectedSequence : Option UInt64) :
    (device.verifyPartitionOf installed diskName expectedSequence).Satisfies
      LinuxOp.Query Explained := by
  unfold verifyPartitionOf
  split
  · exact .fail (refusal_ne_nil (by decide))
  · refine .explained (blockDeviceNumber_query installed device _) fun actual => ?_
    refine .seq (readDeviceNumber_lookup _).query fun expectedNumber => ?_
    split
    · exact .fail (restoreText_arg_ne_nil (by decide))
    · split
      · trivial
      · refine .seq (diskSequence_query device) fun sequence => ?_
        split
        · trivial
        · exact .fail (refusal_ne_nil (by decide))

/-- An open returns the object, holding the descriptor or with the reason why not. -/
def Opened : Except ε (Except RestoreMessage Fd × BlockDevice) → Prop
  | .ok (verdict, opened) =>
    Explained verdict ∧ opened.devicePath = device.devicePath ∧
      ∀ fd, verdict = .ok fd → opened.fd = some fd
  | .error _ => False

/-- Opening a device makes one call that is no query: the open of its own path. -/
theorem open_silent [Host] (access : Access) (hclosed : device.fd = none) :
    (device.open installed access : Prog LinuxI ε _).Satisfies
      (fun o : LinuxOp => o.Silent ∧ ∀ path flags, o = .sys (.openNode path flags) → flags = access.flags)
      device.Opened := by
  unfold «open» close
  rw [hclosed]
  refine .call ⟨rfl, fun _ _ h => by cases h; rfl⟩ fun answered => ?_
  cases answered with
  | ok fd => exact ⟨trivial, rfl, fun _ h => by cases h; rfl⟩
  | error errorNumber =>
    dsimp only
    split <;> split
    · exact ⟨refusal_ne_nil (by decide), rfl, fun _ h => nomatch h⟩
    · exact ⟨deviceErrorMessage_ne_nil, rfl, fun _ h => nomatch h⟩
    · exact ⟨refusal_ne_nil (by decide), rfl, fun _ h => nomatch h⟩
    · exact ⟨deviceErrorMessage_ne_nil, rfl, fun _ h => nomatch h⟩

/-! ## Writes -/

theorem writeFrom_aimed [Host] (aim : Aim) (offset : UInt64) (data : QByteArray)
    (fuel : LoopFuel) (written : Nat) :
    (device.writeFrom installed aim.fd offset data fuel written).Satisfies
      (LinuxOp.Aimed aim) Explained := by
  induction fuel generalizing written with
  | zero => trivial
  | succ fuel ih =>
    unfold writeFrom
    split
    · trivial
    · refine .call rfl fun answered => ?_
      cases answered with
      | error errorNumber =>
        dsimp only
        split
        · exact ih _
        · exact .fail deviceErrorMessage_ne_nil
      | ok count =>
        cases count with
        | zero => exact .fail (refusal_ne_nil (by decide))
        | succ count => exact ih _

variable {device} in
/-- All that is written goes to the descriptor that was aimed at. -/
theorem writeAt_aimed [Host] {aim : Aim} (hfd : device.fd = some aim.fd)
    (fuel : LoopFuel) (offset : UInt64) (data : QByteArray) :
    (device.writeAt installed fuel offset data).Satisfies (LinuxOp.Aimed aim) Explained := by
  unfold writeAt
  rw [hfd]
  exact writeFrom_aimed installed device aim offset data fuel 0

variable {device} in
theorem writeZerosFrom_aimed [Host] {aim : Aim} (hfd : device.fd = some aim.fd)
    (fuel : LoopFuel) (zeros : QByteArray) (rounds : LoopFuel) (cursor remaining : UInt64) :
    (device.writeZerosFrom installed fuel zeros rounds cursor remaining).Satisfies
      (LinuxOp.Aimed aim) Explained := by
  induction rounds generalizing cursor remaining with
  | zero => trivial
  | succ rounds ih =>
    unfold writeZerosFrom
    split
    · trivial
    · exact .explained (writeAt_aimed installed hfd _ _ _) fun _ => ih _ _

variable {device} in
/-- All that is zeroed goes to the descriptor that was aimed at. -/
theorem writeZeros_aimed [Host] {aim : Aim} (hfd : device.fd = some aim.fd)
    (fuel : LoopFuel) (offset bytes : UInt64) (sectorSize : UInt32) :
    (device.writeZeros installed fuel offset bytes sectorSize).Satisfies
      (LinuxOp.Aimed aim) Explained := by
  unfold writeZeros
  split
  · trivial
  · dsimp only
    split
    · next hne => exact .fail (by simpa using hne)
    · exact writeZerosFrom_aimed installed hfd _ _ _ _ _

variable {device} in
/-- A flush touches the descriptor that was aimed at and no other. -/
theorem flush_aimed [Host] {aim : Aim} (hfd : device.fd = some aim.fd) :
    (device.flush installed).Satisfies (LinuxOp.Aimed aim) Explained := by
  unfold flush
  rw [hfd]
  refine .call ⟨rfl, rfl, rfl⟩ fun answered => ?_
  cases answered with
  | error errorNumber => exact .fail deviceErrorMessage_ne_nil
  | ok _ => exact .call ⟨rfl, rfl, rfl⟩ fun _ => trivial

theorem flush_quiet [Host] :
    (device.flush installed).Satisfies LinuxOp.Quiet Explained := by
  unfold flush
  split
  · trivial
  · refine .call ⟨rfl, rfl⟩ fun answered => ?_
    cases answered with
    | error errorNumber => exact .fail deviceErrorMessage_ne_nil
    | ok _ => exact .call ⟨rfl, rfl⟩ fun _ => trivial

theorem rereadPartitionTable_quiet [Host] :
    (device.rereadPartitionTable installed).Satisfies LinuxOp.Quiet Explained := by
  unfold rereadPartitionTable
  split
  · exact .fail (refusal_ne_nil (by decide))
  · refine .call ⟨rfl, rfl⟩ fun answered => ?_
    cases answered with
    | error errorNumber => exact .fail deviceErrorMessage_ne_nil
    | ok _ => trivial

end BlockDevice

end UsbRestore
