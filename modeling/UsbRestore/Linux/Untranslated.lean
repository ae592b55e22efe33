-- SUMMARY: A Linux restore makes the same calls whatever catalog is installed.
import UsbRestore.Base.Alike
import UsbRestore.Linux.Restore

/-!
# The backend under two catalogs

No call and no decision of the backend reads the display half of a message. Run under two catalogs,
it makes the same calls, up to that half of the messages of its steps, and fails with messages that
say the same in English.
-/

namespace UsbRestore

open Prog

variable {α β γ : Type}

/-! ## The likeness -/

/-- Calls that differ in the display half of a step's message at most. -/
inductive SameInEnglish : LinuxOp → LinuxOp → Prop where
  | refl (o : LinuxOp) : SameInEnglish o o
  | step (planned : RestoreStep) {message message' : RestoreMessage}
    (h : message.english = message'.english) :
    SameInEnglish (.reporter (.step planned message)) (.reporter (.step planned message'))

/-- Messages with one English half. -/
def SameText (message message' : RestoreMessage) : Prop := message.english = message'.english

/-- Verdicts that agree, and explain a refusal alike in English. -/
abbrev SameVerdict : Except RestoreMessage α → Except RestoreMessage α → Prop :=
  Outcomes SameText (· = ·)

/-- Programs of the backend that are alike in English. -/
abbrev InEnglish (V : α → β → Prop) (p : Prog LinuxI RestoreMessage α)
    (q : Prog LinuxI RestoreMessage β) : Prop :=
  Alike (I := LinuxI) (fun _ => true) SameInEnglish (Outcomes SameText V) p q

theorem SameVerdict.refl (x : Except RestoreMessage α) : SameVerdict x x := by
  cases x with
  | ok a => exact .ok rfl
  | error message => exact .error rfl

namespace InEnglish

/-- A program that does not depend on the catalog is like itself. -/
theorem same (p : Prog LinuxI RestoreMessage α) : InEnglish (· = ·) p p :=
  Alike.self (Satisfies.trivial p) (fun o _ => .refl o) fun x _ => SameVerdict.refl x

/-- What both do before they differ. -/
theorem after {V : β → γ → Prop} (p : Prog LinuxI RestoreMessage α)
    {f : α → Prog LinuxI RestoreMessage β} {g : α → Prog LinuxI RestoreMessage γ}
    (h : ∀ a, InEnglish V (f a) (g a)) : InEnglish V (p >>= f) (p >>= g) := by
  refine Alike.bind (same p) ?_
  rintro a _ rfl
  exact h a

/-- What differs in the display half alone, and what both do after it. -/
theorem andThen {V : β → γ → Prop} {p q : Prog LinuxI RestoreMessage α}
    {f : α → Prog LinuxI RestoreMessage β} {g : α → Prog LinuxI RestoreMessage γ}
    (hp : InEnglish (· = ·) p q) (h : ∀ a, InEnglish V (f a) (g a)) :
    InEnglish V (p >>= f) (q >>= g) := by
  refine Alike.bind hp ?_
  rintro a _ rfl
  exact h a

/-- Verdicts that say the same in English are alike. -/
theorem verdict {x y : Except RestoreMessage α} (h : SameVerdict x y) :
    InEnglish (· = ·) (ofExcept x) (ofExcept y) :=
  .done x y h

theorem ret {V : α → β → Prop} {a : α} {b : β} (h : V a b) :
    InEnglish V (.ret a) (.ret b) :=
  Alike.ret h

theorem fail {V : α → β → Prop} {message message' : RestoreMessage}
    (h : SameText message message') : InEnglish V (.fail message) (.fail message') :=
  Alike.fail h

end InEnglish

open InEnglish

section Catalogs

variable {c d : Catalog}

/-- A check of the core says the same in English under every catalog. -/
theorem checkRestoreError_sameVerdict (check : TextMode → Except QString Unit) :
    SameVerdict (checkRestoreError c check) (checkRestoreError d check) := by
  unfold checkRestoreError
  cases check .english with
  | ok _ => exact .ok rfl
  | error english => exact .error rfl

theorem check_inEnglish (check : TextMode → Except QString Unit) :
    InEnglish (· = ·) (ofExcept (checkRestoreError c check))
      (ofExcept (checkRestoreError d check)) :=
  verdict (checkRestoreError_sameVerdict check)

theorem reportPlannedStep_inEnglish (counter : RestoreStepCounter) (step : RestoreStep)
    (request : RestoreRequest) :
    InEnglish (· = ·) (reportPlannedStep c counter step request)
      (reportPlannedStep d counter step request) := by
  have htext : SameText (restoreStepMessage c step request.style request.fileSystem)
      (restoreStepMessage d step request.style request.fileSystem) := by
    cases step <;> rfl
  have hstep : ∀ next : RestoreStepCounter, InEnglish (· = ·)
      (Reporter.step step (restoreStepMessage c step request.style request.fileSystem) >>=
        fun _ => pure next)
      (Reporter.step step (restoreStepMessage d step request.style request.fileSystem) >>=
        fun _ => pure next) :=
    fun next => Alike.call (.step step htext) fun _ _ _ => ret rfl
  unfold reportPlannedStep
  dsimp only
  rw [← show (restoreStepMessage c step request.style request.fileSystem).english =
    (restoreStepMessage d step request.style request.fileSystem).english from htext]
  split_ifs
  · exact after _ fun _ => hstep _
  · exact hstep _

/-! ## The block device -/

variable [Host]

theorem deviceErrorMessage_sameText {message message' : RestoreMessage}
    (h : SameText message message') (errorNumber : Errno) :
    SameText (deviceErrorMessage c message errorNumber)
      (deviceErrorMessage d message' errorNumber) := by
  unfold SameText at h ⊢
  unfold deviceErrorMessage
  dsimp only
  split_ifs
  all_goals
    rw [english_arg, english_arg]
    simp only [List.map_cons, english_restoreText, h]

namespace BlockDevice

variable (device : BlockDevice)

theorem open_inEnglish (access : Access) :
    InEnglish (fun x y => SameVerdict x.1 y.1 ∧ x.2 = y.2) (device.open c access)
      (device.open d access) := by
  unfold «open»
  refine after _ fun device => Alike.op (.refl _) fun opened => ?_
  cases opened with
  | ok fd => exact ret ⟨.ok rfl, rfl⟩
  | error errorNumber =>
    dsimp only
    split_ifs
    · exact ret ⟨.error rfl, rfl⟩
    · exact ret ⟨.error (deviceErrorMessage_sameText rfl _), rfl⟩

theorem blockDeviceNumber_inEnglish (fd : Fd) :
    InEnglish (· = ·) (device.blockDeviceNumber c fd) (device.blockDeviceNumber d fd) := by
  unfold blockDeviceNumber
  refine Alike.op (.refl _) fun status => ?_
  cases status with
  | error errorNumber => exact fail (deviceErrorMessage_sameText rfl _)
  | ok status =>
    dsimp only
    split_ifs
    · exact fail rfl
    · exact ret rfl

omit [Host] in
theorem verifySequence_inEnglish (expected : DiskInfo) :
    InEnglish (· = ·) (device.verifySequence c expected) (device.verifySequence d expected) := by
  unfold verifySequence
  dsimp only
  split_ifs
  · exact fail rfl
  refine after _ fun sequence => ?_
  cases sequence with
  | none => exact fail rfl
  | some sequence => exact check_inEnglish _

theorem verifyGeometry_inEnglish (expected : DiskInfo) :
    InEnglish (· = ·) (device.verifyGeometry c expected) (device.verifyGeometry d expected) := by
  unfold verifyGeometry
  refine after _ fun reportedSize => ?_
  split_ifs
  · exact fail rfl
  · exact fail rfl
  refine after _ fun reportedSector => ?_
  split_ifs
  · exact fail rfl
  · exact ret rfl

/-- The identity check asks and answers alike under every catalog. -/
theorem verifyIdentity_inEnglish (expected : DiskInfo) :
    InEnglish (· = ·) (device.verifyIdentity c expected) (device.verifyIdentity d expected) := by
  unfold verifyIdentity
  cases device.fd with
  | none => exact fail rfl
  | some fd =>
    refine andThen (blockDeviceNumber_inEnglish device fd) fun actual => ?_
    refine andThen (verifySequence_inEnglish device expected) fun _ => ?_
    refine after _ fun expectedNumber => ?_
    split_ifs
    · exact fail rfl
    · exact fail rfl
    refine andThen (verifyGeometry_inEnglish device expected) fun _ => ?_
    refine after _ fun readOnly => ?_
    split_ifs
    · exact fail rfl
    refine after _ fun isUsb => ?_
    split_ifs
    · exact fail rfl
    exact after _ fun current => check_inEnglish _

theorem verifyPartitionOf_inEnglish (diskName : QString) (expectedSequence : Option UInt64) :
    InEnglish (· = ·) (device.verifyPartitionOf c diskName expectedSequence)
      (device.verifyPartitionOf d diskName expectedSequence) := by
  unfold verifyPartitionOf
  cases device.fd with
  | none => exact fail rfl
  | some fd =>
    refine andThen (blockDeviceNumber_inEnglish device fd) fun actual => ?_
    refine after _ fun expectedNumber => ?_
    split_ifs
    · exact fail rfl
    cases expectedSequence with
    | none => exact ret rfl
    | some sequence =>
      refine after _ fun current => ?_
      split_ifs
      · exact ret rfl
      · exact fail rfl

theorem writeFrom_inEnglish (fd : Fd) (offset : UInt64) (data : QByteArray) (fuel : LoopFuel)
    (written : Nat) :
    InEnglish (· = ·) (device.writeFrom c fd offset data fuel written)
      (device.writeFrom d fd offset data fuel written) := by
  induction fuel generalizing written with
  | zero => exact Alike.spin
  | succ fuel ih =>
    unfold writeFrom
    split_ifs
    · exact ret rfl
    refine Alike.op (.refl _) fun answer => ?_
    match answer with
    | .error errorNumber =>
      dsimp only
      split_ifs
      · exact ih written
      · exact fail (deviceErrorMessage_sameText rfl _)
    | .ok 0 => exact fail rfl
    | .ok (count + 1) => exact ih (written + (count + 1))

/-- A write is made alike under every catalog. -/
theorem writeAt_inEnglish (fuel : LoopFuel) (offset : UInt64) (data : QByteArray) :
    InEnglish (· = ·) (device.writeAt c fuel offset data) (device.writeAt d fuel offset data) := by
  unfold writeAt
  cases device.fd with
  | none => exact fail rfl
  | some fd => exact writeFrom_inEnglish device fd offset data fuel 0

theorem writeZerosFrom_inEnglish (fuel : LoopFuel) (zeros : QByteArray) (rounds : LoopFuel)
    (cursor remaining : UInt64) :
    InEnglish (· = ·) (device.writeZerosFrom c fuel zeros rounds cursor remaining)
      (device.writeZerosFrom d fuel zeros rounds cursor remaining) := by
  induction rounds generalizing cursor remaining with
  | zero => exact Alike.spin
  | succ rounds ih =>
    unfold writeZerosFrom
    split_ifs
    · exact ret rfl
    · exact andThen (writeAt_inEnglish device fuel cursor _) fun _ => ih _ _
    · exact andThen (writeAt_inEnglish device fuel cursor _) fun _ => ih _ _

theorem writeZeros_inEnglish (fuel : LoopFuel) (offset bytes : UInt64) (sectorSize : UInt32) :
    InEnglish (· = ·) (device.writeZeros c fuel offset bytes sectorSize)
      (device.writeZeros d fuel offset bytes sectorSize) := by
  unfold writeZeros
  dsimp only
  split_ifs
  · exact ret rfl
  · exact fail rfl
  · exact writeZerosFrom_inEnglish device fuel _ fuel offset bytes

theorem flush_inEnglish : InEnglish (· = ·) (device.flush c) (device.flush d) := by
  unfold flush
  cases device.fd with
  | none => exact ret rfl
  | some fd =>
    refine Alike.op (.refl _) fun synced => ?_
    cases synced with
    | error errorNumber => exact fail (deviceErrorMessage_sameText rfl _)
    | ok _ => exact same _

theorem rereadPartitionTable_inEnglish :
    InEnglish (· = ·) (device.rereadPartitionTable c) (device.rereadPartitionTable d) := by
  unfold rereadPartitionTable
  cases device.fd with
  | none => exact fail rfl
  | some fd =>
    refine Alike.op (.refl _) fun reread => ?_
    cases reread with
    | error errorNumber => exact fail (deviceErrorMessage_sameText rfl _)
    | ok _ => exact ret rfl

end BlockDevice

/-! ## The loop device -/

theorem loopErrorMessage_sameText {operation operation' advice advice' : RestoreMessage}
    (hoperation : SameText operation operation') (hadvice : SameText advice advice')
    (errorNumber : Errno) :
    SameText (loopErrorMessage c operation errorNumber advice)
      (loopErrorMessage d operation' errorNumber advice') := by
  unfold SameText at hoperation hadvice ⊢
  unfold loopErrorMessage
  dsimp only
  split_ifs
  all_goals
    rw [english_arg, english_arg]
    simp only [List.map_cons, english_restoreText, hoperation, hadvice]

namespace LoopDevice

variable (formatter : LoopDevice)

theorem configure_inEnglish (backingDescriptor : Fd) (offset length : UInt64)
    (sectorSize : UInt32) :
    InEnglish (· = ·) (formatter.configure c backingDescriptor offset length sectorSize)
      (formatter.configure d backingDescriptor offset length sectorSize) := by
  unfold configure
  dsimp only
  split_ifs
  · exact fail rfl
  refine Alike.op (.refl _) fun status => ?_
  cases status with
  | error errorNumber => exact fail (loopErrorMessage_sameText rfl rfl _)
  | ok status =>
    refine after _ fun size => ?_
    cases size with
    | none => exact fail rfl
    | some size =>
      dsimp only
      split_ifs
      · exact fail rfl
      refine Alike.op (.refl _) fun control => ?_
      cases control with
      | error errorNumber => exact fail (loopErrorMessage_sameText rfl rfl _)
      | ok control =>
        refine after _ fun configured => after _ fun _ => ?_
        cases configured with
        | ok formatter => exact ret rfl
        | error errorNumber => exact fail (loopErrorMessage_sameText rfl rfl _)

/-- A verdict in English, with the object as it is now. -/
abbrev SameMove (x y : Except RestoreMessage Unit × LoopDevice) : Prop :=
  SameVerdict x.1 y.1 ∧ x.2 = y.2

theorem prepareForFormatting_inEnglish :
    InEnglish SameMove (formatter.prepareForFormatting c) (formatter.prepareForFormatting d) := by
  unfold prepareForFormatting
  cases formatter.fd with
  | none => exact ret ⟨.error (loopErrorMessage_sameText rfl rfl _), rfl⟩
  | some fd =>
    refine Alike.op (.refl _) fun flushed => ?_
    cases flushed with
    | error errorNumber => exact ret ⟨.error (loopErrorMessage_sameText rfl rfl _), rfl⟩
    | ok _ => exact after _ fun formatter => ret ⟨.ok rfl, rfl⟩

theorem detach_inEnglish : InEnglish SameMove (formatter.detach c) (formatter.detach d) := by
  unfold detach
  cases formatter.fd with
  | none => exact after _ fun formatter => ret ⟨.ok rfl, rfl⟩
  | some fd =>
    refine Alike.op (.refl _) fun synced => after _ fun _ => Alike.op (.refl _) fun cleared => ?_
    refine Alike.op (.refl _) fun _ => ret ⟨?_, rfl⟩
    match synced, cleared with
    | .error errorNumber, _ => exact .error (loopErrorMessage_sameText rfl rfl _)
    | .ok (), .error errorNumber => exact .error (loopErrorMessage_sameText rfl rfl _)
    | .ok (), .ok () => exact .ok rfl

end LoopDevice

/-! ## The steps of the restore -/

theorem refreshUsbDisk_inEnglish (deviceId : QString) :
    InEnglish (· = ·) (refreshUsbDisk c deviceId) (refreshUsbDisk d deviceId) := by
  unfold refreshUsbDisk
  dsimp only
  split_ifs
  · exact fail rfl
  refine after _ fun present => ?_
  split_ifs
  · exact fail rfl
  refine after _ fun isUsb => ?_
  split_ifs
  · exact fail rfl
  · exact same _

theorem unmountEach_inEnglish (disk : DiskInfo) (owned : List DeviceNumber)
    (mounts : List MountEntry) :
    InEnglish (· = ·) (unmountEach c disk owned mounts) (unmountEach d disk owned mounts) := by
  induction mounts with
  | nil => exact ret rfl
  | cons mount mounts ih =>
    unfold unmountEach
    by_cases howned : mount.device ∉ owned
    · rw [if_pos howned, if_pos howned]
      exact ih
    rw [if_neg howned, if_neg howned]
    split_ifs
    · exact fail rfl
    refine after _ fun _ => Alike.op (.refl _) fun unmounted => ?_
    cases unmounted with
    | ok _ => exact ih
    | error errorNumber =>
      dsimp only
      split_ifs
      · exact ih
      · exact fail (deviceErrorMessage_sameText rfl _)

/-- The unmount goes alike under every catalog. -/
theorem unmountDisk_inEnglish (disk : DiskInfo) :
    InEnglish (· = ·) (unmountDisk c disk) (unmountDisk d disk) :=
  after _ fun _ => after _ fun _ => unmountEach_inEnglish disk _ _

omit [Host] in
theorem runFormatter_inEnglish (tool : QString) (arguments : List QString) :
    InEnglish (· = ·) (runFormatter c tool arguments) (runFormatter d tool arguments) := by
  unfold runFormatter
  refine after _ fun started => ?_
  split_ifs
  · exact fail rfl
  refine after _ fun finished => ?_
  split_ifs
  · exact after _ fun _ => after _ fun _ => fail rfl
  · exact same _

theorem tryAttempts_inEnglish (tool lastOutput : QString) (attempts : List (List QString)) :
    InEnglish (· = ·) (tryAttempts c tool lastOutput attempts)
      (tryAttempts d tool lastOutput attempts) := by
  induction attempts generalizing lastOutput with
  | nil => exact ret rfl
  | cons arguments attempts ih =>
    unfold tryAttempts
    refine andThen (runFormatter_inEnglish tool arguments) fun ran => ?_
    cases ran with
    | ok _ => exact ret rfl
    | error lastOutput =>
      dsimp only
      split_ifs
      · exact ih lastOutput
      · exact ret rfl

/-- The formatter is started alike under every catalog. -/
theorem formatLinuxPartition_inEnglish (fileSystem : FileSystemType)
    (tool partitionPath label : QString) (partitionStartSector : UInt64) :
    InEnglish (· = ·)
      (formatLinuxPartition c fileSystem tool partitionPath label partitionStartSector)
      (formatLinuxPartition d fileSystem tool partitionPath label partitionStartSector) := by
  unfold formatLinuxPartition
  refine after _ fun attempts => andThen (tryAttempts_inEnglish tool [] attempts) fun tried => ?_
  cases tried with
  | ok _ => exact ret rfl
  | error lastOutput =>
    dsimp only
    split_ifs
    · exact fail rfl
    · exact fail rfl

omit [Host] in
theorem resolveFormatTool_inEnglish (fileSystem : FileSystemType) :
    InEnglish (· = ·) (resolveFormatTool c fileSystem) (resolveFormatTool d fileSystem) := by
  unfold resolveFormatTool
  refine after _ fun tool => ?_
  split_ifs
  · exact fail rfl
  · exact ret rfl

theorem canCreateFileSystemOn_sameVerdict (fileSystem : FileSystemType) (disk : DiskInfo) :
    SameVerdict (canCreateFileSystemOn c fileSystem disk)
      (canCreateFileSystemOn d fileSystem disk) := by
  unfold canCreateFileSystemOn
  cases fileSystem with
  | exFat => exact .ok rfl
  | ntfs => exact .ok rfl
  | ext4 => exact .ok rfl
  | fat32 =>
    dsimp only
    split_ifs
    · exact .error rfl
    · exact .error rfl
    · exact .error rfl
    · exact .ok rfl

/-- The phase of formatting leaves the same mapping under every catalog. -/
theorem formatThroughMapping_inEnglish (request : RestoreRequest) (formatTool : QString)
    (partitionStartSector : UInt64) (formatter : LoopDevice) :
    InEnglish LoopDevice.SameMove
      (formatThroughMapping c request formatTool partitionStartSector formatter)
      (formatThroughMapping d request formatTool partitionStartSector formatter) := by
  unfold formatThroughMapping
  refine Alike.bind (LoopDevice.prepareForFormatting_inEnglish formatter) ?_
  rintro ⟨prepared, formatter⟩ ⟨prepared', _⟩ ⟨hprepared, rfl⟩
  cases hprepared with
  | error htext => exact ret ⟨.error htext, rfl⟩
  | ok _ =>
    refine Alike.bind (Alike.attempt (formatLinuxPartition_inEnglish _ _ _ _ _)) ?_
    rintro formatted formatted' hformatted
    cases hformatted with
    | error htext => exact ret ⟨.error htext, rfl⟩
    | ok _ => exact LoopDevice.detach_inEnglish formatter

theorem formatAndRereadPartitionTable_inEnglish (request : RestoreRequest) (formatTool : QString)
    (partitionStartSector : UInt64) (device : BlockDevice) (formatter : LoopDevice)
    (steps : RestoreStepCounter) :
    InEnglish (· = ·)
      (formatAndRereadPartitionTable c request formatTool partitionStartSector device formatter
        steps)
      (formatAndRereadPartitionTable d request formatTool partitionStartSector device formatter
        steps) := by
  unfold formatAndRereadPartitionTable
  refine andThen (reportPlannedStep_inEnglish steps .format request) fun steps => ?_
  refine Alike.bind
    (formatThroughMapping_inEnglish request formatTool partitionStartSector formatter) ?_
  rintro ⟨formatted, formatter⟩ ⟨formatted', _⟩ ⟨hformatted, rfl⟩
  cases hformatted with
  | error htext =>
    refine Alike.bind (LoopDevice.detach_inEnglish formatter) fun _ _ _ => ?_
    refine Alike.bind (Alike.attempt (andThen (BlockDevice.flush_inEnglish device)
      fun _ => BlockDevice.rereadPartitionTable_inEnglish device)) ?_
    rintro reread reread' hreread
    cases hreread with
    | ok _ => exact fail htext
    | @error rereadError rereadError' hreread =>
      dsimp only
      rw [show rereadError.english = rereadError'.english from hreread]
      exact after _ fun _ => fail htext
  | ok _ =>
    refine andThen (reportPlannedStep_inEnglish steps .rereadPartitionTable request) fun steps => ?_
    refine andThen (BlockDevice.flush_inEnglish device) fun _ => ?_
    refine andThen (BlockDevice.rereadPartitionTable_inEnglish device) fun _ => ?_
    refine after _ fun diskSequence => ?_
    cases diskSequence with
    | some diskSequence => exact ret rfl
    | none => exact fail rfl

/-! ## The restore -/

theorem inspectDevice_inEnglish (disk : DiskInfo) :
    InEnglish (· = ·) (inspectDevice c disk) (inspectDevice d disk) := by
  unfold inspectDevice
  refine Alike.bind (BlockDevice.open_inEnglish _ _) ?_
  rintro ⟨opened, inspect⟩ ⟨opened', _⟩ ⟨hopened, rfl⟩
  cases hopened with
  | error htext => exact fail htext
  | ok _ =>
    exact Alike.withCleanup (BlockDevice.verifyIdentity_inEnglish inspect disk) (same _)

theorem unmountAgain_inEnglish (disk : DiskInfo) (attempt : Nat) :
    InEnglish (· = ·) (unmountAgain c disk attempt) (unmountAgain d disk attempt) := by
  unfold unmountAgain
  split_ifs
  · exact ret rfl
  · exact after _ fun _ => andThen (unmountDisk_inEnglish disk) fun _ => same _

/-- The attempts to open the disk go alike under every catalog. -/
theorem openExclusively_inEnglish (disk : DiskInfo) (remaining attempt : Nat)
    {openError openError' : RestoreMessage} (h : SameText openError openError') :
    InEnglish (· = ·) (openExclusively c disk remaining attempt openError)
      (openExclusively d disk remaining attempt openError') := by
  induction remaining generalizing attempt openError openError' with
  | zero => exact fail h
  | succ remaining ih =>
    unfold openExclusively
    refine andThen (unmountAgain_inEnglish disk attempt) fun _ => ?_
    refine Alike.bind (BlockDevice.open_inEnglish _ _) ?_
    rintro ⟨opened, device⟩ ⟨opened', _⟩ ⟨hopened, rfl⟩
    cases hopened with
    | ok hfd => exact ret hfd
    | error htext => exact ih (attempt + 1) htext

theorem clearSignatures_inEnglish (fuel : LoopFuel) (disk : DiskInfo) (device : BlockDevice) :
    InEnglish (· = ·) (clearSignatures c fuel disk device) (clearSignatures d fuel disk device) := by
  unfold clearSignatures
  dsimp only
  split_ifs
  · exact fail rfl
  · exact andThen (BlockDevice.writeZeros_inEnglish device fuel _ _ _)
      fun _ => BlockDevice.writeZeros_inEnglish device fuel _ _ _

theorem writePartitionTable_inEnglish (fuel : LoopFuel) (tableRequest : PartitionTableRequest)
    (device : BlockDevice) :
    InEnglish (· = ·) (writePartitionTable c fuel tableRequest device)
      (writePartitionTable d fuel tableRequest device) := by
  unfold writePartitionTable
  split_ifs
  · exact andThen (BlockDevice.writeAt_inEnglish device fuel _ _)
      fun _ => BlockDevice.writeAt_inEnglish device fuel _ _
  · exact BlockDevice.writeAt_inEnglish device fuel _ _

/-- What is erased and written does not depend on the catalog. -/
theorem eraseAndWrite_inEnglish (fuel : LoopFuel) (request : RestoreRequest) (disk : DiskInfo)
    (tableRequest : PartitionTableRequest) (device : BlockDevice) (steps : RestoreStepCounter) :
    InEnglish (· = ·) (eraseAndWrite c fuel request disk tableRequest device steps)
      (eraseAndWrite d fuel request disk tableRequest device steps) := by
  unfold eraseAndWrite
  refine after _ fun _ => andThen (BlockDevice.verifyIdentity_inEnglish device disk) fun _ => ?_
  refine andThen (reportPlannedStep_inEnglish steps .clearSignatures request) fun steps => ?_
  refine andThen (clearSignatures_inEnglish fuel disk device) fun _ => ?_
  refine andThen (reportPlannedStep_inEnglish steps .writePartitionTable request) fun steps => ?_
  refine andThen (writePartitionTable_inEnglish fuel tableRequest device) fun _ => ?_
  exact andThen (BlockDevice.flush_inEnglish device) fun _ => ret rfl

/-- With the disk open, the restore goes alike under every catalog. -/
theorem restoreExclusively_inEnglish (fuel : LoopFuel) (request : RestoreRequest)
    (formatTool : QString) (disk : DiskInfo) (fd : Fd) (steps : RestoreStepCounter) :
    InEnglish (· = ·) (restoreExclusively c fuel request formatTool disk fd steps)
      (restoreExclusively d fuel request formatTool disk fd steps) := by
  unfold restoreExclusively
  refine andThen (BlockDevice.verifyIdentity_inEnglish _ disk) fun _ => after _ fun _ => ?_
  refine after _ fun diskGuid => after _ fun partitionGuid => ?_
  refine andThen (check_inEnglish _) fun _ => ?_
  refine andThen (LoopDevice.configure_inEnglish _ _ _ _ _) fun formatter => ?_
  refine Alike.bind (Alike.attempt (eraseAndWrite_inEnglish fuel request disk _ _ steps)) ?_
  rintro erased erased' herased
  cases herased with
  | error htext => exact Alike.bind (LoopDevice.detach_inEnglish formatter) fun _ _ _ => fail htext
  | ok hsteps =>
    obtain rfl := hsteps
    exact formatAndRereadPartitionTable_inEnglish request formatTool _ _ formatter _

/-- The new partition is checked alike under every catalog. -/
theorem verifyNewPartition_inEnglish (request : RestoreRequest) (diskName partitionPath : QString)
    (diskSequence : UInt64) (steps : RestoreStepCounter) :
    InEnglish (· = ·) (verifyNewPartition c request diskName partitionPath diskSequence steps)
      (verifyNewPartition d request diskName partitionPath diskSequence steps) := by
  unfold verifyNewPartition
  refine Alike.bind (BlockDevice.open_inEnglish _ _) ?_
  rintro ⟨opened, partition⟩ ⟨opened', _⟩ ⟨hopened, rfl⟩
  cases hopened with
  | error htext => exact fail htext
  | ok _ =>
    refine Alike.withCleanup ?_ (same _)
    refine andThen (BlockDevice.verifyPartitionOf_inEnglish partition diskName _) fun _ => ?_
    exact andThen (reportPlannedStep_inEnglish steps .complete request) fun _ => ret rfl

/-- The disk is found alike under every catalog. -/
theorem identifyDisk_inEnglish (request : RestoreRequest) :
    InEnglish (· = ·) (identifyDisk c request) (identifyDisk d request) := by
  unfold identifyDisk
  refine andThen (check_inEnglish _) fun _ => ?_
  refine andThen (resolveFormatTool_inEnglish request.fileSystem) fun formatTool => ?_
  refine andThen (reportPlannedStep_inEnglish _ .verifyDisk request) fun steps => ?_
  refine andThen (refreshUsbDisk_inEnglish _) fun currentDisk => ?_
  refine andThen (check_inEnglish _) fun _ => andThen (check_inEnglish _) fun _ => ?_
  refine andThen (check_inEnglish _) fun _ => ?_
  refine andThen (verdict (canCreateFileSystemOn_sameVerdict _ currentDisk)) fun _ => ?_
  refine andThen (reportPlannedStep_inEnglish steps .identifyDevice request) fun steps => ?_
  exact andThen (inspectDevice_inEnglish currentDisk) fun _ => ret rfl

/-- A restore under two catalogs. -/
theorem performLinuxRestore_inEnglish (fuel : LoopFuel) (request : RestoreRequest) :
    InEnglish (· = ·) (performLinuxRestore c fuel request) (performLinuxRestore d fuel request) := by
  unfold performLinuxRestore
  refine andThen (identifyDisk_inEnglish request) ?_
  rintro ⟨disk, formatTool, steps⟩
  refine after _ fun _ => andThen (reportPlannedStep_inEnglish steps .unmount request)
    fun steps => ?_
  refine andThen (unmountDisk_inEnglish disk) fun _ => ?_
  refine andThen (reportPlannedStep_inEnglish steps .openExclusive request) fun steps => ?_
  refine andThen (openExclusively_inEnglish disk 3 0 rfl) fun fd => ?_
  refine andThen (Alike.withCleanup
    (restoreExclusively_inEnglish fuel request formatTool disk fd steps) (same _)) ?_
  rintro ⟨diskSequence, steps⟩
  refine andThen (reportPlannedStep_inEnglish steps .waitForPartition request) fun steps => ?_
  refine after _ fun _ => after _ fun present => ?_
  split_ifs
  · exact fail rfl
  · exact andThen (verifyNewPartition_inEnglish request _ _ diskSequence steps) fun _ => ret rfl

end Catalogs

end UsbRestore
