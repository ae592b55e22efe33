-- SUMMARY: Footprints of the loop mapping, of unmounting, formatting and waiting.
import UsbRestore.Linux.Footprint

/-!
# Footprints of the restore

What the parts of the restore call that are not methods of the open device.
-/

namespace UsbRestore

open Prog

set_option maxRecDepth 10000

/-! ## The loop mapping -/

namespace LoopDevice

variable (installed : Catalog) {ε : Type}

theorem loopNumber_idle (control : Fd) (busy : Bool) :
    (loopNumber control busy : Prog LinuxI ε (Except Errno Nat)).Satisfies
      LinuxOp.Idle Returns := by
  unfold loopNumber
  split
  · exact ⟨⟨rfl, rfl⟩, fun ans => ⟨ans, rfl⟩⟩
  · exact ⟨⟨rfl, rfl⟩, fun ans => ⟨ans, rfl⟩⟩

/-- The attempts to make a mapping change nothing on the disk. -/
theorem configureAttempts_quiet (control : Fd) (config : LoopConfig) (attempts : Nat)
    (busy : Bool) (errorNumber : Errno) :
    (configureAttempts control config attempts busy errorNumber :
      Prog LinuxI ε (Except Errno LoopDevice)).Satisfies LinuxOp.Quiet Returns := by
  induction attempts generalizing busy errorNumber with
  | zero => exact .returns _
  | succ attempts ih =>
    unfold configureAttempts
    refine .seq (loopNumber_idle control busy).quietly fun number => ?_
    cases number with
    | error code => exact .returns _
    | ok number =>
      refine .call ⟨rfl, rfl⟩ fun claimed => ?_
      cases claimed with
      | error code =>
        dsimp only
        split
        · exact ih _ _
        · exact .returns _
      | ok claim =>
        refine .call ⟨rfl, rfl⟩ fun configured => ?_
        cases configured with
        | error code =>
          refine .call ⟨rfl, rfl⟩ fun _ => ?_
          split
          · exact ih _ _
          · exact .returns _
        | ok _ =>
          refine .call ⟨rfl, rfl⟩ fun used => ?_
          cases used with
          | ok fd => exact .returns _
          | error code => exact .call ⟨rfl, rfl⟩ fun _ => .call ⟨rfl, rfl⟩ fun _ => .returns _

theorem backingSize_idle (backingDescriptor : Fd) (status : FileStatus) :
    (backingSize backingDescriptor status : Prog LinuxI ε (Option UInt64)).Satisfies
      LinuxOp.Idle Returns := by
  unfold backingSize
  split
  · exact .returns _
  · refine .call ⟨rfl, rfl⟩ fun answered => ?_
    cases answered <;> exact .returns _
  · exact .returns _

/-- Making a mapping changes nothing on the disk. -/
theorem configure_quiet [Host] (formatter : LoopDevice) (backingDescriptor : Fd)
    (offset length : UInt64) (sectorSize : UInt32) :
    (configure installed formatter backingDescriptor offset length sectorSize).Satisfies
      LinuxOp.Quiet Explained := by
  unfold configure
  dsimp only
  split
  · exact .fail (restoreText_ne_nil (by decide))
  · refine .call ⟨rfl, rfl⟩ fun answered => ?_
    cases answered with
    | error errorNumber => exact .fail loopErrorMessage_ne_nil
    | ok status =>
      refine .seq (backingSize_idle _ _).quietly fun size => ?_
      cases size with
      | none => exact .fail (restoreText_ne_nil (by decide))
      | some size =>
        dsimp only
        split
        · exact .fail (restoreText_ne_nil (by decide))
        · refine .call ⟨rfl, rfl⟩ fun opened => ?_
          cases opened with
          | error errorNumber => exact .fail loopErrorMessage_ne_nil
          | ok control =>
            refine .seq (configureAttempts_quiet _ _ _ _ _) fun configured => ?_
            refine .call ⟨rfl, rfl⟩ fun _ => ?_
            cases configured with
            | ok formatter => trivial
            | error errorNumber => exact .fail loopErrorMessage_ne_nil

theorem releaseClaim_quiet (formatter : LoopDevice) :
    (formatter.releaseClaim : Prog LinuxI ε LoopDevice).Satisfies LinuxOp.Quiet
      fun r => ∃ released, r = .ok released ∧ released.path = formatter.path := by
  unfold releaseClaim
  split
  · exact ⟨_, rfl, rfl⟩
  · exact .call ⟨rfl, rfl⟩ fun _ => ⟨_, rfl, rfl⟩

/-- The verdict says why, and the path is still that of the mapping. -/
def Prepared (path : QString) :
    Except RestoreMessage (Except RestoreMessage Unit × LoopDevice) → Prop
  | .ok (verdict, prepared) => Explained verdict ∧ prepared.path = path
  | .error _ => False

/-- What the formatting through a mapping over `fd` is aimed at. -/
def aim (formatter : LoopDevice) (fd : Fd) (tool : QString) : Aim :=
  { fd, tool, path := formatter.path, claim := formatter.claimFd }

/-- Of the mapping, only the claim that it was made with is closed. -/
theorem prepareForFormatting_aimed [Host] (formatter : LoopDevice) (fd : Fd) (tool : QString) :
    (formatter.prepareForFormatting installed).Satisfies (LinuxOp.Aimed (formatter.aim fd tool))
      (Prepared formatter.path) := by
  unfold prepareForFormatting releaseClaim
  dsimp only
  split
  · exact ⟨loopErrorMessage_ne_nil, rfl⟩
  · refine .call ⟨rfl, rfl, rfl⟩ fun answered => ?_
    cases answered with
    | error errorNumber => exact ⟨loopErrorMessage_ne_nil, rfl⟩
    | ok _ =>
      dsimp only
      split
      · exact ⟨trivial, rfl⟩
      · next claim hclaim => exact .call hclaim fun _ => ⟨trivial, rfl⟩

theorem detach_quiet [Host] (formatter : LoopDevice) :
    (formatter.detach installed : Prog LinuxI ε (Except RestoreMessage Unit × LoopDevice)).Satisfies
      LinuxOp.Quiet fun r => ∃ verdict released, r = .ok (verdict, released) ∧ Explained verdict := by
  unfold detach
  dsimp only
  split
  · refine .bind (releaseClaim_quiet formatter) (fun _ _ => ⟨_, _, rfl, trivial⟩) ?_
    rintro e ⟨_, h, _⟩
    cases h
  · refine .call ⟨rfl, rfl⟩ fun synced => ?_
    refine .bind (releaseClaim_quiet formatter) (fun _ _ => ?_) ?_
    · refine .call ⟨rfl, rfl⟩ fun cleared => .call ⟨rfl, rfl⟩ fun _ => ⟨_, _, rfl, ?_⟩
      cases synced with
      | error errorNumber => exact loopErrorMessage_ne_nil
      | ok _ =>
        cases cleared with
        | error errorNumber => exact loopErrorMessage_ne_nil
        | ok _ => trivial
    · rintro e ⟨_, h, _⟩
      cases h

end LoopDevice

/-! ## Unmounting, formatting and waiting -/

section Restore

variable [Host] (installed : Catalog)

/-- The unmount of one mount after the other writes nothing. -/
theorem unmountEach_quiet (disk : DiskInfo) (owned : List DeviceNumber)
    (mounts : List MountEntry) :
    (unmountEach installed disk owned mounts).Satisfies LinuxOp.Quiet Explained := by
  induction mounts with
  | nil => trivial
  | cons mount mounts ih =>
    unfold unmountEach
    split
    · exact ih
    · split
      · exact .fail (restoreText_arg_ne_nil (by decide))
      · refine .call trivial fun _ => .call ⟨rfl, rfl⟩ fun answered => ?_
        cases answered with
        | ok _ => exact ih
        | error errorNumber =>
          dsimp only
          split
          · exact ih
          · exact .fail deviceErrorMessage_ne_nil

theorem unmountDisk_quiet (disk : DiskInfo) :
    (unmountDisk installed disk).Satisfies LinuxOp.Quiet Explained :=
  .seq readMounts_lookup.query.quiet fun _ => .seq (deviceNumbersOnDisk_lookup _).query.quiet fun _ =>
    unmountEach_quiet installed disk _ _

omit [Host] in
theorem environmentId_aimed {ε : Type} (name : QString) (aim : Aim) :
    (environmentId name : Prog LinuxI ε (Option UInt32)).Satisfies
      (LinuxOp.Aimed aim) Returns :=
  .call ⟨rfl, rfl, rfl⟩ fun _ => .returns _

omit [Host] in
theorem callerUid_aimed {ε : Type} (aim : Aim) :
    (callerUid : Prog LinuxI ε (Option UInt32)).Satisfies (LinuxOp.Aimed aim) Returns := by
  refine .seq (environmentId_aimed _ aim) fun uid => ?_
  cases uid with
  | some uid => exact .returns _
  | none => exact environmentId_aimed _ aim

omit [Host] in
theorem desktopOwner_aimed {ε : Type} (aim : Aim) :
    (desktopOwner : Prog LinuxI ε (Option DesktopOwner)).Satisfies
      (LinuxOp.Aimed aim) Returns := by
  refine .seq (callerUid_aimed aim) fun uid => ?_
  cases uid with
  | none => exact .returns _
  | some uid =>
    dsimp only
    split
    · exact .returns _
    · refine .call ⟨rfl, rfl, rfl⟩ fun entry => ?_
      cases entry with
      | some gid => exact .returns _
      | none => exact .seq (environmentId_aimed _ aim) fun _ => .returns _

/-- Every run of the formatter is to format the node, which is its last argument. -/
def EachFormats {ε : Type} (path : QString) : Except ε (List (List QString)) → Prop
  | .ok attempts => ∀ arguments ∈ attempts, arguments.getLast? = some path
  | .error _ => False

omit [Host] in
/-- Whatever the filesystem and whoever called, the device argument is the node of the partition. -/
theorem formatAttempts_aimed {ε : Type} (fileSystem : FileSystemType) (aim : Aim)
    (path label : QString) (partitionStartSector : UInt64) :
    (formatAttempts fileSystem path label partitionStartSector :
      Prog LinuxI ε (List (List QString))).Satisfies (LinuxOp.Aimed aim) (EachFormats path) := by
  have heach : ∀ arguments : List QString,
      EachFormats (ε := ε) path (.ok [arguments ++ [path]]) := by
    intro arguments other hother
    rw [List.mem_singleton.mp hother]
    exact List.getLast?_concat
  cases fileSystem with
  | exFat =>
    intro arguments h
    rcases List.mem_cons.mp h with rfl | h
    · rfl
    · rw [List.mem_singleton.mp h]
      rfl
  | fat32 => exact heach [_, _, _, _, _, _]
  | ntfs => exact heach [_, _, _, _, _]
  | ext4 =>
    refine .seq (desktopOwner_aimed aim) fun owner => ?_
    cases owner with
    | none => exact .call trivial fun _ => heach _
    | some owner =>
      refine .call trivial fun _ => ?_
      have hlist := heach ([QStringLiteral "-F", QStringLiteral "-L", label, QStringLiteral "-m",
        QStringLiteral "0"] ++ [QStringLiteral "-E", (QStringLiteral "root_owner=%1:%2").arg
          [QString.number owner.uid.toNat, QString.number owner.gid.toNat]])
      rw [List.append_assoc] at hlist
      exact hlist

omit [Host] in
/-- The one process that is started is the tool, and its last argument is the node. -/
theorem runFormatter_aimed (aim : Aim) {arguments : List QString}
    (h : arguments.getLast? = some aim.path) :
    (runFormatter installed aim.tool arguments).Satisfies (LinuxOp.Aimed aim) Explained := by
  refine .call ⟨rfl, h⟩ fun started => ?_
  split
  · exact .fail (restoreText_arg_ne_nil (by decide))
  · refine .call ⟨rfl, rfl, rfl⟩ fun finished => ?_
    split
    · exact .call ⟨rfl, rfl, rfl⟩ fun _ => .call ⟨rfl, rfl, rfl⟩ fun _ =>
        .fail (restoreText_arg_ne_nil (by decide))
    · refine .call ⟨rfl, rfl, rfl⟩ fun result => ?_
      dsimp only
      split
      · refine .call trivial fun _ => ?_
        split
        · exact .call trivial fun _ => trivial
        · trivial
      · exact .call trivial fun _ => trivial

/-- Every attempt starts the tool on the node. -/
theorem tryAttempts_aimed (aim : Aim) (lastOutput : QString) {attempts : List (List QString)}
    (h : ∀ arguments ∈ attempts, arguments.getLast? = some aim.path) :
    (tryAttempts installed aim.tool lastOutput attempts).Satisfies
      (LinuxOp.Aimed aim) Explained := by
  induction attempts generalizing lastOutput with
  | nil => trivial
  | cons arguments attempts ih =>
    refine .explained (runFormatter_aimed installed aim (h _ List.mem_cons_self))
      fun outcome => ?_
    cases outcome with
    | ok _ => trivial
    | error lastOutput =>
      dsimp only
      split
      · exact ih _ fun arguments harguments => h arguments (List.mem_cons_of_mem _ harguments)
      · trivial

/-- Formatting starts the tool on the node, whatever the filesystem. -/
theorem formatLinuxPartition_aimed (fileSystem : FileSystemType) (aim : Aim) (label : QString)
    (partitionStartSector : UInt64) :
    (formatLinuxPartition installed fileSystem aim.tool aim.path label
      partitionStartSector).Satisfies (LinuxOp.Aimed aim) Explained := by
  refine .bind (formatAttempts_aimed fileSystem aim aim.path label partitionStartSector)
    (fun attempts hattempts => ?_) (fun _ h => h.elim)
  refine .explained (tryAttempts_aimed installed aim [] hattempts) fun outcome => ?_
  cases outcome with
  | ok _ => trivial
  | error lastOutput =>
    dsimp only
    split
    · exact .fail (restoreText_arg_ne_nil (by decide))
    · exact .fail (restoreText_arg_ne_nil (by decide))

/-- The look at the new partition changes nothing on the disk. -/
theorem inspectDevice_quiet (disk : DiskInfo) :
    (inspectDevice installed disk).Satisfies LinuxOp.Quiet Explained := by
  have hopen := BlockDevice.open_silent installed { devicePath := disk.deviceId } (ε := RestoreMessage)
    .inspect rfl
  refine .bind (hopen.mono ?_ fun _ h => h) ?_ (fun _ h => h.elim)
  · rintro o ⟨hsilent, hflags⟩
    cases o with
    | reporter o => cases o <;> exact hsilent
    | sys o =>
      cases o with
      | openNode path flags =>
        obtain rfl := hflags path flags rfl
        exact ⟨rfl, rfl⟩
      | _ => exact ⟨hsilent, rfl⟩
  · rintro ⟨opened, inspect⟩ ⟨hopened, _, _⟩
    cases opened with
    | error message => exact .fail hopened
    | ok fd =>
      refine .withCleanup (BlockDevice.verifyIdentity_query installed inspect disk).quiet ?_
      exact .seq (BlockDevice.close_quiet inspect) fun _ => rfl

omit [Host] in
theorem waitForNode_quiet (partitionPath : QString) (fuel : LoopFuel) (lastWaitNote : Nat) :
    (waitForNode partitionPath fuel lastWaitNote).Satisfies LinuxOp.Quiet Explained := by
  induction fuel generalizing lastWaitNote with
  | zero => trivial
  | succ fuel ih =>
    refine .call ⟨rfl, rfl⟩ fun present => ?_
    split
    · trivial
    · refine .call ⟨rfl, rfl⟩ fun elapsed => ?_
      split
      · trivial
      · refine .call ⟨rfl, rfl⟩ fun _ => .call ⟨rfl, rfl⟩ fun now => ?_
        split
        · exact .call ⟨rfl, rfl⟩ fun _ => .call trivial fun _ => ih _
        · exact ih _

omit [Host] in
theorem randomGuid_idle {ε : Type} :
    (randomGuid : Prog LinuxI ε QByteArray).Satisfies LinuxOp.Idle
      fun r => ∃ guid, r = .ok guid ∧ guid.size = 16 :=
  .call ⟨rfl, rfl⟩ fun _ => ⟨_, rfl, rfl⟩

end Restore

end UsbRestore
