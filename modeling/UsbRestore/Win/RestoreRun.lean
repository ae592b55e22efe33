-- SUMMARY: Every run of the Windows restore follows its plan and asks the handle before it changes anything.
import UsbRestore.Win.RestoreTrace

/-!
# Runs of the Windows restore

The restore is followed through its phases one after the other, each with the notes it starts from and
ends with; the notes of a whole run are then read as what its history says.
-/

namespace UsbRestore

namespace WindowsDiskService

open Prog RawDisk

section

variable [Host] [SerialCharacters] {installed : Catalog} {fuel : Nat}

/-- The counter stands after `n` steps of the plan, which are the steps that were reported. -/
structure At (n : Nat) (handle : Option Handle) (confirmed untouched : Bool)
    (steps : RestoreStepCounter) (w : Watch) : Prop where
  counter : steps = ⟨windowsRestorePlan, n⟩
  watch : w = noted n handle confirmed untouched

section

variable {α : Type} {n : Nat} {confirmed untouched : Bool} {next : α → Watch → Prop}
  {rawDisk : RawDisk} {disk : DiskInfo}

theorem follows_return {a : α} {w : Watch} (h : next a w) :
    Follows (return a : Prog (ServiceI installed fuel) RestoreMessage α) next w := h

/-- What is left of the notes after the disk was opened, or was not. -/
theorem after_openRawDisk {e : Event (ServiceI installed fuel)} (hstep : reportedStep e = none)
    (hverifies : verifiedHandle e = none) (hstops : sawCancel e = false)
    (hkept : changesDisk e.op = false ∧ mounts e.op = false ∧ closes e.op = false) :
    (noted n none confirmed untouched).after e = noted n (openedHandle e) confirmed untouched := by
  simp only [Watch.after, noted, hstep, hverifies, hstops, hkept, Option.toList_none,
    List.append_nil, Option.none_or, Option.isSome_none, Bool.not_false, Bool.and_true,
    Bool.false_and, Bool.or_false]

/-- The handle is asked, and a refusal ends the restore. -/
theorem follows_verified {f : Unit → Prog (ServiceI installed fuel) RestoreMessage α} (hn : n < 14)
    (hf : Follows (f ()) next (noted n (some rawDisk.handle) true untouched)) :
    Follows (do
        let verified ← service installed fuel (.verifyIdentity rawDisk disk)
        Prog.ofExcept (method verified) >>= f) next
      (noted n (some rawDisk.handle) confirmed untouched) := by
  refine follows_identity ?_ ?_
  · intro verified hverified
    rw [hverified]
    exact hf
  · intro verified message hverified hexplained
    rw [hverified]
    exact follows_fail hn hexplained

/-- The check of the identity asks the disk that is open. -/
theorem confirmStillSelected_follows (hn : n < 14) :
    Follows (confirmStillSelected rawDisk disk : Prog (ServiceI installed fuel) RestoreMessage Unit)
      (fun _ w => w = noted n (some rawDisk.handle) true untouched)
      (noted n (some rawDisk.handle) confirmed untouched) := by
  unfold confirmStillSelected
  refine follows_identity ?_ ?_
  · intro verified hverified
    rw [hverified]
    exact follows_return rfl
  · intro verified message hverified _
    rw [hverified]
    exact follows_fail hn (restoreText_append_arg_ne_nil (space_mem_literal (by decide)))

theorem follows_confirmStillSelected {f : Unit → Prog (ServiceI installed fuel) RestoreMessage α}
    (hn : n < 14) (hf : Follows (f ()) next (noted n (some rawDisk.handle) true untouched)) :
    Follows (confirmStillSelected rawDisk disk >>= f) next
      (noted n (some rawDisk.handle) confirmed untouched) := by
  refine Follows.seq (confirmStillSelected_follows hn) ?_
  rintro _ _ rfl
  exact hf

/-- A detail that is sometimes reported. -/
theorem follows_detail_if {c : Prop} [Decidable c] {message : QString}
    {f : Unit → Prog (ServiceI installed fuel) RestoreMessage α}
    (hf : Follows (f ()) next (noted n (some rawDisk.handle) confirmed untouched)) :
    Follows (if c then detail message >>= f else f ()) next
      (noted n (some rawDisk.handle) confirmed untouched) := by
  split
  · exact follows_detail hf
  · exact hf

end

/-! ## Phases -/

variable (request : RestoreRequest) (disk : DiskInfo) (rawDisk : RawDisk)

omit [Host] [SerialCharacters] in
theorem canFormatFileSystem_explained (installed : Catalog) (type : FileSystemType) (disk : DiskInfo) :
    Explained (canFormatFileSystem installed type disk) := by
  unfold canFormatFileSystem
  cases type with
  | exFat => trivial
  | ntfs => trivial
  | fat32 =>
    dsimp only
    split_ifs
    · exact List.ne_nil_of_mem (space_mem_literal (by decide))
    · exact restoreText_append_arg_ne_nil (space_mem_literal (by decide))
    · trivial
  | ext4 => exact List.ne_nil_of_mem (space_mem_literal (by decide))

theorem verifyDisk_follows :
    Follows (verifyDisk request : Prog (ServiceI installed fuel) _ _)
      (fun found w => At 1 none false true found.2.2 w) (noted 0 none false true) := by
  unfold verifyDisk
  refine follows_require (by decide) (isSafeRestoreTarget_hasReason _ _) ?_
  refine follows_require (by decide) (canCreatePartitionLayout_hasReason _ _) ?_
  refine follows_beginStep rfl ?_
  refine follows_plain rfl fun (found, failure) => ?_
  cases found with
  | none => exact follows_failOperation (by decide)
  | some currentDisk =>
    refine follows_require (by decide) (isSameRestoreTarget_hasReason _ _) ?_
    refine follows_require (by decide) (isSafeRestoreTarget_hasReason _ _) ?_
    refine follows_require (by decide) (canCreatePartitionLayout_hasReason _ _) ?_
    have hexplained := canFormatFileSystem_explained installed request.fileSystem currentDisk
    cases hcheck : canFormatFileSystem installed request.fileSystem currentDisk with
    | error failure =>
      rw [hcheck] at hexplained
      refine follows_fail (by decide) ?_
      rwa [english_stepFailure]
    | ok _ => exact ⟨rfl, rfl⟩

theorem openDrive_follows :
    Follows (openDrive request disk ⟨windowsRestorePlan, 1⟩ : Prog (ServiceI installed fuel) _ _)
      (fun opened => At 2 (some opened.1.handle) false true opened.2) (noted 1 none false true) := by
  unfold openDrive
  refine follows_beginStep rfl ?_
  refine Surely.watch fun (opened : (RawDisk.open installed disk.number).Outcome) =>
    ⟨⟨nofun, nofun, nofun, fun _ => rfl, rfl⟩, ?_⟩
  have hexplained := explained_method (open_explains disk.number) opened
  rw [after_openRawDisk rfl rfl rfl ⟨rfl, rfl, rfl⟩]
  change Follows _ _ (noted 2 ((method opened).toOption.map RawDisk.handle) false true)
  cases hopened : method opened with
  | ok rawDisk => exact ⟨rfl, rfl⟩
  | error message =>
    rw [hopened] at hexplained
    exact follows_fail (by decide) hexplained

/-- Two steps detach the volumes and remove the letters; the disk is left untouched, and is checked
again. -/
theorem detachVolumes_follows (confirmed : Bool) :
    Follows (detachVolumes request disk rawDisk ⟨windowsRestorePlan, 2⟩ :
        Prog (ServiceI installed fuel) _ _)
      (At 4 (some rawDisk.handle) true true) (noted 2 (some rawDisk.handle) confirmed true) := by
  unfold detachVolumes
  refine follows_verified (by decide) ?_
  refine follows_cancelCheckpoint (by decide) ?_
  refine follows_beginStep rfl ?_
  refine follows_plain rfl fun (refreshed, failure) => ?_
  cases refreshed with
  | false => exact follows_failOperation (by decide)
  | true =>
    refine follows_beginStep rfl ?_
    refine follows_plain rfl fun (dismounted, failure) => ?_
    cases dismounted with
    | false => exact follows_failOperation (by decide)
    | true =>
      refine follows_plain rfl fun (removed, later) => ?_
      cases removed with
      | false => exact follows_failOperation (by decide)
      | true =>
        refine follows_cancelCheckpoint (by decide) ?_
        exact ⟨rfl, rfl⟩

/-- The first change of the disk is announced, and comes right after a check of its identity. -/
theorem emptyLayout_follows (confirmed untouched : Bool) :
    Follows (emptyLayout request disk rawDisk ⟨windowsRestorePlan, 4⟩ :
        Prog (ServiceI installed fuel) _ _)
      (At 5 (some rawDisk.handle) false false)
      (noted 4 (some rawDisk.handle) confirmed untouched) := by
  unfold emptyLayout
  refine follows_verified (by decide) ?_
  refine follows_beginStep rfl ?_
  refine follows_change rfl (by decide) (fun _ => rfl) fun (deleted, failure) => ?_
  cases deleted with
  | none => exact follows_failOperation (by decide)
  | some partitionAtDiskStart =>
    refine follows_detail_if ?_
    refine follows_plain rfl fun oldVolumes => ?_
    refine follows_change rfl (by decide) nofun fun replaced => ?_
    refine follows_ofExcept (by decide)
      (explained_method (replaceLayoutWithEmptyGpt_explains rawDisk) replaced) fun _ _ => ?_
    refine follows_plain rfl fun left => ?_
    refine follows_detail_if ?_
    exact ⟨rfl, rfl⟩

theorem lockDrive_follows (handle : Option Handle) (confirmed untouched : Bool) :
    Follows (lockDrive request rawDisk ⟨windowsRestorePlan, 5⟩ : Prog (ServiceI installed fuel) _ _)
      (At 6 handle confirmed untouched) (noted 5 handle confirmed untouched) := by
  unfold lockDrive
  refine follows_beginStep rfl ?_
  refine follows_plain rfl fun locked => ?_
  dsimp only
  cases method locked
  -- A refused lock is only reported.
  case' error lockError => refine follows_detail ?_
  all_goals
    refine follows_plain rfl fun extended => ?_
    cases method extended
    case' error lockError => refine follows_detail ?_
    all_goals
      refine follows_plain rfl fun _ => ?_
      exact ⟨rfl, rfl⟩

/-- The signatures are cleared through the handle that was opened. -/
theorem clearSignatures_follows (confirmed untouched : Bool) :
    Follows (clearSignatures request disk rawDisk ⟨windowsRestorePlan, 6⟩ :
        Prog (ServiceI installed fuel) _ _)
      (fun cleared w => cleared.1.handle = rawDisk.handle ∧
        At 7 (some rawDisk.handle) false false cleared.2 w)
      (noted 6 (some rawDisk.handle) confirmed untouched) := by
  unfold clearSignatures
  refine follows_verified (by decide) ?_
  refine follows_beginStep rfl ?_
  refine follows_change rfl (by decide) (fun _ => rfl) fun answer => ?_
  obtain ⟨cleared, last, hanswer, hexplained, hhandle⟩ :=
    Outcome.satisfies (clearPartitionSignatures_judgesSame rawDisk disk.size disk.sectorSize fuel)
      answer
  rw [hanswer]
  refine follows_detail_if ?_
  refine follows_ofExcept (by decide) hexplained fun _ _ => ?_
  exact ⟨hhandle, rfl, rfl⟩

/-- The drive is reset and the partition made in two announced steps. -/
theorem createPartition_follows (handle : Option Handle) (confirmed untouched : Bool) :
    Follows (createPartition request disk rawDisk ⟨windowsRestorePlan, 7⟩ :
        Prog (ServiceI installed fuel) _ _)
      (At 9 handle false false) (noted 7 handle confirmed untouched) := by
  unfold createPartition
  refine follows_beginStep rfl ?_
  refine follows_change rfl (by decide) nofun fun reset => ?_
  refine follows_ofExcept (by decide) (explained_method (setRaw_explains rawDisk) reset) fun _ _ => ?_
  refine follows_beginStep rfl ?_
  refine follows_change rfl (by decide) nofun fun created => ?_
  refine follows_ofExcept (by decide)
    (explained_method (createSinglePartition_explains rawDisk _ _ _ _) created) fun _ _ => ?_
  exact ⟨rfl, rfl⟩

theorem findVolume_follows (handle : Option Handle) (confirmed untouched : Bool) :
    Follows (findVolume request disk ⟨windowsRestorePlan, 9⟩ : Prog (ServiceI installed fuel) _ _)
      (fun found => At 11 handle confirmed untouched found.2)
      (noted 9 handle confirmed untouched) := by
  unfold findVolume
  refine follows_beginStep rfl ?_
  refine follows_plain rfl fun (volumeName, failure) => ?_
  dsimp only
  split
  · exact follows_failOperation (by decide)
  · refine follows_beginStep rfl ?_
    refine follows_plain rfl fun (refreshed, failure) => ?_
    cases refreshed with
    | false => exact follows_failOperation (by decide)
    | true =>
      refine follows_plain rfl fun (belongs, later) => ?_
      cases belongs with
      | false => exact follows_failOperation (by decide)
      | true => exact ⟨rfl, rfl⟩

/-- The volume is mounted and then formatted, each right after a check of the identity. -/
theorem formatNewVolume_follows (allocationUnitSize : UInt32) (volumeName : QString)
    (confirmed untouched : Bool) :
    Follows (formatNewVolume request disk allocationUnitSize rawDisk volumeName
        ⟨windowsRestorePlan, 11⟩ : Prog (ServiceI installed fuel) _ _)
      (fun formatted => At 13 (some rawDisk.handle) false false formatted.2)
      (noted 11 (some rawDisk.handle) confirmed untouched) := by
  unfold formatNewVolume
  refine follows_confirmStillSelected (by decide) ?_
  refine follows_beginStep rfl ?_
  refine follows_mount fun (driveRoot, failure) => ?_
  dsimp only
  split
  · exact follows_failOperation (by decide)
  · refine follows_beginStep rfl ?_
    refine follows_confirmStillSelected (by decide) ?_
    refine follows_change rfl (by decide) (fun _ => rfl) fun (formatted, failure) => ?_
    cases formatted with
    | false => exact follows_failOperation (by decide)
    | true => exact ⟨rfl, rfl⟩

/-- With the drive open, all the steps that are left are reported in their order. -/
theorem restoreOpened_follows (allocationUnitSize : UInt32) (confirmed : Bool) :
    Follows (restoreOpened request disk allocationUnitSize rawDisk ⟨windowsRestorePlan, 2⟩ :
        Prog (ServiceI installed fuel) _ _)
      (fun _ w => w = noted 14 (some rawDisk.handle) false false)
      (noted 2 (some rawDisk.handle) confirmed true) := by
  unfold restoreOpened
  refine (detachVolumes_follows request disk rawDisk confirmed).seq ?_
  rintro _ _ ⟨rfl, rfl⟩
  refine (emptyLayout_follows request disk rawDisk true true).seq ?_
  rintro _ _ ⟨rfl, rfl⟩
  refine (lockDrive_follows request rawDisk _ false false).seq ?_
  rintro _ _ ⟨rfl, rfl⟩
  refine (clearSignatures_follows request disk rawDisk false false).seq ?_
  -- The retries are counted in the raw disk, which is otherwise the one that was opened.
  rintro ⟨cleared, _⟩ _ ⟨hhandle, rfl, rfl⟩
  rw [← hhandle]
  refine (createPartition_follows request disk cleared _ false false).seq ?_
  rintro _ _ ⟨rfl, rfl⟩
  refine (findVolume_follows request disk _ false false).seq ?_
  rintro ⟨volumeName, _⟩ _ ⟨rfl, rfl⟩
  refine (formatNewVolume_follows request disk cleared _ volumeName false false).seq ?_
  rintro ⟨driveRoot, _⟩ _ ⟨rfl, rfl⟩
  refine follows_beginStep rfl ?_
  exact follows_return rfl

/-! ## The restore -/

/-- What the end of the restore means. -/
def Finished : Except RestoreMessage RestoreResult → Watch → Prop
  | .ok _, w => w.steps = windowsRestorePlan
  | .error message, w =>
    w.steps.length < windowsRestorePlan.length ∧
      (message.english = [] → w.stopped = true ∧ w.untouched = true)

/-- Closing the disk leaves the notes as they are, but that it is closed. -/
theorem closeRawDisk_surely {handle : Handle} {r : Except RestoreMessage RestoreResult} {w : Watch}
    (h : Finished r w) (hopen : w.closed = false) :
    (service installed fuel (.closeRawDisk handle)).Surely (monitor Watch.after)
      (fun w o ans _ => Allowed w ⟨o, ans⟩) (fun c w => c = .ok () ∧ Finished r w) w := by
  rintro ans _ rfl
  refine ⟨⟨nofun, nofun, nofun, nofun, hopen⟩, rfl, ?_⟩
  have hsteps : (w.after (⟨ServiceOp.closeRawDisk handle, ans⟩ :
      Event (ServiceI installed fuel))).steps = w.steps := List.append_nil _
  have huntouched : (w.after (⟨ServiceOp.closeRawDisk handle, ans⟩ :
      Event (ServiceI installed fuel))).untouched = w.untouched := Bool.and_true _
  have hstopped : (w.after (⟨ServiceOp.closeRawDisk handle, ans⟩ :
      Event (ServiceI installed fuel))).stopped = w.stopped := Bool.and_true _
  cases r with
  | ok _ => exact hsteps.trans h
  | error message =>
    refine ⟨hsteps ▸ h.1, fun hnil => ?_⟩
    rw [hstopped, huntouched]
    exact h.2 hnil

/-- Every call of a restore is allowed by what came before it, and the end is one that was
promised. -/
theorem restore_surely :
    (restore request : Prog (ServiceI installed fuel) _ _).Surely (monitor Watch.after)
      (fun w o ans _ => Allowed w ⟨o, ans⟩) Finished {} := by
  unfold restore
  refine Surely.bind (verifyDisk_follows request) ?_ ?_
  · rintro ⟨disk, allocationUnitSize, _⟩ _ ⟨rfl, rfl⟩
    refine Surely.bind (openDrive_follows request disk) ?_ ?_
    · rintro ⟨rawDisk, _⟩ _ ⟨rfl, rfl⟩
      refine Surely.withCleanup (restoreOpened_follows request disk rawDisk _ false) ?_
      intro r w hends
      cases r with
      | ok result =>
        obtain rfl := hends
        exact closeRawDisk_surely rfl rfl
      | error message => exact closeRawDisk_surely ⟨hends.unfinished, hends.explained⟩ hends.unclosed
    · intro message w hstopped
      exact ⟨hstopped.unfinished, hstopped.explained⟩
  · intro message w hstopped
    exact ⟨hstopped.unfinished, hstopped.explained⟩

/-- Every run of the restore, whether it ended or not. The steps are those of the plan, in order, and
all of them if and only if the restore succeeded. No call comes after the disk was closed; one that
changes it comes after the first destructive step, and one that goes by the number of the disk or by
a volume comes after the one open handle has passed for the selected disk. A failure without a message
is a stop at a checkpoint, before anything was changed. -/
theorem restore_run {t : List (Event (ServiceI installed fuel))}
    {r : Option (Except RestoreMessage RestoreResult)} (h : Runs (restore request) t r) :
    (stepsOf t <+: windowsRestorePlan ∧
      ∀ result, r = some result →
        (stepsOf t = windowsRestorePlan ↔ ∃ restored, result = .ok restored)) ∧
    (∀ before e after, t = before ++ e :: after →
      (changesDisk e.op = true →
        firstDestructiveStepOf windowsRestorePlan ≤ (stepsOf before).length) ∧
      (needsIdentity e.op = true → Confirmed before) ∧
      ((openedHandle e).isSome = true → ∀ e' ∈ before, openedHandle e' = none) ∧
      ∀ e' ∈ before, closes e'.op = false) ∧
    ∀ message, r = some (.error message) → message.english = [] →
      StoppedAtCheckpoint t ∧ Untouched t := by
  obtain ⟨hcalls, hresult⟩ := (restore_surely request).safely.monitored h
  replace hcalls : ∀ before e after, t = before ++ e :: after → Allowed (watch before) e := hcalls
  replace hresult : ∀ x, r = some x → Finished x (watch t) := hresult
  refine ⟨⟨stepsOf_isPrefix fun before e after ht step hstep => ?_, fun result hr => ?_⟩,
    fun before e after ht => ?_, fun message hr hnil => ?_⟩
  · rw [← watch_steps]
    exact (hcalls before e after ht).step step hstep
  · have hfinished := hresult result hr
    rw [← watch_steps]
    cases result with
    | ok restored => exact ⟨fun _ => ⟨restored, rfl⟩, fun _ => hfinished⟩
    | error message =>
      refine ⟨fun hwhole => ?_, nofun⟩
      have hunfinished := hfinished.1
      rw [hwhole] at hunfinished
      exact absurd hunfinished (Nat.lt_irrefl _)
  · have hallowed := hcalls before e after ht
    refine ⟨fun hchanges => ?_, fun hneeds => watch_confirmed _ (hallowed.confirmed hneeds),
      fun hopens => watch_handle_none _ (hallowed.oneHandle hopens),
      watch_closed _ hallowed.unclosed⟩
    rw [← watch_steps]
    exact hallowed.announced hchanges
  · obtain ⟨hstopped, huntouched⟩ := (hresult _ hr).2 hnil
    exact ⟨watch_stopped t hstopped, watch_untouched t huntouched⟩

end

end WindowsDiskService

/-! ### A stick -/

namespace WindowsStick

open SmallStick Prog

/-- Serial numbers of ASCII characters. -/
scoped instance asciiSerial : SerialCharacters where
  isLetterOrNumber c := (48 ≤ c && c ≤ 57) || (65 ≤ c && c ≤ 90) || (97 ≤ c && c ≤ 122)
  toUpper c := if 97 ≤ c && c ≤ 122 then c - 32 else c

def disk : DiskInfo :=
  { deviceId := QStringLiteral "\\\\.\\PHYSICALDRIVE1", number := 1, busType := UsbBusType,
    name := QStringLiteral "Stick", size := 8388608 }

def request : RestoreRequest := { disk, volumeLabel := QStringLiteral "USB" }

/-- A descriptor on the USB bus without a serial number, as long as it says. -/
def descriptor : QByteArray :=
  Bytes.ofList ([0, 0, 0, 0, 40, 0, 0, 0] ++ List.replicate 20 0 ++ [7, 0, 0, 0] ++ List.replicate 8 0)

def winAnswers : (o : WinOp) → o.Ans
  | .formatMessage _ => ([] : QString)
  | .createFile _ _ => .ok 3
  | .closeHandle _ => ()
  | .volumeDiskExtents _ _ => .error 1
  | .volumeIsOffline _ => true
  | .lockVolume _ => .error 1
  | .dismountVolume _ => .error 1
  | .deleteVolumeMountPoint _ => .error 1
  | .logicalDrives => (0 : Dword)
  | .findFirstVolume => none
  | .findNextVolume _ => none
  | .findVolumeClose _ => ()
  | .volumePathNames _ => none
  | .reporter (.step _ _) => ()
  | .reporter (.detail _) => ()
  | .reporter .cancelRequested => false

/-- The layout has no partitions. -/
def rawAnswers : (o : RawOp) → o.Ans
  | .win o => winAnswers o
  | .setFilePointerEx _ _ => .ok ()
  | .writeFile _ data => .ok (UInt32.ofNat data.size)
  | .sleep _ => ()
  | .flushFileBuffers _ => .ok ()
  | .updateProperties _ => .ok ()
  | .driveLayout _ bytes => .ok (48, Bytes.zeros bytes)
  | .storageProperty _ bytes => .ok (UInt32.ofNat bytes, descriptor)

def deviceAnswers : (o : DeviceOp) → o.Ans
  | .raw o => rawAnswers o
  | .deviceNumber _ => .ok { deviceType := 7, deviceNumber := 1, partitionNumber := 0 }
  | .lengthInfo _ => .ok disk.size
  | .driveGeometry _ => .ok disk.sectorSize
  | .isWritable _ => .ok ()
  | .allowExtendedDasdIo _ => .ok ()
  | .createDisk _ _ => .ok ()
  | .setDriveLayout _ _ => .ok ()
  | .createGuid => some ⟨1, 2, 3, [4, 5, 6, 7, 8, 9, 10, 11]⟩

def volume : QString := QStringLiteral "volume"

def serviceAnswers : (o : ServiceOp) → Option (o.Ans Catalog.english 9)
  | .diskByNumber _ => some (some disk, none)
  | .openRawDisk _ => outcomeOf (I := DeviceI) deviceAnswers _
  | .verifyIdentity _ _ => outcomeOf (I := DeviceI) deviceAnswers _
  | .refreshDisk _ => some (true, none)
  | .dismountUnletteredVolumesOnDisk _ => some (true, none)
  | .removeMountPointsForDisk _ _ => some (true, none)
  | .deletePartitionsForDisk _ => some (some false, none)
  | .partitionVolumeDevices _ => some ([] : List QString)
  | .replaceLayoutWithEmptyGpt _ => outcomeOf (I := DeviceI) deviceAnswers _
  | .waitForVolumesToLeaveDisk _ _ _ => some true
  | .lock _ => outcomeOf (I := DeviceI) deviceAnswers _
  | .allowExtendedIo _ => outcomeOf (I := DeviceI) deviceAnswers _
  | .refreshLayout _ => outcomeOf (I := DeviceI) deviceAnswers _
  | .clearPartitionSignatures _ _ _ => outcomeOf (I := RawI) rawAnswers _
  | .setRaw _ => outcomeOf (I := DeviceI) deviceAnswers _
  | .createSinglePartition _ _ _ _ _ => outcomeOf (I := DeviceI) deviceAnswers _
  | .waitForVolumeOnDisk _ _ => some (volume, none)
  | .volumePathBelongsToDisk _ _ => some (true, none)
  | .mountVolume _ => some (QStringLiteral "E:\\", none)
  | .formatVolume _ _ _ _ _ _ => some (true, none)
  | .closeRawDisk _ => some ()
  | .reporter (.step _ _) => some ()
  | .reporter (.detail _) => some ()
  | .reporter .cancelRequested => some false

def run : List (Event (ServiceI Catalog.english 9)) × Option (Except RestoreMessage RestoreResult) :=
  (WindowsDiskService.restore request).follow serviceAnswers

theorem run_follows : Runs (WindowsDiskService.restore request) run.1 run.2 := follow_runs _ _

end WindowsStick

namespace WindowsDiskService

open SmallStick WindowsStick in
/-- A whole restore of the stick, in which the handle had passed before the volume was formatted. -/
theorem restore_run_stick :
    stepsOf WindowsStick.run.1 = windowsRestorePlan ∧
      ∃ before e after, WindowsStick.run.1 = before ++ e :: after ∧ needsIdentity e.op = true ∧
        Confirmed before := by
  obtain ⟨⟨_, hsteps⟩, hcalls, _⟩ := restore_run WindowsStick.request WindowsStick.run_follows
  have hsuccess : (WindowsStick.run.2.bind Except.toOption).isSome = true := by decide +kernel
  have hasked : WindowsStick.run.1.any (fun e => needsIdentity e.op) = true := by decide +kernel
  constructor
  · cases hresult : WindowsStick.run.2 with
    | none =>
      rw [hresult] at hsuccess
      cases hsuccess
    | some result =>
      rw [hresult] at hsuccess
      cases result with
      | ok restored => exact (hsteps _ hresult).mpr ⟨restored, rfl⟩
      | error message => cases hsuccess
  · obtain ⟨e, he, hneeds⟩ := List.any_eq_true.mp hasked
    obtain ⟨before, after, ht⟩ := List.append_of_mem he
    exact ⟨before, e, after, ht, hneeds, (hcalls before e after ht).2.1 hneeds⟩

end WindowsDiskService

end UsbRestore
