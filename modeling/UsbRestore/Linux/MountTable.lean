-- SUMMARY: Only mounts of the disk are detached, where no other mount is stacked on one of them.
import UsbRestore.Base.Machine
import UsbRestore.Linux.ProtectedMounts
import UsbRestore.Linux.UnmountOrder

/-!
# The mount table

Ownership is decided for each entry of the table by its device number, and the detach is by path: it
takes the mount that was listed last there. Where that mount is always one of the disk's, the loop
detaches the mounts of the disk and no other, from the deepest up.
-/

namespace UsbRestore

open Prog

/-! ## The table as the kernel keeps it -/

def MountinfoPath : QString := QStringLiteral "/proc/self/mountinfo"

/-- The directory `path` lies beneath `ancestor`. -/
def LiesBeneath (path ancestor : QString) : Prop :=
  path ≠ ancestor ∧
    (if ancestor = QStringLiteral "/" then ancestor else ancestor ++ QStringLiteral "/") <+: path

theorem LiesBeneath.length_lt {path ancestor : QString} (h : LiesBeneath path ancestor) :
    ancestor.length < path.length := by
  obtain ⟨hne, rest, hrest⟩ := h
  split at hrest
  · refine Nat.lt_of_le_of_ne (by simp [← hrest]) fun hlength => hne ?_
    rw [← hrest] at hlength ⊢
    simpa using hlength
  · rw [← hrest, List.append_assoc, List.length_append]
    exact Nat.lt_add_of_pos_right (Nat.succ_pos _)

/-- `gone` was listed last at `path`, nothing was mounted in it, and it is no longer there. -/
def Detaches (table : List MountEntry) (path : QString) (gone : MountEntry)
    (table' : List MountEntry) : Prop :=
  ∃ before after, table = before ++ gone :: after ∧ table' = before ++ after ∧
    gone.mountPoint = path ∧
    ∀ mount ∈ after, mount.mountPoint ≠ path ∧ ¬LiesBeneath mount.mountPoint path

/-- The kernel's mount table while the backend runs. The device attributes do not change; other
programs mount and unmount while the device is opened and while the backend sleeps, and leave one of
the tables `others`. -/
def mountStep (sysfs : LinuxSnapshot) (others : List MountEntry → Prop) :
    Machine LinuxI (List MountEntry) := fun table o ans table' =>
  match o, ans with
  | .sys (.readFile path), text =>
    table' = table ∧
      if path = MountinfoPath then ∀ mountinfo, text = some mountinfo → parseMounts mountinfo = table
      else text = sysfs (.sys (.readFile path))
  | .sys (.entryList path filter), names =>
    table' = table ∧ names = sysfs (.sys (.entryList path filter))
  | .sys (.pathExists path), present =>
    table' = table ∧ present = sysfs (.sys (.pathExists path))
  | .sys (.umount path), .ok () => ∃ gone, Detaches table path gone table'
  | .sys (.umount path), .error errorNumber =>
    table' = table ∧ (errorNumber = Errno.EINVAL ∨ errorNumber = Errno.ENOENT →
      ∀ mount ∈ table, mount.mountPoint ≠ path)
  | .sys (.openNode _ _), _ => table' = table ∨ others table'
  | .sys (.msleep _), _ => table' = table ∨ others table'
  | _, _ => table' = table

/-- No mount of another device is listed after a mount of the disk at the same place. -/
def Unstacked (owned : List DeviceNumber) (table : List MountEntry) : Prop :=
  table.Pairwise fun earlier later => earlier.device ∈ owned →
    later.mountPoint = earlier.mountPoint → later.device ∈ owned

/-- What is detached is a mount of the disk, and no mount of the disk lies beneath it. -/
def DetachesOwn (owned : List DeviceNumber) (table : List MountEntry) (o : LinuxOp) (_ : o.Ans)
    (table' : List MountEntry) : Prop :=
  ∀ path, o = .sys (.umount path) →
    (∀ gone, Detaches table path gone table' → gone.device ∈ owned) ∧
      ∀ mount ∈ table, mount.device ∈ owned → ¬LiesBeneath mount.mountPoint path

/-! ## Mounts of the disk -/

section Counting

variable {owned : List DeviceNumber} {table table' : List MountEntry}

/-- How many mounts of the disk are at the place. -/
def countOwned (owned : List DeviceNumber) (path : QString) (mounts : List MountEntry) : Nat :=
  mounts.countP fun mount => mount.device ∈ owned ∧ mount.mountPoint = path

theorem countOwned_pos {path : QString} {mounts : List MountEntry} :
    0 < countOwned owned path mounts ↔
      ∃ mount ∈ mounts, mount.device ∈ owned ∧ mount.mountPoint = path := by
  simp [countOwned, List.countP_pos_iff]

/-- An order of the mounts changes none of the counts. -/
theorem countOwned_perm {mounts mounts' : List MountEntry} (h : mounts.Perm mounts')
    (path : QString) : countOwned owned path mounts = countOwned owned path mounts' :=
  h.countP_eq _

theorem countOwned_cons_of_mem {mount : MountEntry} (h : mount.device ∈ owned) (path : QString)
    (mounts : List MountEntry) :
    countOwned owned path (mount :: mounts) =
      countOwned owned path mounts + if mount.mountPoint = path then 1 else 0 := by
  simp [countOwned, List.countP_cons, h]

theorem countOwned_cons_of_notMem {mount : MountEntry} (h : mount.device ∉ owned) (path : QString)
    (mounts : List MountEntry) :
    countOwned owned path (mount :: mounts) = countOwned owned path mounts := by
  simp [countOwned, h]

theorem Detaches.place {path : QString} {gone : MountEntry} (h : Detaches table path gone table') :
    gone.mountPoint = path := by
  obtain ⟨_, _, _, _, hpath, _⟩ := h
  exact hpath

/-- What was there is what is left, and the mount that is gone. -/
theorem Detaches.perm {path : QString} {gone : MountEntry} (h : Detaches table path gone table') :
    table.Perm (gone :: table') := by
  obtain ⟨before, after, rfl, rfl, _⟩ := h
  exact List.perm_middle

/-- One detach takes one mount. -/
theorem Detaches.unique {path : QString} {gone gone' : MountEntry}
    (h : Detaches table path gone table') (h' : Detaches table path gone' table') : gone = gone' := by
  have hcount := (h.perm.symm.trans h'.perm).count_eq gone
  rw [List.count_cons_self, List.count_cons, Nat.add_left_cancel_iff] at hcount
  by_contra hne
  rw [if_neg (by simpa using Ne.symm hne)] at hcount
  cases hcount

/-- A detach stacks no mount on another. -/
theorem Unstacked.detach {path : QString} {gone : MountEntry} (h : Unstacked owned table)
    (hdetach : Detaches table path gone table') : Unstacked owned table' := by
  obtain ⟨before, after, rfl, rfl, _⟩ := hdetach
  exact h.sublist (List.Sublist.append_left (List.sublist_cons_self gone after) before)

/-- Where a mount of the disk is at the place, the mount listed last there is one. -/
theorem Unstacked.detaches_owned {path : QString} {gone : MountEntry} (h : Unstacked owned table)
    (hdetach : Detaches table path gone table') (hpos : 0 < countOwned owned path table) :
    gone.device ∈ owned := by
  obtain ⟨before, after, rfl, _, hpath, hlast⟩ := hdetach
  obtain ⟨mount, hmem, howned, hmount⟩ := countOwned_pos.mp hpos
  rcases List.mem_append.mp hmem with hbefore | hmem
  · refine (List.pairwise_append.mp h).2.2 mount hbefore gone List.mem_cons_self howned ?_
    rw [hpath, hmount]
  · rcases List.mem_cons.mp hmem with rfl | hafter
    · exact howned
    · exact absurd hmount (hlast mount hafter).1

end Counting

/-! ## The device numbers -/

/-- A read of the device attributes, which the mount table has no part in. -/
def LinuxOp.SysfsRead : LinuxOp → Prop
  | .sys (.readFile path) => path ≠ MountinfoPath
  | .sys (.entryList _ _) => True
  | .sys (.pathExists _) => True
  | _ => False

section Numbers

variable {ε : Type}

theorem keepPartitions_sysfs (dir : QString) (entries : List QString) :
    (keepPartitions dir entries : Prog LinuxI ε (List QString)).Satisfies
      LinuxOp.SysfsRead Returns := by
  induction entries with
  | nil => exact .returns _
  | cons entry entries ih => exact .call trivial fun _ => .seq ih fun _ => .returns _

theorem readDeviceNumber_sysfs {path rest : QString} (h : path = SysBlock ++ rest) :
    (readDeviceNumber path : Prog LinuxI ε DeviceNumber).Satisfies LinuxOp.SysfsRead Returns := by
  subst h
  have hpath : (QStringLiteral "%1/dev").arg [SysBlock ++ rest] ≠ MountinfoPath := by
    intro h
    cases h
  exact .seq (.call hpath fun _ => .returns _) fun _ => .returns _

theorem readPartitionNumbers_sysfs (diskName : QString) (partitions : List QString) :
    (readPartitionNumbers diskName partitions : Prog LinuxI ε (List DeviceNumber)).Satisfies
      LinuxOp.SysfsRead Returns := by
  induction partitions with
  | nil => exact .returns _
  | cons partition partitions ih =>
    exact .seq (readDeviceNumber_sysfs rfl) fun _ => .seq ih fun _ => .returns _

/-- The device numbers are read from the attributes alone. -/
theorem deviceNumbersOnDisk_sysfs (diskName : QString) :
    (deviceNumbersOnDisk diskName : Prog LinuxI ε (List DeviceNumber)).Satisfies
      LinuxOp.SysfsRead Returns :=
  .seq (readDeviceNumber_sysfs rfl) fun _ =>
    .seq (.call trivial fun _ => .seq (keepPartitions_sysfs _ _) fun _ => .returns _) fun _ =>
      .seq (readPartitionNumbers_sysfs _ _) fun _ => .returns _

end Numbers

/-! ## One run -/

section

variable [Host] {sysfs : LinuxSnapshot} {others : List MountEntry → Prop}
  {owned : List DeviceNumber} {table : List MountEntry}

/-- The mounts of the disk that are still to be unmounted are those in the table. -/
theorem unmountEach_safely (installed : Catalog) (disk : DiskInfo) {mounts : List MountEntry}
    (hsorted : mounts.Pairwise fun left right => right.mountPoint.length ≤ left.mountPoint.length)
    (htable : Unstacked owned table)
    (hleft : ∀ path, countOwned owned path table = countOwned owned path mounts) :
    (unmountEach installed disk owned mounts).Safely (mountStep sysfs others) (DetachesOwn owned)
      (onOk fun _ => Unstacked owned) table := by
  induction mounts generalizing table with
  | nil => exact htable
  | cons mount mounts ih =>
    obtain ⟨hdeepest, hsorted⟩ := List.pairwise_cons.mp hsorted
    unfold unmountEach
    split_ifs with howned
    · trivial
    · refine .call fun _ table' hstep => ⟨by rintro _ ⟨⟩, ?_⟩
      obtain rfl : table = table' := Eq.symm hstep
      refine .call fun ans table' hstep => ?_
      have hpos : 0 < countOwned owned mount.mountPoint table := by
        rw [hleft]
        exact countOwned_pos.mpr ⟨mount, List.mem_cons_self, howned, rfl⟩
      -- What lies beneath has a longer path, and comes before.
      have hbeneath : ∀ other ∈ table, other.device ∈ owned →
          ¬LiesBeneath other.mountPoint mount.mountPoint := by
        intro other hmem hother hbeneath
        have hcount : 0 < countOwned owned other.mountPoint (mount :: mounts) := by
          rw [← hleft]
          exact countOwned_pos.mpr ⟨other, hmem, hother, rfl⟩
        obtain ⟨later, hlater, _, hplace⟩ := countOwned_pos.mp hcount
        have hlength := hbeneath.length_lt
        rw [← hplace] at hlength
        rcases List.mem_cons.mp hlater with rfl | hlater
        · exact Nat.lt_irrefl _ hlength
        · exact Nat.not_le_of_lt hlength (hdeepest later hlater)
      cases ans with
      | ok _ =>
        obtain ⟨gone, hdetach⟩ := hstep
        have hgone := htable.detaches_owned hdetach hpos
        refine ⟨?_, ih hsorted (htable.detach hdetach) fun path => ?_⟩
        · rintro path ⟨⟩
          refine ⟨fun other hother => ?_, hbeneath⟩
          rwa [hother.unique hdetach]
        · have hbefore := hleft path
          rw [countOwned_perm hdetach.perm, countOwned_cons_of_mem hgone,
            countOwned_cons_of_mem howned, hdetach.place] at hbefore
          exact Nat.add_right_cancel hbefore
      | error errorNumber =>
        obtain ⟨htable', hgone⟩ := hstep
        obtain rfl : table = table' := htable'.symm
        refine ⟨?_, ?_⟩
        · rintro path ⟨⟩
          refine ⟨fun other hother => ?_, hbeneath⟩
          exact absurd hother.perm.length_eq (Nat.ne_of_lt (Nat.lt_succ_self _))
        · dsimp only
          split_ifs with herror
          · -- The mount is in the table, so it is not already gone.
            obtain ⟨other, hmem, _, hplace⟩ := countOwned_pos.mp hpos
            exact absurd hplace (hgone herror other hmem)
          · trivial
    · refine ih hsorted htable fun path => ?_
      rw [hleft, countOwned_cons_of_notMem howned]

omit [Host] in
/-- What the mount table is read as, where it can be read. -/
theorem mountStep_mountinfo {text : Option QString} {table' : List MountEntry}
    (h : mountStep sysfs others table (.sys (.readFile MountinfoPath)) text table') :
    table' = table ∧ ∀ mountinfo, text = some mountinfo → parseMounts mountinfo = table :=
  ⟨h.1, Eq.mp (if_pos rfl) h.2⟩

omit [Host] in
/-- The device numbers, as the attributes show them. -/
theorem deviceNumbersOnDisk_safely (disk : DiskInfo)
    (howned : (deviceNumbersOnDisk (QString.fileName disk.deviceId) :
      Prog LinuxI RestoreMessage _).eval sysfs = some (.ok owned)) :
    (deviceNumbersOnDisk (QString.fileName disk.deviceId) :
      Prog LinuxI RestoreMessage _).Safely (mountStep sysfs others) (DetachesOwn owned)
      (onOk fun numbers table' => numbers = owned ∧ table' = table) table := by
  refine (Safely.of_eval (deviceNumbersOnDisk_sysfs _) (fun o ans table' ho hstep => ?_)
    howned).mono ?_
  · cases o with
    | reporter o => cases ho
    | sys o =>
      cases o with
      | readFile path =>
        obtain ⟨htable', hanswer⟩ := hstep
        rw [if_neg ho] at hanswer
        exact ⟨nofun, hanswer, htable'⟩
      | entryList path filter => exact ⟨nofun, hstep.2, hstep.1⟩
      | pathExists path => exact ⟨nofun, hstep.2, hstep.1⟩
      | _ => cases ho
  · rintro r table' ⟨rfl, rfl⟩
    exact ⟨rfl, rfl⟩

/-- One run: it reads the table, and then detaches only mounts of the disk. -/
theorem unmountDiskBy_safely {sort : List MountEntry → List MountEntry}
    (hsort : SortsDeepestFirst sort) (installed : Catalog) (disk : DiskInfo)
    (howned : (deviceNumbersOnDisk (QString.fileName disk.deviceId) :
      Prog LinuxI RestoreMessage _).eval sysfs = some (.ok owned)) (htable : Unstacked owned table) :
    (unmountDiskBy sort installed disk).Safely (mountStep sysfs others) (DetachesOwn owned)
      (onOk fun _ => Unstacked owned) table := by
  unfold unmountDiskBy
  refine .seq (Q := fun mounts table' => (mounts = table ∨ mounts = []) ∧ table' = table) ?_ ?_
  · refine .call fun text table' hstep => ⟨nofun, ?_⟩
    obtain ⟨htable', hparse⟩ := mountStep_mountinfo hstep
    cases text with
    | none => exact ⟨.inr rfl, htable'⟩
    | some mountinfo => exact ⟨.inl (hparse mountinfo rfl), htable'⟩
  · rintro mounts table' ⟨hmounts, rfl⟩
    refine .seq (deviceNumbersOnDisk_safely disk howned) ?_
    rintro numbers table'' ⟨rfl, rfl⟩
    obtain ⟨hperm, hsorted⟩ := hsort mounts
    rcases hmounts with rfl | rfl
    · exact unmountEach_safely installed disk hsorted htable (countOwned_perm hperm.symm)
    · rw [hperm.eq_nil]
      exact htable

/-! ## The runs of a restore -/

def unmountAgainBy (sort : List MountEntry → List MountEntry) (installed : Catalog)
    (disk : DiskInfo) (attempt : Nat) : Prog LinuxI RestoreMessage Unit := do
  if attempt = 0 then return ()
  else
    Reporter.detail
      ((QStringLiteral "The drive is still in use; unmounting it and trying again (attempt %1 of 3)").arg
        [.number (attempt + 1)])
    unmountDiskBy sort installed disk
    Sys.msleep 500

def openExclusivelyBy (sort : List MountEntry → List MountEntry) (installed : Catalog)
    (disk : DiskInfo) :
    (remaining : Nat) → (attempt : Nat) → (openError : RestoreMessage) →
      Prog LinuxI RestoreMessage Fd
  | 0, _, openError => .fail openError
  | remaining + 1, attempt, _ => do
    unmountAgainBy sort installed disk attempt
    let (opened, _) ← BlockDevice.open installed { devicePath := disk.deviceId } .exclusive
    match opened with
    | .ok fd => return fd
    | .error openError =>
      openExclusivelyBy sort installed disk remaining (attempt + 1) openError

/-- The attempts of the model are those for one of the orders. -/
theorem openExclusively_eq (installed : Catalog) (disk : DiskInfo) (remaining attempt : Nat)
    (openError : RestoreMessage) :
    openExclusively installed disk remaining attempt openError =
      openExclusivelyBy deepestFirst installed disk remaining attempt openError := by
  induction remaining generalizing attempt openError with
  | zero => rfl
  | succ remaining ih =>
    unfold openExclusively openExclusivelyBy
    simp only [ih]
    rfl

/-- The part of the restore that unmounts: up to three runs, each but the first after an exclusive
open that failed. -/
def unmountAndOpenBy (sort : List MountEntry → List MountEntry) (installed : Catalog)
    (request : RestoreRequest) (disk : DiskInfo) (steps : RestoreStepCounter) :
    Prog LinuxI RestoreMessage (Fd × RestoreStepCounter) := do
  unmountDiskBy sort installed disk
  let steps ← reportPlannedStep installed steps .openExclusive request
  let fd ← openExclusivelyBy sort installed disk 3 0 {}
  return (fd, steps)

/-- The restore around the part that unmounts. -/
theorem performLinuxRestore_eq (installed : Catalog) (fuel : LoopFuel) (request : RestoreRequest) :
    performLinuxRestore installed fuel request = (do
      let (disk, formatTool, steps) ← identifyDisk installed request
      cancelCheckpoint
      let steps ← reportPlannedStep installed steps .unmount request
      let (fd, steps) ← unmountAndOpenBy deepestFirst installed request disk steps
      let (diskSequence, steps) ←
        (restoreExclusively installed fuel request formatTool disk fd steps).withCleanup
          (Sys.close fd)
      let steps ← reportPlannedStep installed steps .waitForPartition request
      let diskName := QString.fileName disk.deviceId
      let partitionPath := devicePathFor (partitionNameFor diskName 1)
      waitForNode partitionPath fuel 0
      if !(← Sys.pathExists partitionPath) then
        .fail ((restoreText installed (QStringLiteral "The new partition did not appear on %1 within %2 seconds. Unplug the drive, plug it back in and run the restore again.")).arg
          [.ofText disk.deviceId, numberMessage (NewPartitionTimeoutMs / 1000)])
      else
        verifyNewPartition installed request diskName partitionPath diskSequence steps
        return { location := partitionPath }) := by
  unfold performLinuxRestore unmountAndOpenBy
  simp only [Prog.bind_assoc, unmountDisk_eq, openExclusively_eq]
  rfl

omit [Host] in
theorem reportPlannedStep_safely (installed : Catalog) (counter : RestoreStepCounter)
    (step : RestoreStep) (request : RestoreRequest) (htable : Unstacked owned table) :
    (reportPlannedStep installed counter step request :
      Prog LinuxI RestoreMessage RestoreStepCounter).Safely (mountStep sysfs others)
      (DetachesOwn owned) (onOk fun _ => Unstacked owned) table := by
  unfold reportPlannedStep
  dsimp only
  split
  · refine .call fun _ table' hstep => ⟨nofun, .call fun _ table'' hstep' => ⟨nofun, ?_⟩⟩
    obtain rfl : table = table' := Eq.symm hstep
    obtain rfl : table = table'' := Eq.symm hstep'
    exact htable
  · refine .call fun _ table' hstep => ⟨nofun, ?_⟩
    obtain rfl : table = table' := Eq.symm hstep
    exact htable

/-- A run after a failed open finds a table that others left. -/
theorem unmountAgainBy_safely {sort : List MountEntry → List MountEntry}
    (hsort : SortsDeepestFirst sort) (installed : Catalog) (disk : DiskInfo)
    (howned : (deviceNumbersOnDisk (QString.fileName disk.deviceId) :
      Prog LinuxI RestoreMessage _).eval sysfs = some (.ok owned))
    (hothers : ∀ table, others table → Unstacked owned table) (attempt : Nat)
    (htable : Unstacked owned table) :
    (unmountAgainBy sort installed disk attempt).Safely (mountStep sysfs others)
      (DetachesOwn owned) (onOk fun _ => Unstacked owned) table := by
  unfold unmountAgainBy
  split_ifs
  · exact htable
  · refine .call fun _ table' hstep => ⟨nofun, ?_⟩
    obtain rfl : table = table' := Eq.symm hstep
    refine .seq (unmountDiskBy_safely hsort installed disk howned htable) fun _ table' htable' => ?_
    refine .call fun _ table'' hstep' => ⟨nofun, ?_⟩
    rcases hstep' with rfl | hother
    · exact htable'
    · exact hothers table'' hother

/-- Opening the device touches no mount; meanwhile others may. -/
theorem open_safely (installed : Catalog) (disk : DiskInfo)
    (hothers : ∀ table, others table → Unstacked owned table) (htable : Unstacked owned table) :
    (BlockDevice.open installed { devicePath := disk.deviceId } .exclusive :
      Prog LinuxI RestoreMessage _).Safely (mountStep sysfs others) (DetachesOwn owned)
      (onOk fun _ => Unstacked owned) table := by
  refine .call fun answered table' hstep => ⟨nofun, ?_⟩
  have htable' : Unstacked owned table' := by
    rcases hstep with rfl | hother
    · exact htable
    · exact hothers table' hother
  cases answered with
  | ok fd => exact htable'
  | error errorNumber =>
    dsimp only
    split_ifs
    · exact htable'
    · exact htable'

/-- All attempts to open the disk, with a run before each but the first. -/
theorem openExclusivelyBy_safely {sort : List MountEntry → List MountEntry}
    (hsort : SortsDeepestFirst sort) (installed : Catalog) (disk : DiskInfo)
    (howned : (deviceNumbersOnDisk (QString.fileName disk.deviceId) :
      Prog LinuxI RestoreMessage _).eval sysfs = some (.ok owned))
    (hothers : ∀ table, others table → Unstacked owned table) (remaining attempt : Nat)
    (openError : RestoreMessage) (htable : Unstacked owned table) :
    (openExclusivelyBy sort installed disk remaining attempt openError).Safely
      (mountStep sysfs others) (DetachesOwn owned) (onOk fun _ => Unstacked owned) table := by
  induction remaining generalizing attempt openError table with
  | zero => trivial
  | succ remaining ih =>
    unfold openExclusivelyBy
    refine .seq (unmountAgainBy_safely hsort installed disk howned hothers attempt htable) ?_
    intro _ table' htable'
    refine .seq (open_safely installed disk hothers htable') ?_
    intro opened table'' htable''
    obtain ⟨verdict, device⟩ := opened
    cases verdict with
    | ok fd => exact htable''
    | error openError => exact ih (attempt + 1) openError htable''

/-- The runs of a restore, one after the other. -/
theorem unmountAndOpenBy_safely {sort : List MountEntry → List MountEntry}
    (hsort : SortsDeepestFirst sort) (installed : Catalog) (request : RestoreRequest)
    (disk : DiskInfo) (steps : RestoreStepCounter)
    (howned : (deviceNumbersOnDisk (QString.fileName disk.deviceId) :
      Prog LinuxI RestoreMessage _).eval sysfs = some (.ok owned))
    (hothers : ∀ table, others table → Unstacked owned table) (htable : Unstacked owned table) :
    (unmountAndOpenBy sort installed request disk steps).Safely (mountStep sysfs others)
      (DetachesOwn owned) (onOk fun _ => Unstacked owned) table := by
  refine .seq (unmountDiskBy_safely hsort installed disk howned htable) fun _ table' htable' => ?_
  refine .seq (reportPlannedStep_safely installed steps .openExclusive request htable') ?_
  intro counter table'' htable''
  refine .seq (openExclusivelyBy_safely hsort installed disk howned hothers 3 0 {} htable'') ?_
  exact fun _ _ h => h

/-- Whatever order the sort leaves: where no mount of another device is ever listed after a mount of
the disk at the same place, every mount that a run detaches is one of the disk's, and no mount of the
disk is attempted before those beneath it are gone. This holds of one run, and of all those that a
restore makes. -/
theorem unmountDisk_detaches_own (sort : List MountEntry → List MountEntry)
    (hsort : SortsDeepestFirst sort) (installed : Catalog) (request : RestoreRequest)
    (disk : DiskInfo) (steps : RestoreStepCounter) (sysfs : LinuxSnapshot)
    (owned : List DeviceNumber)
    (howned : (deviceNumbersOnDisk (QString.fileName disk.deviceId) :
      Prog LinuxI RestoreMessage _).eval sysfs = some (.ok owned))
    (others : List MountEntry → Prop) (hothers : ∀ table, others table → Unstacked owned table)
    (table : List MountEntry) (htable : Unstacked owned table) :
    (∀ before o ans after, Takes (mountStep sysfs others) (unmountDiskBy sort installed disk)
      table before o ans after → DetachesOwn owned before o ans after) ∧
    ∀ before o ans after, Takes (mountStep sysfs others)
      (unmountAndOpenBy sort installed request disk steps) table before o ans after →
      DetachesOwn owned before o ans after := by
  refine ⟨fun before o ans after htakes => ?_, fun before o ans after htakes => ?_⟩
  · exact (unmountDiskBy_safely hsort installed disk howned htable).takes htakes
  · exact (unmountAndOpenBy_safely hsort installed request disk steps howned hothers
      htable).takes htakes

/-! ## A mount stacked on the stick -/

omit [Host] in
theorem deviceNumbersOnDisk_ends (disk : DiskInfo)
    (howned : (deviceNumbersOnDisk (QString.fileName disk.deviceId) :
      Prog LinuxI RestoreMessage _).eval sysfs = some (.ok owned)) :
    Ends (mountStep sysfs others) (deviceNumbersOnDisk (QString.fileName disk.deviceId) :
      Prog LinuxI RestoreMessage _) table (.ok owned) table := by
  refine ends_of_eval (deviceNumbersOnDisk_sysfs _) (fun o ho => ?_) howned
  cases o with
  | reporter o => cases ho
  | sys o =>
    cases o with
    | readFile path => exact ⟨rfl, (if_neg ho).mpr rfl⟩
    | entryList path filter => exact ⟨rfl, rfl⟩
    | pathExists path => exact ⟨rfl, rfl⟩
    | _ => cases ho

omit [Host] in
theorem readMounts_ends {mountinfo : QString} (h : parseMounts mountinfo = table) :
    Ends (mountStep sysfs others) (readMounts : Prog LinuxI RestoreMessage _) table (.ok table)
      table := by
  have hstep : mountStep sysfs others table (.sys (.readFile MountinfoPath)) (some mountinfo)
      table := by
    refine ⟨rfl, (if_pos rfl).mpr ?_⟩
    rintro text ⟨⟩
    exact h
  refine .call hstep ?_
  rw [← h]
  exact .ret _ _

/-- The deepest mount of the disk is attempted first. -/
theorem unmountDisk_takes (installed : Catalog) (disk : DiskInfo) (others : List MountEntry → Prop)
    (howned : (deviceNumbersOnDisk (QString.fileName disk.deviceId) :
      Prog LinuxI RestoreMessage _).eval sysfs = some (.ok owned))
    {mountinfo : QString} (hmountinfo : parseMounts mountinfo = table) {mount gone : MountEntry}
    {rest table' : List MountEntry} (hsorted : deepestFirst table = mount :: rest)
    (hmount : mount.device ∈ owned) (hplain : ¬mount.IsProtected)
    (hdetach : Detaches table mount.mountPoint gone table') :
    Takes (mountStep sysfs others) (unmountDisk installed disk) table table
      (.sys (.umount mount.mountPoint)) (Except.ok ()) table' := by
  rw [unmountDisk_eq]
  refine .later (readMounts_ends hmountinfo) (.later (deviceNumbersOnDisk_ends disk howned) ?_)
  rw [hsorted, unmountEach, if_neg (not_not_intro hmount), if_neg hplain]
  have hdetail : mountStep sysfs others table
      (.reporter (.detail ((QStringLiteral "Unmounting %1").arg [mount.mountPoint]))) () table := rfl
  exact .tail hdetail (.head ⟨gone, hdetach⟩)

end

namespace StackedStick

def stickLine : QString := QStringLiteral "29 1 8:16 / /mnt/usb rw - ext4 /dev/sdb rw\n"

def stickMount : MountEntry := ⟨⟨8, 16⟩, QStringLiteral "/mnt/usb", QStringLiteral "/dev/sdb"⟩

/-- Another device, mounted over the stick. -/
def otherLine : QString := QStringLiteral "30 29 8:32 / /mnt/usb rw - ext4 /dev/sdc rw\n"

def otherMount : MountEntry := ⟨⟨8, 32⟩, QStringLiteral "/mnt/usb", QStringLiteral "/dev/sdc"⟩

def sysfs : LinuxSnapshot := SmallStick.linuxAnswers 1000 0

theorem owned_stick :
    (deviceNumbersOnDisk (QString.fileName SmallStick.disk.deviceId) :
      Prog LinuxI RestoreMessage _).eval sysfs = some (.ok [⟨8, 16⟩]) := rfl

end StackedStick

namespace NestedMounts

open StackedStick

def dataPoint : QString := QStringLiteral "/mnt/usb/data"

def dataLine : QString := QStringLiteral "31 29 8:16 /data /mnt/usb/data rw - ext4 /dev/sdb rw\n"

def dataMount : MountEntry := ⟨⟨8, 16⟩, dataPoint, QStringLiteral "/dev/sdb"⟩

/-- The stick is mounted over another device, and once more beneath its own mount point. -/
def nested : List MountEntry := [otherMount, stickMount, dataMount]

/-- What another program makes of the table while the device is opened. -/
def remounted : List MountEntry := [otherMount, stickMount]

def mountinfo (table : List MountEntry) : Option QString :=
  if table = nested then some (otherLine ++ stickLine ++ dataLine)
  else if table = remounted then some (otherLine ++ stickLine)
  else none

/-- The device can never be opened exclusively, since it is mounted again each time. -/
def answers (table : List MountEntry) : (o : LinuxOp) → o.Ans × List MountEntry
  | .sys (.readFile path) =>
    (if path = MountinfoPath then mountinfo table else sysfs (.sys (.readFile path)), table)
  | .sys (.umount path) =>
    if table = nested ∧ path = dataPoint then (.ok (), remounted)
    else if table = remounted ∧ path = stickMount.mountPoint then (.ok (), [otherMount])
    else (.error Errno.EBUSY, table)
  | .sys (.openNode _ _) => (.error Errno.EBUSY, remounted)
  | o => (sysfs o, table)

theorem parseMounts_mountinfo {table : List MountEntry} {text : QString}
    (h : mountinfo table = some text) : parseMounts text = table := by
  unfold mountinfo at h
  split_ifs at h with hnested hremounted
  · rw [← Option.some.inj h, hnested]
    decide +kernel
  · rw [← Option.some.inj h, hremounted]
    decide +kernel

/-- The kernel of the example is one of those the machine allows. -/
theorem answers_step (table : List MountEntry) (o : LinuxOp) :
    mountStep sysfs (fun table => table = remounted) table o (answers table o).1
      (answers table o).2 := by
  cases o with
  | reporter o => cases o <;> rfl
  | sys o =>
    cases o
    case readFile path =>
      refine ⟨rfl, ?_⟩
      by_cases hpath : path = MountinfoPath
      · rw [if_pos hpath]
        rintro text htext
        exact parseMounts_mountinfo ((if_pos hpath).symm.trans htext)
      · rw [if_neg hpath]
        exact if_neg hpath
    case umount path =>
      by_cases hdata : table = nested ∧ path = dataPoint
      · rw [show answers table (.sys (.umount path)) = _ from if_pos hdata, hdata.1, hdata.2]
        exact ⟨dataMount, remounted, [], rfl, rfl, rfl, by simp⟩
      · by_cases hstick : table = remounted ∧ path = stickMount.mountPoint
        · rw [show answers table (.sys (.umount path)) = _ from
            (if_neg hdata).trans (if_pos hstick), hstick.1, hstick.2]
          exact ⟨stickMount, [otherMount], [], rfl, rfl, rfl, by simp⟩
        · rw [show answers table (.sys (.umount path)) = _ from
            (if_neg hdata).trans (if_neg hstick)]
          exact ⟨rfl, by rintro (h | h) <;> cases h⟩
    case openNode path flags => exact .inr rfl
    case msleep ms => exact .inl rfl
    case entryList path filter => exact ⟨rfl, rfl⟩
    case pathExists path => exact ⟨rfl, rfl⟩
    all_goals rfl

def kernel : Kernel LinuxI (List MountEntry) := fun table o => some (answers table o)

/-- The steps of the unmount of the stick, and of what a restore unmounts. -/
def unmountSteps [Host] : List (List MountEntry × Event LinuxI × List MountEntry) :=
  (unmountDiskBy deepestFirst Catalog.english SmallStick.disk).driveSteps kernel nested

def restoreSteps [Host] : List (List MountEntry × Event LinuxI × List MountEntry) :=
  (unmountAndOpenBy deepestFirst Catalog.english SmallStick.request SmallStick.disk
    { plan := linuxRestorePlan }).driveSteps kernel nested

def unmounted : List MountEntry × Event LinuxI × List MountEntry → Option QString
  | (_, ⟨.sys (.umount path), .ok _⟩, _) => some path
  | _ => none

end NestedMounts

open NestedMounts StackedStick SmallStick in
/-- The mount within the stick goes before the stick, and the device beneath the stick stays; the
stick goes once more after each exclusive open that fails. -/
theorem unmountDisk_detaches_own_small :
    unmountSteps.filterMap unmounted = [dataPoint, stickMount.mountPoint] ∧
    restoreSteps.filterMap unmounted =
      [dataPoint, stickMount.mountPoint, stickMount.mountPoint, stickMount.mountPoint] ∧
    ∀ step ∈ unmountSteps ++ restoreSteps,
      DetachesOwn [⟨8, 16⟩] step.1 step.2.1.op step.2.1.ans step.2.2 := by
  have hnested : Unstacked [⟨8, 16⟩] nested := by
    unfold Unstacked
    decide +kernel
  have hremounted : Unstacked [⟨8, 16⟩] remounted := by
    unfold Unstacked
    decide +kernel
  obtain ⟨honce, hagain⟩ := unmountDisk_detaches_own deepestFirst deepestFirst_sorts
    Catalog.english SmallStick.request SmallStick.disk { plan := linuxRestorePlan } sysfs
    [⟨8, 16⟩] owned_stick (fun table => table = remounted) (fun _ h => h ▸ hremounted) nested
    hnested
  refine ⟨by decide +kernel, by decide +kernel, fun step hstep => ?_⟩
  rcases List.mem_append.mp hstep with hstep | hstep
  · exact honce _ _ _ _ (driveSteps_takes (.of_total answers_step) trivial hstep)
  · exact hagain _ _ _ _ (driveSteps_takes (.of_total answers_step) trivial hstep)

open StackedStick SmallStick in
/-- Another device is mounted over the stick: the detach by path takes that mount. -/
theorem unmountDisk_detaches_stacked :
    ¬∀ (installed : Catalog) (disk : DiskInfo) (sysfs : LinuxSnapshot) (owned : List DeviceNumber)
      (table before after : List MountEntry) (path : QString) (ans : Except Errno Unit)
      (gone : MountEntry),
      (deviceNumbersOnDisk (QString.fileName disk.deviceId) :
        Prog LinuxI RestoreMessage _).eval sysfs = some (.ok owned) →
      Takes (mountStep sysfs fun _ => False) (unmountDisk installed disk) table before
        (.sys (.umount path)) ans after →
      Detaches before path gone after → gone.device ∈ owned := by
  intro hclaim
  have hdetach : Detaches [stickMount, otherMount] (QStringLiteral "/mnt/usb") otherMount
      [stickMount] :=
    ⟨[stickMount], [], rfl, rfl, rfl, nofun⟩
  have htable : parseMounts (stickLine ++ otherLine) = [stickMount, otherMount] := by
    decide +kernel
  have hsorted : deepestFirst [stickMount, otherMount] = [stickMount, otherMount] := rfl
  have htakes := unmountDisk_takes Catalog.english SmallStick.disk (fun _ => False) owned_stick
    htable hsorted List.mem_cons_self (by decide +kernel) hdetach
  have howned := hclaim _ _ _ _ _ _ _ _ _ otherMount owned_stick htakes hdetach
  exact absurd howned (by decide)

end UsbRestore
