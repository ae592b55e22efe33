-- SUMMARY: The disk behind a protected mount is refused, whichever way the mount names it.
import UsbRestore.Base.Snapshot
import UsbRestore.Core.SafetyFacts
import UsbRestore.Linux.Enumerate
import UsbRestore.Linux.UnplugBoundary

/-!
# Disks behind protected mounts

A mount names its disk by a device number and by its source, and either may say nothing: a file
system of several devices has a number of its own, and a source need not be a node. The enumeration
finds the mount points of a disk by number, and the guard finds the disks of protected mounts by
source. Between them, read in one state of the system, every disk that a protected mount names in
either way is refused.
-/

namespace UsbRestore

open Prog

/-! ## Snapshots of the system -/

/-- One state of what the backend can read. -/
abbrev LinuxSnapshot := (o : LinuxOp) → o.Ans

namespace LinuxSnapshot

variable (snapshot : LinuxSnapshot)

/-- The mount table. -/
def mounts : List MountEntry :=
  let text : Option QString := snapshot (.sys (.readFile (QStringLiteral "/proc/self/mountinfo")))
  parseMounts (text.getD [])

/-- The names under `/sys/block`. -/
def disks : List QString := snapshot (.sys (.entryList SysBlock .dirs))

/-- Whether `disk` has a directory `name` with a `partition` attribute. -/
def hasPartition (disk name : QString) : Bool :=
  snapshot (.sys (.pathExists ((QStringLiteral "%1/%2/%3/partition").arg [SysBlock, disk, name])))

end LinuxSnapshot

def IsFileName (name : QString) : Prop := name ≠ [] ∧ QChar.ofChar '/' ∉ name

/-- The disks with the names of their partitions. No other disk uses the name of a partition. -/
structure SysfsTree where
  disks : List QString
  partitions : QString → List QString
  diskNames : ∀ disk ∈ disks, IsFileName disk
  partitionNames : ∀ disk ∈ disks, ∀ name ∈ partitions disk, IsFileName name
  unique : ∀ disk ∈ disks, ∀ other ∈ disks, ∀ name ∈ partitions disk,
    name = other ∨ name ∈ partitions other → disk = other

/-- What the snapshot shows of block devices is the tree. -/
structure SysfsTree.ShownBy (tree : SysfsTree) (snapshot : LinuxSnapshot) : Prop where
  disks : ∀ name, name ∈ snapshot.disks ↔ name ∈ tree.disks
  partitions : ∀ disk ∈ tree.disks, ∀ name, IsFileName name →
    (snapshot.hasPartition disk name = true ↔ name ∈ tree.partitions disk)

/-! ## The disk of a node -/

section

variable {ε : Type} {snapshot : LinuxSnapshot} {tree : SysfsTree}

/-- The first disk that has the name among its partitions. -/
theorem parentAmong_eval (name : QString) (disks : List QString) :
    (parentAmong name disks : Prog LinuxI ε QString).eval snapshot =
      some (.ok ((disks.find? fun disk =>
        name ≠ disk && snapshot.hasPartition disk name).getD [])) := by
  induction disks with
  | nil => rfl
  | cons disk disks ih =>
    unfold parentAmong
    by_cases hname : name = disk
    · rw [if_pos hname, List.find?_cons_of_neg (by simp [hname])]
      exact ih
    rw [if_neg hname]
    refine (eval_call (I := LinuxI) _ _).trans ?_
    by_cases hpresent : snapshot.hasPartition disk name = true
    · rw [List.find?_cons_of_pos (by simp [hname, hpresent])]
      exact congrArg (Prog.eval (I := LinuxI) snapshot) (if_pos hpresent)
    · rw [List.find?_cons_of_neg (by simp [hpresent])]
      exact (congrArg (Prog.eval (I := LinuxI) snapshot) (if_neg hpresent)).trans ih

theorem parentDiskName_eval (snapshot : LinuxSnapshot) (name : QString) :
    (parentDiskName name : Prog LinuxI ε QString).eval snapshot =
      some (.ok ((snapshot.disks.find? fun disk =>
        name ≠ disk && snapshot.hasPartition disk name).getD [])) :=
  parentAmong_eval name snapshot.disks

/-- The node of a disk or of one of its partitions leads to the disk. -/
theorem SysfsTree.ShownBy.parent (h : tree.ShownBy snapshot) {disk name : QString}
    (hdisk : disk ∈ tree.disks) (hname : name = disk ∨ name ∈ tree.partitions disk) :
    ∃ parent, (parentDiskName name : Prog LinuxI ε QString).eval snapshot = some (.ok parent) ∧
      (if parent.isEmpty then name else parent) = disk := by
  refine ⟨_, parentDiskName_eval snapshot name, ?_⟩
  have hfile : IsFileName name := by
    rcases hname with rfl | hpartition
    · exact tree.diskNames _ hdisk
    · exact tree.partitionNames disk hdisk name hpartition
  cases hfind : snapshot.disks.find? fun disk =>
      name ≠ disk && snapshot.hasPartition disk name with
  | none =>
    rcases hname with rfl | hpartition
    · rfl
    · have hnone := List.find?_eq_none.mp hfind disk ((h.disks disk).mpr hdisk)
      rw [(h.partitions disk hdisk name hfile).mpr hpartition] at hnone
      simpa using hnone
  | some other =>
    have hother : other ∈ tree.disks := (h.disks other).mp (List.mem_of_find?_eq_some hfind)
    have hfound := List.find?_some hfind
    rw [Bool.and_eq_true, decide_eq_true_eq, h.partitions other hother name hfile] at hfound
    obtain rfl : other = disk := tree.unique other hother disk hdisk name hfound.2 hname
    have hne : other.isEmpty = false := by simpa using (tree.diskNames other hother).1
    exact if_neg (by simp [hne])

/-! ## The guard -/

theorem mem_once {a b : QString} {found : List QString} :
    a ∈ (if b ∈ found then found else found ++ [b]) ↔ a ∈ found ∨ a = b := by
  by_cases hb : b ∈ found
  · rw [if_pos hb]
    refine ⟨.inl, ?_⟩
    rintro (ha | rfl)
    · exact ha
    · exact hb
  · rw [if_neg hb, List.mem_append, List.mem_singleton]

theorem readMounts_eval :
    (readMounts : Prog LinuxI ε (List MountEntry)).eval snapshot = some (.ok snapshot.mounts) := rfl

/-- The loop of the guard keeps what it has found, and adds the disk of every protected mount
whose source is a node. -/
theorem protectedDeviceIds_eval [Host] (found : List QString) (mounts : List MountEntry) :
    ∃ deviceIds,
      (protectedDeviceIds found mounts : Prog LinuxI ε _).eval snapshot = some (.ok deviceIds) ∧
      (∀ deviceId ∈ found, deviceId ∈ deviceIds) ∧
      ∀ mount ∈ mounts, isProtectedMountPoint mount.mountPoint protectedSystemMounts = true →
        (QStringLiteral "/dev/").isPrefixOf mount.source = true → ∀ parent,
          (parentDiskName (QString.fileName mount.source) : Prog LinuxI ε _).eval snapshot =
            some (.ok parent) →
          devicePathFor (if parent.isEmpty then QString.fileName mount.source else parent) ∈
            deviceIds := by
  induction mounts generalizing found with
  | nil => exact ⟨found, rfl, fun _ h => h, nofun⟩
  | cons mount mounts ih =>
    unfold protectedDeviceIds
    by_cases hprotected : isProtectedMountPoint mount.mountPoint protectedSystemMounts = true
    case neg =>
      obtain ⟨deviceIds, heval, hkept, hadded⟩ := ih found
      rw [if_pos (by simpa using hprotected)]
      refine ⟨deviceIds, heval, hkept, ?_⟩
      intro other hother
      rcases List.mem_cons.mp hother with rfl | hother
      · exact fun hyes => absurd hyes hprotected
      · exact hadded other hother
    rw [if_neg (by simp [hprotected])]
    by_cases hnode : (QStringLiteral "/dev/").isPrefixOf mount.source = true
    case neg =>
      obtain ⟨deviceIds, heval, hkept, hadded⟩ := ih found
      rw [if_pos (by rw [Bool.eq_false_iff.mpr hnode]; rfl)]
      refine ⟨deviceIds, heval, hkept, ?_⟩
      intro other hother
      rcases List.mem_cons.mp hother with rfl | hother
      · exact fun _ hyes => absurd hyes hnode
      · exact hadded other hother
    rw [if_neg (by simp [hnode])]
    have hparent := parentDiskName_eval (ε := ε) snapshot (QString.fileName mount.source)
    generalize hfound : (snapshot.disks.find? fun disk =>
      QString.fileName mount.source ≠ disk &&
        snapshot.hasPartition disk (QString.fileName mount.source)).getD [] = parent at hparent
    dsimp only
    rw [eval_bind hparent]
    obtain ⟨deviceIds, heval, hkept, hadded⟩ := ih
      (if devicePathFor (if parent.isEmpty then QString.fileName mount.source else parent) ∈ found
        then found
        else found ++
          [devicePathFor (if parent.isEmpty then QString.fileName mount.source else parent)])
    refine ⟨deviceIds, heval, fun deviceId hmem => hkept deviceId (mem_once.mpr (.inl hmem)), ?_⟩
    · intro other hother
      rcases List.mem_cons.mp hother with rfl | hother
      · intro _ _ parent' hparent'
        obtain rfl : parent = parent' := by
          rw [hparent] at hparent'
          exact Except.ok.inj (Option.some.inj hparent')
        exact hkept _ (mem_once.mpr (.inr rfl))
      · exact hadded other hother

/-- From one snapshot of the system, the guard has the protected mount points and every disk that a
mount on one of them names. -/
theorem linuxRestoreGuard_eval [Host] (snapshot : LinuxSnapshot) :
    ∃ deviceIds,
      (linuxRestoreGuard : Prog LinuxI ε RestoreGuard).eval snapshot =
        some (.ok { mountPoints := protectedSystemMounts, deviceIds }) ∧
      ∀ mount ∈ snapshot.mounts,
        isProtectedMountPoint mount.mountPoint protectedSystemMounts = true →
        (QStringLiteral "/dev/").isPrefixOf mount.source = true → ∀ parent,
          (parentDiskName (QString.fileName mount.source) : Prog LinuxI ε _).eval snapshot =
            some (.ok parent) →
          devicePathFor (if parent.isEmpty then QString.fileName mount.source else parent) ∈
            deviceIds := by
  obtain ⟨deviceIds, heval, -, hadded⟩ := protectedDeviceIds_eval (ε := ε) [] snapshot.mounts
  refine ⟨deviceIds, ?_, hadded⟩
  unfold linuxRestoreGuard
  rw [eval_bind readMounts_eval, eval_bind heval]
  rfl

/-! ## The enumerated disk -/

theorem mem_mountPointsOf_foldl {owned : List DeviceNumber} {mounts : List MountEntry}
    {points : List QString} {point : QString}
    (h : point ∈ points ∨ ∃ mount ∈ mounts, mount.device ∈ owned ∧ mount.mountPoint = point) :
    point ∈ mounts.foldl (fun points mount =>
      if mount.device ∈ owned ∧ mount.mountPoint ∉ points then points ++ [mount.mountPoint]
      else points) points := by
  induction mounts generalizing points with
  | nil =>
    rcases h with h | ⟨_, hmem, -⟩
    · exact h
    · cases hmem
  | cons mount mounts ih =>
    rw [List.foldl_cons]
    refine ih ?_
    rcases h with h | ⟨other, hmem, howned, rfl⟩
    · refine .inl ?_
      split_ifs
      · exact List.mem_append_left _ h
      · exact h
    rcases List.mem_cons.mp hmem with rfl | hmem
    · refine .inl ?_
      by_cases hknown : other.mountPoint ∈ points
      · rw [if_neg (fun hnew => hnew.2 hknown)]
        exact hknown
      · rw [if_pos ⟨howned, hknown⟩]
        exact List.mem_append_right _ (List.mem_singleton_self _)
    · exact .inr ⟨other, hmem, howned, rfl⟩

/-- Every mount of the disk is among its mount points. -/
theorem mem_mountPointsOf {owned : List DeviceNumber} {mounts : List MountEntry}
    {mount : MountEntry} (hmem : mount ∈ mounts) (howned : mount.device ∈ owned) :
    mount.mountPoint ∈ mountPointsOf owned mounts :=
  mem_mountPointsOf_foldl (.inr ⟨mount, hmem, howned, rfl⟩)

theorem readSysfsAttribute_total (path : QString) :
    (readSysfsAttribute path : Prog LinuxI ε QString).Total :=
  fun _ => trivial

theorem canonicalFilePath_total (path : QString) :
    (Sys.canonicalFilePath path : Prog LinuxI ε QString).Total :=
  fun _ => trivial

theorem isUsbBlockDevice_total (diskName : QString) :
    (isUsbBlockDevice diskName : Prog LinuxI ε Bool).Total := by
  unfold isUsbBlockDevice
  refine Total.call fun resolved => ?_
  split_ifs
  · trivial
  · trivial

theorem linkAmong_total (directory target preferredPrefix fallback : QString)
    (entries : List QString) :
    (linkAmong directory target preferredPrefix fallback entries : Prog LinuxI ε QString).Total := by
  induction entries generalizing fallback with
  | nil => trivial
  | cons entry entries ih =>
    unfold linkAmong
    dsimp only
    split_ifs
    · exact ih fallback
    · refine Total.call fun resolved => ?_
      split_ifs
      · exact ih fallback
      · trivial
    · refine Total.call fun resolved => ?_
      split_ifs
      · exact ih fallback
      · exact ih entry

theorem stableDeviceIdLink_total (diskName : QString) :
    (stableDeviceIdLink diskName : Prog LinuxI ε QString).Total := by
  unfold stableDeviceIdLink linkTo
  refine Total.call fun present => ?_
  split_ifs
  · trivial
  · exact Total.call fun entries => linkAmong_total _ _ _ _ entries

theorem keepPartitions_total (dir : QString) (entries : List QString) :
    (keepPartitions dir entries : Prog LinuxI ε (List QString)).Total := by
  induction entries with
  | nil => trivial
  | cons entry entries ih => exact Total.call fun present => Total.bind ih fun _ => trivial

theorem readPartitionNumbers_total (diskName : QString) (partitions : List QString) :
    (readPartitionNumbers diskName partitions : Prog LinuxI ε (List DeviceNumber)).Total := by
  induction partitions with
  | nil => trivial
  | cons partition partitions ih =>
    exact Total.bind (p := readDeviceNumber _) (fun _ => trivial) fun number =>
      Total.bind ih fun _ => trivial

/-- No answer makes the search for the device numbers fail. -/
theorem deviceNumbersOnDisk_total (diskName : QString) :
    (deviceNumbersOnDisk diskName : Prog LinuxI ε (List DeviceNumber)).Total := by
  unfold deviceNumbersOnDisk
  refine Total.call fun number => ?_
  refine Total.bind (Total.call fun entries => ?_) fun partitions => ?_
  · exact Total.bind (keepPartitions_total _ entries) fun _ => trivial
  · exact Total.bind (readPartitionNumbers_total _ partitions) fun _ => trivial

/-- The enumerated disk has the mount points of its device numbers. -/
theorem diskInfoFor_eval [Host] {diskName : QString} {owned : List DeviceNumber}
    (howned : (deviceNumbersOnDisk diskName : Prog LinuxI ε _).eval snapshot = some (.ok owned)) :
    ∃ disk, (diskInfoFor diskName : Prog LinuxI ε DiskInfo).eval snapshot = some (.ok disk) ∧
      disk.deviceId = devicePathFor diskName ∧
      disk.mountPoints = mountPointsOf owned snapshot.mounts := by
  unfold diskInfoFor diskInfoWithMounts
  rw [eval_bind readMounts_eval]
  dsimp only
  obtain ⟨_, h⟩ := (isUsbBlockDevice_total (ε := ε) diskName).eval_bind snapshot _
  rw [h]
  obtain ⟨_, h⟩ := (readSysfsAttribute_total (ε := ε) _).eval_bind snapshot _
  rw [h]
  obtain ⟨_, h⟩ := (readSysfsAttribute_total (ε := ε) _).eval_bind snapshot _
  rw [h]
  obtain ⟨_, h⟩ := (stableDeviceIdLink_total (ε := ε) diskName).eval_bind snapshot _
  rw [h]
  obtain ⟨_, h⟩ := (canonicalFilePath_total (ε := ε) _).eval_bind snapshot _
  rw [h]
  obtain ⟨_, h⟩ := (readSysfsAttribute_total (ε := ε) _).eval_bind snapshot _
  rw [h]
  obtain ⟨_, h⟩ := (readSysfsAttribute_total (ε := ε) _).eval_bind snapshot _
  rw [h]
  obtain ⟨_, h⟩ := (readSysfsAttribute_total (ε := ε) _).eval_bind snapshot _
  rw [h]
  obtain ⟨_, h⟩ := (readSysfsAttribute_total (ε := ε) _).eval_bind snapshot _
  rw [h, eval_bind howned]
  exact ⟨_, rfl, rfl, rfl⟩

/-! ## Refusals -/

omit snapshot tree in
theorem mem_trimmed {c : QChar} {text : QString} (hc : QChar.isSpace c = false) (h : c ∈ text) :
    c ∈ text.trimmed := by
  have hfront : ∀ {text : QString}, c ∈ text → c ∈ text.dropWhile QChar.isSpace := by
    intro text h
    rw [← List.takeWhile_append_dropWhile (p := QChar.isSpace) (l := text)] at h
    rcases List.mem_append.mp h with h | h
    · exact absurd (List.mem_takeWhile_imp h) (by simp [hc])
    · exact h
  unfold QString.trimmed List.rdropWhile
  exact List.mem_reverse.mpr (hfront (List.mem_reverse.mpr (hfront h)))

/-- A device path is known, and equal to itself. -/
theorem bothKnownAndEqual_devicePath [Host] (diskName : QString) :
    bothKnownAndEqual (devicePathFor diskName) (devicePathFor diskName) = true := by
  have hslash : QChar.ofChar '/' ∈ (devicePathFor diskName).trimmed :=
    mem_trimmed (by decide) (QString.mem_arg (by decide) (by decide) [diskName])
  have hne : normalizedIdentity (devicePathFor diskName) ≠ [] := by
    intro hempty
    rw [Host.toCaseFolded_eq_nil.mp hempty] at hslash
    cases hslash
  unfold bothKnownAndEqual
  simp [hne]

/-- A protected mount keeps the disk that it names from being restored: by a number of the disk,
or by the node of the disk or of one of its partitions. Nothing else is asked of the disk. -/
theorem isSafeRestoreTarget_protected_mount [Host] (h : tree.ShownBy snapshot)
    {diskName : QString} (hdisk : diskName ∈ tree.disks) {owned : List DeviceNumber}
    (howned : (deviceNumbersOnDisk diskName : Prog LinuxI ε _).eval snapshot = some (.ok owned))
    {mount : MountEntry} (hmount : mount ∈ snapshot.mounts)
    (hprotected : isProtectedMountPoint mount.mountPoint protectedSystemMounts = true)
    (hnames : mount.device.isValid = true ∧ mount.device ∈ owned ∨
      ∃ name, mount.source = QStringLiteral "/dev/" ++ name ∧
        (name = diskName ∨ name ∈ tree.partitions diskName)) :
    ∃ guard enumerated,
      (linuxRestoreGuard : Prog LinuxI ε _).eval snapshot = some (.ok guard) ∧
      (diskInfoFor diskName : Prog LinuxI ε _).eval snapshot = some (.ok enumerated) ∧
      ∀ (disk : DiskInfo) (mode : TextMode), disk.deviceId = enumerated.deviceId →
        disk.mountPoints = enumerated.mountPoints →
        (isSafeRestoreTarget disk guard mode).isOk = false := by
  obtain ⟨deviceIds, hguard, hpinned⟩ := linuxRestoreGuard_eval (ε := ε) snapshot
  obtain ⟨enumerated, henumerated, hdeviceId, hmountPoints⟩ := diskInfoFor_eval howned
  refine ⟨_, enumerated, hguard, henumerated, fun disk mode hid hpoints => ?_⟩
  rw [Bool.eq_false_iff]
  intro hsafe
  have hsafe : SafeTarget disk { mountPoints := protectedSystemMounts, deviceIds } :=
    isSafeRestoreTarget_ok_iff.mp (isOk_iff.mp hsafe)
  rcases hnames with ⟨-, hnumber⟩ | ⟨name, hsource, hname⟩
  · -- The enumeration has put the mount point on the disk.
    have hpoint : mount.mountPoint ∈ disk.mountPoints := by
      rw [hpoints, hmountPoints]
      exact mem_mountPointsOf hmount hnumber
    have hcontains : containsProtectedMountPoint disk
        { mountPoints := protectedSystemMounts, deviceIds } = true :=
      List.any_eq_true.mpr ⟨mount.mountPoint, hpoint, hprotected⟩
    exact Bool.false_ne_true (hsafe.unprotected.symm.trans hcontains)
  · -- The guard has pinned the disk.
    have hfile : QString.fileName mount.source = name := by
      have hslash : QChar.ofChar '/' ∉ name := by
        rcases hname with rfl | hpartition
        · exact (tree.diskNames _ hdisk).2
        · exact (tree.partitionNames _ hdisk _ hpartition).2
      rw [hsource]
      exact (QString.fileName_append hslash :
        QString.fileName (QStringLiteral "/dev" ++ QChar.ofChar '/' :: name) = name)
    obtain ⟨parent, hparent, hpath⟩ := h.parent (ε := ε) hdisk hname
    have hmem : devicePathFor diskName ∈ deviceIds := by
      have hnode : (QStringLiteral "/dev/").isPrefixOf mount.source = true := by
        rw [hsource]
        exact List.isPrefixOf_iff_prefix.mpr (List.prefix_append _ _)
      have := hpinned mount hmount hprotected hnode parent (by rw [hfile]; exact hparent)
      rwa [hfile, hpath] at this
    have hguarded : deviceIds.any (bothKnownAndEqual disk.deviceId) = true := by
      rw [hid, hdeviceId]
      exact List.any_eq_true.mpr ⟨_, hmem, bothKnownAndEqual_devicePath diskName⟩
    exact Bool.false_ne_true (hsafe.unguarded.symm.trans hguarded)

end

/-! ### A stick that the system runs from -/

namespace SmallStick

def partitionAttribute : QString := QStringLiteral "/sys/block/sdb/sdb1/partition"

/-- The root is a file system with a number of its own, on the partition of the stick. -/
def mountTable : QString := QStringLiteral "29 1 0:35 / / rw - btrfs /dev/sdb1 rw\n"

def bootedSnapshot : LinuxSnapshot
  | .sys (.readFile path) =>
    if path = QStringLiteral "/proc/self/mountinfo" then some mountTable
    else answers (.readFile path)
  | .sys (.entryList path .dirs) => if path = SysBlock then [QStringLiteral "sdb"] else []
  | .sys (.pathExists path) => path == partitionAttribute
  | o => linuxAnswers 1000 0 o

def sysfsTree : SysfsTree where
  disks := [QStringLiteral "sdb"]
  partitions _ := [QStringLiteral "sdb1"]
  diskNames := by simp [IsFileName]; decide
  partitionNames := by simp [IsFileName]; decide
  unique := by
    intro disk hdisk other hother _ _ _
    rw [List.mem_singleton.mp hdisk, List.mem_singleton.mp hother]

theorem bootedSnapshot_shows : sysfsTree.ShownBy bootedSnapshot where
  disks _ := Iff.rfl
  partitions := by
    intro disk hdisk name _
    obtain rfl := List.mem_singleton.mp hdisk
    have hpath : (QStringLiteral "%1/%2/%3/partition").arg [SysBlock, QStringLiteral "sdb", name] =
        QStringLiteral "/sys/block/sdb/" ++ (name ++ QStringLiteral "/partition") := rfl
    have hattribute : partitionAttribute = QStringLiteral "/sys/block/sdb/" ++
        (QStringLiteral "sdb1" ++ QStringLiteral "/partition") := rfl
    change ((_ == _) = true ↔ name ∈ [_])
    rw [hpath, hattribute, beq_iff_eq, List.append_cancel_left_eq, List.append_cancel_right_eq,
      List.mem_singleton]

end SmallStick

open SmallStick in
/-- The number of the root leads nowhere, and its source to the stick. -/
theorem isSafeRestoreTarget_protected_mount_small :
    ∃ guard enumerated,
      (linuxRestoreGuard : Prog LinuxI Empty _).eval bootedSnapshot = some (.ok guard) ∧
      (diskInfoFor (QStringLiteral "sdb") : Prog LinuxI Empty _).eval bootedSnapshot =
        some (.ok enumerated) ∧
      (isSafeRestoreTarget enumerated guard .english).isOk = false := by
  obtain ⟨owned, howned⟩ :=
    (deviceNumbersOnDisk_total (ε := Empty) (QStringLiteral "sdb")).eval bootedSnapshot
  have hroot : ⟨⟨0, 35⟩, QStringLiteral "/", QStringLiteral "/dev/sdb1"⟩ ∈
      bootedSnapshot.mounts := by
    decide +kernel
  obtain ⟨guard, enumerated, hguard, henumerated, hrefused⟩ :=
    isSafeRestoreTarget_protected_mount bootedSnapshot_shows (List.mem_singleton_self _) howned
      hroot (by decide +kernel) (.inr ⟨QStringLiteral "sdb1", rfl, .inr (List.mem_singleton_self _)⟩)
  exact ⟨guard, enumerated, hguard, henumerated, hrefused enumerated .english rfl rfl⟩

end UsbRestore
