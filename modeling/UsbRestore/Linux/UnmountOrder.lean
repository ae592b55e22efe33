-- SUMMARY: A refused unmount has detached nothing exactly where the deepest mounts of the disk are protected.
import UsbRestore.Base.Snapshot
import UsbRestore.Linux.Footprint
import UsbRestore.Linux.UnplugBoundary

/-!
# The order of unmounting

The loop asks about each mount of the disk just before it unmounts it, in an order by the length of
the path. A sort need not keep the table's order among paths of one length, so what holds of the
unmount is what holds for every such order.
-/

namespace UsbRestore

open Prog

/-! ## Orders -/

/-- The orders that a sort by the length of the mount point can leave. -/
def SortsDeepestFirst (sort : List MountEntry → List MountEntry) : Prop :=
  ∀ mounts, (sort mounts).Perm mounts ∧
    (sort mounts).Pairwise fun left right => right.mountPoint.length ≤ left.mountPoint.length

def deepestFirst (mounts : List MountEntry) : List MountEntry :=
  mounts.insertionSort fun left right => right.mountPoint.length ≤ left.mountPoint.length

/-- The sort by length is one of the orders. -/
theorem deepestFirst_sorts : SortsDeepestFirst deepestFirst := by
  intro mounts
  let deeper : MountEntry → MountEntry → Prop := fun left right =>
    right.mountPoint.length ≤ left.mountPoint.length
  have : Std.Total deeper := ⟨fun left right => Nat.le_total _ _⟩
  have : IsTrans MountEntry deeper := ⟨fun a b c hab hbc => Nat.le_trans hbc hab⟩
  exact ⟨List.perm_insertionSort _ _, List.pairwise_insertionSort deeper mounts⟩

/-- Deeper, or as deep, where `first` comes before the others of its depth. -/
def DeeperOr (first left right : MountEntry) : Prop :=
  right.mountPoint.length < left.mountPoint.length ∨
    right.mountPoint.length = left.mountPoint.length ∧ (left = first ∨ right ≠ first)

instance (first left right : MountEntry) : Decidable (DeeperOr first left right) :=
  inferInstanceAs (Decidable (_ ∨ _ ∧ (_ ∨ _)))

def deepestFirstWith (first : MountEntry) (mounts : List MountEntry) : List MountEntry :=
  mounts.insertionSort (DeeperOr first)

theorem deepestFirstWith_pairwise (first : MountEntry) (mounts : List MountEntry) :
    (deepestFirstWith first mounts).Pairwise (DeeperOr first) := by
  have : Std.Total (DeeperOr first) := by
    refine ⟨fun left right => ?_⟩
    unfold DeeperOr
    by_cases hleft : left = first
    · grind
    · grind
  have : IsTrans MountEntry (DeeperOr first) := by
    refine ⟨fun a b c hab hbc => ?_⟩
    unfold DeeperOr at *
    grind
  exact List.pairwise_insertionSort _ mounts

/-- So is the one that puts a given mount first among those of its length. -/
theorem deepestFirstWith_sorts (first : MountEntry) :
    SortsDeepestFirst (deepestFirstWith first) := by
  intro mounts
  refine ⟨List.perm_insertionSort _ _, (deepestFirstWith_pairwise first mounts).imp ?_⟩
  rintro left right (hdeeper | ⟨hsame, _⟩)
  · exact Nat.le_of_lt hdeeper
  · exact Nat.le_of_eq hsame

/-! ## Unmounting in an order -/

section

variable [Host] {installed : Catalog} {disk : DiskInfo} {owned : List DeviceNumber}
  {mounts : List MountEntry}

def unmountDiskBy (sort : List MountEntry → List MountEntry) (installed : Catalog)
    (disk : DiskInfo) : Prog LinuxI RestoreMessage Unit := do
  let mounts ← readMounts
  let owned ← deviceNumbersOnDisk (QString.fileName disk.deviceId)
  unmountEach installed disk owned (sort mounts)

/-- The unmount of the model is the one for one of the orders. -/
theorem unmountDisk_eq (installed : Catalog) (disk : DiskInfo) :
    unmountDisk installed disk = unmountDiskBy deepestFirst installed disk := rfl

/-- A mount point that the running system needs. -/
abbrev MountEntry.IsProtected (mount : MountEntry) : Prop :=
  isProtectedMountPoint mount.mountPoint protectedSystemMounts = true

/-- The path of no mount of the disk is longer. -/
def IsDeepest (owned : List DeviceNumber) (mounts : List MountEntry) (mount : MountEntry) : Prop :=
  mount.device ∈ owned ∧
    ∀ other ∈ mounts, other.device ∈ owned →
      other.mountPoint.length ≤ mount.mountPoint.length

instance (mount : MountEntry) : Decidable (IsDeepest owned mounts mount) :=
  inferInstanceAs (Decidable (_ ∧ ∀ _ ∈ mounts, _ → _))

/-- A file system was detached. -/
def detached : Event LinuxI → Bool
  | ⟨LinuxOp.sys (.umount _), .ok _⟩ => true
  | _ => false

/-- The unmount fails, and has detached nothing. -/
def RefusesUntouched (t : List (Event LinuxI)) (r : Option (Except RestoreMessage Unit)) : Prop :=
  (∀ outcome, r = some outcome → ∃ message, outcome = .error message) ∧
    ∀ e ∈ t, detached e = false

omit [Host] in
theorem eval_detail_umount {α : Type} {snapshot : (o : LinuxOp) → o.Ans} (message path : QString)
    (next : Except Errno Unit → Prog LinuxI RestoreMessage α) :
    (Reporter.detail message >>= fun _ => Sys.umount path >>= next).eval snapshot =
      (next (snapshot (.sys (.umount path)))).eval snapshot := rfl

omit [Host] in
theorem detached_of_lookup {e : Event LinuxI} (h : LinuxOp.Lookup e.op) : detached e = false := by
  unfold detached
  split
  · cases h
  · rfl

/-- Mounts of other devices are passed by. -/
theorem unmountEach_skip {skipped rest : List MountEntry}
    (h : ∀ mount ∈ skipped, mount.device ∉ owned) :
    unmountEach installed disk owned (skipped ++ rest) =
      unmountEach installed disk owned rest := by
  induction skipped with
  | nil => rfl
  | cons mount skipped ih =>
    obtain ⟨hhead, htail⟩ := List.forall_mem_cons.mp h
    rw [List.cons_append, unmountEach, if_pos hhead]
    exact ih htail

omit [Host] in
/-- The first mount of the disk decides what the loop does first. -/
theorem exists_firstOwned (h : ∃ mount ∈ mounts, mount.device ∈ owned) :
    ∃ skipped first rest, mounts = skipped ++ first :: rest ∧ first.device ∈ owned ∧
      ∀ mount ∈ skipped, mount.device ∉ owned := by
  obtain ⟨mount, hmem, howned⟩ := h
  have hfound : (mounts.find? fun mount => decide (mount.device ∈ owned)).isSome := by
    rw [List.find?_isSome]
    exact ⟨mount, hmem, decide_eq_true howned⟩
  obtain ⟨first, hfirst⟩ := Option.isSome_iff_exists.mp hfound
  obtain ⟨hfirstOwned, skipped, rest, hsplit, hskipped⟩ := List.find?_eq_some_iff_append.mp hfirst
  refine ⟨skipped, first, rest, hsplit, of_decide_eq_true hfirstOwned, fun mount hmem => ?_⟩
  simpa using hskipped mount hmem

/-- However its calls are answered, the loop comes to an end. -/
theorem unmountEach_eval (installed : Catalog) (disk : DiskInfo) (owned : List DeviceNumber)
    (snapshot : (o : LinuxOp) → o.Ans) (mounts : List MountEntry) :
    ∃ outcome, (unmountEach installed disk owned mounts).eval snapshot = some outcome := by
  induction mounts with
  | nil => exact ⟨_, rfl⟩
  | cons mount mounts ih =>
    unfold unmountEach
    split_ifs
    · exact ⟨_, rfl⟩
    · rw [eval_detail_umount]
      split
      · exact ih
      · split_ifs
        · exact ih
        · exact ⟨_, rfl⟩
    · exact ih

/-- A deepest mount that is not protected can be detached before the refusal. -/
theorem unmountEach_detaches (installed : Catalog) (disk : DiskInfo) {mount : MountEntry}
    {skipped : List MountEntry} (rest : List MountEntry)
    (hskipped : ∀ mount ∈ skipped, mount.device ∉ owned) (howned : mount.device ∈ owned)
    (hplain : ¬mount.IsProtected) :
    ∃ t outcome, Runs (unmountEach installed disk owned (skipped ++ mount :: rest)) t
      (some outcome) ∧ ∃ e ∈ t, detached e = true := by
  obtain ⟨outcome, heval⟩ :=
    unmountEach_eval installed disk owned (SmallStick.linuxAnswers 0 0) rest
  obtain ⟨t, _, hrest⟩ := eval_runs (I := LinuxI) heval
  rw [unmountEach_skip hskipped, unmountEach, if_neg (not_not_intro howned), if_neg hplain]
  exact ⟨⟨.reporter (.detail _), ()⟩ :: ⟨.sys (.umount _), Except.ok ()⟩ :: t, outcome,
    .call (.call hrest), ⟨.sys (.umount _), Except.ok ()⟩,
    List.mem_cons_of_mem _ List.mem_cons_self, rfl⟩

/-- Where every deepest mount of the disk is protected, the loop refuses before its first call. -/
theorem unmountEach_refuses (installed : Catalog) (disk : DiskInfo)
    (hpairwise : mounts.Pairwise fun left right =>
      right.mountPoint.length ≤ left.mountPoint.length)
    (howned : ∃ mount ∈ mounts, mount.device ∈ owned)
    (hdeepest : ∀ mount ∈ mounts, IsDeepest owned mounts mount → mount.IsProtected) :
    ∃ message, unmountEach installed disk owned mounts = .fail message := by
  obtain ⟨skipped, first, rest, rfl, hfirst, hskipped⟩ := exists_firstOwned howned
  have hprotected : first.IsProtected := by
    refine hdeepest first (by simp) ⟨hfirst, fun other hmem hother => ?_⟩
    rcases List.mem_append.mp hmem with hmem | hmem
    · exact absurd hother (hskipped other hmem)
    · rcases List.mem_cons.mp hmem with rfl | hmem
      · exact Nat.le_refl _
      · have hrest := (List.pairwise_append.mp hpairwise).2.1
        exact (List.pairwise_cons.mp hrest).1 other hmem
  rw [unmountEach_skip hskipped, unmountEach, if_neg (not_not_intro hfirst), if_pos hprotected]
  exact ⟨_, rfl⟩

omit [Host] in
/-- A deepest mount comes first in the order that prefers it. -/
theorem deepestFirstWith_split {mount : MountEntry} (hmem : mount ∈ mounts)
    (hdeepest : IsDeepest owned mounts mount) :
    ∃ skipped rest, deepestFirstWith mount mounts = skipped ++ mount :: rest ∧
      ∀ other ∈ skipped, other.device ∉ owned := by
  have hperm := (deepestFirstWith_sorts mount mounts).1
  obtain ⟨skipped, first, rest, hsplit, hfirst, hskipped⟩ :=
    exists_firstOwned ⟨mount, hperm.mem_iff.mpr hmem, hdeepest.1⟩
  suffices first = mount by
    subst this
    exact ⟨skipped, rest, hsplit, hskipped⟩
  have hmem' : mount ∈ skipped ++ first :: rest := hsplit ▸ hperm.mem_iff.mpr hmem
  rcases List.mem_append.mp hmem' with hearlier | hlater
  · exact absurd hdeepest.1 (hskipped mount hearlier)
  · rcases List.mem_cons.mp hlater with rfl | hlater
    · rfl
    · have hpairwise := deepestFirstWith_pairwise mount mounts
      rw [hsplit] at hpairwise
      have hrest := (List.pairwise_append.mp hpairwise).2.1
      have hfirstMem : first ∈ mounts := by
        refine hperm.mem_iff.mp ?_
        rw [hsplit]
        simp
      rcases (List.pairwise_cons.mp hrest).1 mount hlater with hdeeper | ⟨_, hsame | hother⟩
      · exact absurd (hdeepest.2 first hfirstMem hfirst) (Nat.not_le_of_lt hdeeper)
      · exact hsame
      · exact absurd rfl hother

/-- For every mount table and every disk that has a protected mount in it: whatever order the sort
leaves, the unmount fails and has detached nothing, exactly where no mount of the disk that the
running system does not need has a path as long as the longest of its mounts. -/
theorem unmountDisk_refuses_untouched_iff (installed : Catalog) (disk : DiskInfo)
    (mounts : List MountEntry) (owned : List DeviceNumber) (t₁ t₂ : List (Event LinuxI))
    (hmounts : Runs (readMounts : Prog LinuxI RestoreMessage _) t₁ (some (.ok mounts)))
    (howned : Runs (deviceNumbersOnDisk (QString.fileName disk.deviceId) :
      Prog LinuxI RestoreMessage _) t₂ (some (.ok owned)))
    (hprotected : ∃ mount ∈ mounts, mount.device ∈ owned ∧ mount.IsProtected) :
    (∀ sort, SortsDeepestFirst sort → ∀ t r,
        Runs (unmountDiskBy sort installed disk) (t₁ ++ (t₂ ++ t)) r →
        RefusesUntouched (t₁ ++ (t₂ ++ t)) r) ↔
      ∀ mount ∈ mounts, IsDeepest owned mounts mount → mount.IsProtected := by
  have hruns : ∀ (sort : List MountEntry → List MountEntry) t r,
      Runs (unmountDiskBy sort installed disk) (t₁ ++ (t₂ ++ t)) r ↔
        Runs (unmountEach installed disk owned (sort mounts)) t r := by
    intro sort t r
    unfold unmountDiskBy
    rw [Runs.bind_append_iff hmounts, Runs.bind_append_iff howned]
  constructor
  · intro hall mount hmem hdeepest
    by_contra hplain
    obtain ⟨skipped, rest, hsplit, hskipped⟩ := deepestFirstWith_split hmem hdeepest
    obtain ⟨t, outcome, hrun, e, he, hdetached⟩ :=
      unmountEach_detaches installed disk rest hskipped hdeepest.1 hplain
    rw [← hsplit, ← hruns] at hrun
    have huntouched := (hall _ (deepestFirstWith_sorts mount) t _ hrun).2 e
      (List.mem_append_right _ (List.mem_append_right _ he))
    rw [hdetached] at huntouched
    cases huntouched
  · intro hdeepest sort hsort t r hrun
    obtain ⟨hperm, hpairwise⟩ := hsort mounts
    obtain ⟨mount, hmem, hmount, _⟩ := hprotected
    obtain ⟨message, hrefuses⟩ := unmountEach_refuses installed disk
      hpairwise ⟨mount, hperm.mem_iff.mpr hmem, hmount⟩ fun mount hmem h => by
        refine hdeepest mount (hperm.mem_iff.mp hmem) ⟨h.1, fun other hother => ?_⟩
        exact h.2 other (hperm.mem_iff.mpr hother)
    rw [hruns, hrefuses] at hrun
    have hlookups : ∀ e ∈ t₁ ++ t₂, detached e = false := by
      intro e he
      rcases List.mem_append.mp he with he | he
      · exact detached_of_lookup ((readMounts_lookup.runs hmounts).1 e he)
      · exact detached_of_lookup (((deviceNumbersOnDisk_lookup _).runs howned).1 e he)
    cases hrun with
    | stop =>
      rw [List.append_nil]
      exact ⟨nofun, hlookups⟩
    | fail =>
      rw [List.append_nil]
      refine ⟨?_, hlookups⟩
      rintro outcome ⟨⟩
      exact ⟨message, rfl⟩

end

/-! ### A stick with two mounts, one of them at /home -/

namespace StickAtHome

open SmallStick

def homeLine : QString := QStringLiteral "29 1 8:16 / /home rw - ext4 /dev/sdb rw\n"

def homeMount : MountEntry := ⟨⟨8, 16⟩, QStringLiteral "/home", QStringLiteral "/dev/sdb"⟩

/-- A mount of the stick at another path. -/
def otherLine (path : QString) : QString :=
  QStringLiteral "30 1 8:16 / " ++ path ++ QStringLiteral " rw - ext4 /dev/sdb rw\n"

def otherMount (path : QString) : MountEntry := ⟨⟨8, 16⟩, path, QStringLiteral "/dev/sdb"⟩

def tableRead (path : QString) : List (Event LinuxI) :=
  [⟨.sys (.readFile (QStringLiteral "/proc/self/mountinfo")), some (homeLine ++ otherLine path)⟩]

def numbersRead : List (Event LinuxI) :=
  ((deviceNumbersOnDisk (QStringLiteral "sdb") : Prog LinuxI RestoreMessage _).execute
    (I := LinuxI) (SmallStick.linuxAnswers 1000) 0).1

theorem reads_mounts {path : QString}
    (h : parseMounts (homeLine ++ otherLine path) = [homeMount, otherMount path]) :
    Runs (readMounts : Prog LinuxI RestoreMessage _) (tableRead path)
      (some (.ok [homeMount, otherMount path])) := by
  rw [← h]
  exact .call (.ret _)

theorem reads_numbers :
    Runs (deviceNumbersOnDisk (QString.fileName SmallStick.disk.deviceId) :
      Prog LinuxI RestoreMessage _) numbersRead (some (.ok [⟨8, 16⟩])) :=
  execute_runs _ _ _

/-- The run of the loop over both mounts; every call succeeds. -/
def loopRun (path : QString) : List (Event LinuxI) × Option (Except RestoreMessage Unit) :=
  (unmountEach Catalog.english SmallStick.disk [⟨8, 16⟩]
    (deepestFirst [homeMount, otherMount path])).execute (I := LinuxI)
    (SmallStick.linuxAnswers 1000) 0

def run (path : QString) : List (Event LinuxI) :=
  tableRead path ++ (numbersRead ++ (loopRun path).1)

theorem run_runs {path : QString}
    (h : parseMounts (homeLine ++ otherLine path) = [homeMount, otherMount path]) :
    Runs (unmountDisk Catalog.english SmallStick.disk) (run path) (loopRun path).2 := by
  have hloop : Runs _ (loopRun path).1 (loopRun path).2 := execute_runs _ _ _
  rw [unmountDisk_eq]
  unfold unmountDiskBy
  exact (Runs.bind_append_iff (reads_mounts h)).mpr
    ((Runs.bind_append_iff reads_numbers).mpr hloop)

theorem protected_home (path : QString) :
    ∃ mount ∈ [homeMount, otherMount path], mount.device ∈ [(⟨8, 16⟩ : DeviceNumber)] ∧
      mount.IsProtected :=
  ⟨homeMount, List.mem_cons_self, by decide +kernel, by decide +kernel⟩

end StickAtHome

open StickAtHome SmallStick in
/-- A stick at `/home` and at `/mnt`: the longer path is asked about first. -/
theorem unmountDisk_refuses_untouched_small :
    RefusesUntouched (run (QStringLiteral "/mnt")) (loopRun (QStringLiteral "/mnt")).2 := by
  have htable : parseMounts (homeLine ++ otherLine (QStringLiteral "/mnt")) =
      [homeMount, otherMount (QStringLiteral "/mnt")] := by
    decide +kernel
  refine (unmountDisk_refuses_untouched_iff Catalog.english SmallStick.disk _ _ _ _
    (reads_mounts htable) reads_numbers (protected_home _)).mpr ?_ deepestFirst deepestFirst_sorts
    _ _ (run_runs htable)
  decide +kernel

open StickAtHome SmallStick in
/-- A stick at `/home` and at `/mnt/stick`: the second is detached before the first is refused. -/
theorem unmountDisk_detaches_before_refusing :
    ¬∀ (installed : Catalog) (disk : DiskInfo) (mounts : List MountEntry)
      (owned : List DeviceNumber) (t₁ t₂ t : List (Event LinuxI))
      (r : Option (Except RestoreMessage Unit)),
      Runs (readMounts : Prog LinuxI RestoreMessage _) t₁ (some (.ok mounts)) →
      Runs (deviceNumbersOnDisk (QString.fileName disk.deviceId) :
        Prog LinuxI RestoreMessage _) t₂ (some (.ok owned)) →
      (∃ mount ∈ mounts, mount.device ∈ owned ∧ mount.IsProtected) →
      Runs (unmountDisk installed disk) (t₁ ++ (t₂ ++ t)) r →
      RefusesUntouched (t₁ ++ (t₂ ++ t)) r := by
  intro hclaim
  have htable : parseMounts (homeLine ++ otherLine (QStringLiteral "/mnt/stick")) =
      [homeMount, otherMount (QStringLiteral "/mnt/stick")] := by
    decide +kernel
  have huntouched := (hclaim Catalog.english SmallStick.disk _ _ _ _ _ _ (reads_mounts htable)
    reads_numbers (protected_home _) (run_runs htable)).2
  have hdetached : (loopRun (QStringLiteral "/mnt/stick")).1.any detached = true := by
    decide +kernel
  obtain ⟨e, he, hdetached⟩ := List.any_eq_true.mp hdetached
  have hnone := huntouched e (List.mem_append_right _ (List.mem_append_right _ he))
  rw [hdetached] at hnone
  cases hnone

end UsbRestore
