-- SUMMARY: What a history of calls says: steps, cancellation, identity checks, mappings, permits.
import UsbRestore.Base.Handles
import UsbRestore.Core.SafetyFacts
import UsbRestore.Linux.RestoreFootprint

/-!
# Histories

Predicates on the calls that were made so far, each kept by calls that do not touch what it is
about, and what a run of the identity check or of the mapping adds to them.
-/

namespace UsbRestore

open Prog

/-- The system calls alone. -/
def SysI : Interface := ⟨SysOp, SysOp.Ans⟩

def sysCall : Event LinuxI → Option (Event SysI)
  | ⟨LinuxOp.sys o, ans⟩ => some ⟨o, ans⟩
  | ⟨LinuxOp.reporter _, _⟩ => none

def sysCalls (t : List (Event LinuxI)) : List (Event SysI) := t.filterMap sysCall

def reportedStep : Event LinuxI → Option RestoreStep
  | ⟨LinuxOp.reporter (.step step _), _⟩ => some step
  | _ => none

def stepsOf (t : List (Event LinuxI)) : List RestoreStep := t.filterMap reportedStep

/-- A checkpoint that was told to stop. -/
def sawCancel : Event LinuxI → Bool
  | ⟨LinuxOp.reporter .cancelRequested, cancelled⟩ => cancelled
  | _ => false

/-- Nothing has changed the disk. -/
def Untouched (calls : List (Event SysI)) : Prop := ∀ e ∈ calls, SysOp.isDestructive e.op = false

@[simp] theorem sysCalls_append (s t : List (Event LinuxI)) :
    sysCalls (s ++ t) = sysCalls s ++ sysCalls t :=
  List.filterMap_append

@[simp] theorem stepsOf_append (s t : List (Event LinuxI)) :
    stepsOf (s ++ t) = stepsOf s ++ stepsOf t :=
  List.filterMap_append

theorem mem_sysCalls {t : List (Event LinuxI)} {e : Event SysI} :
    e ∈ sysCalls t ↔ (⟨LinuxOp.sys e.op, e.ans⟩ : Event LinuxI) ∈ t := by
  rw [sysCalls, List.mem_filterMap]
  constructor
  · rintro ⟨⟨o, ans⟩, hmem, he⟩
    cases o with
    | sys o =>
      cases he
      exact hmem
    | reporter o => cases he
  · exact fun hmem => ⟨_, hmem, rfl⟩

/-- What holds of the calls of a run holds of its system calls. -/
theorem forall_sysCalls {P : SysOp → Prop} {t : List (Event LinuxI)}
    (h : ∀ o ans, (⟨LinuxOp.sys o, ans⟩ : Event LinuxI) ∈ t → P o) :
    ∀ e ∈ sysCalls t, P e.op :=
  fun e he => h e.op e.ans (mem_sysCalls.mp he)

theorem Untouched.append {calls more : List (Event SysI)} (h : Untouched calls)
    (hmore : Untouched more) : Untouched (calls ++ more) := by
  intro e he
  rcases List.mem_append.mp he with he | he
  · exact h e he
  · exact hmore e he

/-! ## Silent runs -/

theorem stepsOf_of_forall {t : List (Event LinuxI)} (h : ∀ e ∈ t, reportedStep e = none) :
    stepsOf t = [] :=
  List.filterMap_eq_nil_iff.mpr h

theorem reportedStep_of_silent {e : Event LinuxI} (h : LinuxOp.Silent e.op) :
    reportedStep e = none := by
  obtain ⟨o, ans⟩ := e
  cases o with
  | sys o => rfl
  | reporter o => cases o <;> first | rfl | exact h.elim

/-- What is aimed at a descriptor reports no step. -/
theorem reportedStep_of_aimed {aim : Aim} {e : Event LinuxI}
    (h : LinuxOp.Aimed aim e.op) : reportedStep e = none := by
  obtain ⟨o, ans⟩ := e
  cases o with
  | sys o => rfl
  | reporter o => cases o <;> first | rfl | exact h.elim

theorem untouched_of_silent {t : List (Event LinuxI)} (h : ∀ e ∈ t, LinuxOp.Silent e.op) :
    Untouched (sysCalls t) :=
  forall_sysCalls fun o ans he => h ⟨LinuxOp.sys o, ans⟩ he

/-! ## Parts of a history -/

/-- Somewhere in the history `p` ran from its start to its end and returned `a`. -/
def Performed {ε α : Type} (p : Prog LinuxI ε α) (a : α) (calls : List (Event SysI)) : Prop :=
  ∃ before t after, calls = before ++ sysCalls t ++ after ∧ Runs p t (some (.ok a))

theorem Performed.append {ε α : Type} {p : Prog LinuxI ε α} {a : α} {calls : List (Event SysI)}
    (h : Performed p a calls) (more : List (Event SysI)) : Performed p a (calls ++ more) := by
  obtain ⟨before, t, after, rfl, hrun⟩ := h
  exact ⟨before, t, after ++ more, by simp, hrun⟩

theorem Performed.prepend {ε α : Type} {p : Prog LinuxI ε α} {a : α} {calls : List (Event SysI)}
    (h : Performed p a calls) (earlier : List (Event SysI)) : Performed p a (earlier ++ calls) := by
  obtain ⟨before, t, after, rfl, hrun⟩ := h
  exact ⟨earlier ++ before, t, after, by simp, hrun⟩

/-! ## The disk that is held -/

/-- The descriptors of the process. -/
def descriptors : Handles (Event SysI) Fd where
  opened
    | ⟨SysOp.openNode _ _, answer⟩ => Except.toOption (show Except Errno Fd from answer)
    | _ => none
  closed
    | ⟨SysOp.close fd, _⟩ => some fd
    | _ => none

/-- A node of the loop driver. -/
def LoopDevice.IsNode (path : QString) : Prop :=
  path = LoopControl ∨ ∃ number, path = (QStringLiteral "/dev/loop%1").arg [.number number]

/-- What happens while a disk is held: no other exclusive open, no open of a node but the loop
driver's, and only what was opened meanwhile is closed. -/
structure Meanwhile (since : List (Event SysI)) : Prop where
  exclusive : ∀ e ∈ since, SysOp.isExclusiveOpen e.op = false
  nodes : ∀ e ∈ since, ∀ path flags, e.op = SysOp.openNode path flags → LoopDevice.IsNode path
  closes : descriptors.ClosesOwn [] since

theorem Meanwhile.nil : Meanwhile [] where
  exclusive _ he := absurd he List.not_mem_nil
  nodes _ he := absurd he List.not_mem_nil
  closes := trivial

/-- Calls that open nothing, and close only what was opened before them. -/
theorem Meanwhile.append_of_forall {since more : List (Event SysI)} (h : Meanwhile since)
    (hopens : ∀ e ∈ more, ∀ path flags, e.op ≠ SysOp.openNode path flags)
    (hcloses : ∀ e ∈ more, ∀ fd, e.op = SysOp.close fd → fd ∈ descriptors.given since) :
    Meanwhile (since ++ more) where
  exclusive e he := by
    rcases List.mem_append.mp he with he | he
    · exact h.exclusive e he
    · have hopen := hopens e he
      obtain ⟨o, ans⟩ := e
      cases o <;> first | rfl | exact absurd rfl (hopen _ _)
  nodes e he path flags hop := by
    rcases List.mem_append.mp he with he | he
    · exact h.nodes e he path flags hop
    · exact absurd hop (hopens e he path flags)
  closes := by
    refine h.closes.append (.of_forall fun e he fd hclosed => List.mem_append_left _ ?_)
    refine hcloses e he fd ?_
    obtain ⟨o, ans⟩ := e
    cases o <;> cases hclosed
    rfl

theorem Meanwhile.append_call {since : List (Event SysI)} (h : Meanwhile since) {o : SysOp}
    (ans : o.Ans) (hopen : ∀ path flags, o ≠ SysOp.openNode path flags)
    (hclose : ∀ fd, o = SysOp.close fd → fd ∈ descriptors.given since) :
    Meanwhile (since ++ [⟨o, ans⟩]) := by
  refine h.append_of_forall (fun e he => ?_) fun e he => ?_
  · rw [List.mem_singleton.mp he]
    exact hopen
  · rw [List.mem_singleton.mp he]
    exact hclose

theorem Meanwhile.append_configure {since : List (Event SysI)} (h : Meanwhile since) (claim : Fd)
    (config : LoopConfig) (answer : Except Errno Unit) :
    Meanwhile (since ++ [⟨SysOp.loopConfigure claim config, answer⟩]) := by
  refine h.append_call (o := .loopConfigure claim config) answer ?_ ?_
  · intro path flags hop
    cases hop
  · intro fd hop
    cases hop

/-- A descriptor may be closed again if it was given meanwhile. -/
theorem Meanwhile.append_close {since : List (Event SysI)} {fd : Fd} (h : Meanwhile since)
    (hfd : fd ∈ descriptors.given since) (ans : Unit) :
    Meanwhile (since ++ [⟨SysOp.close fd, ans⟩]) := by
  refine h.append_call (o := .close fd) ans ?_ ?_
  · intro path flags hop
    cases hop
  · intro fd' hop
    cases hop
    exact hfd

/-- Two stretches in which the descriptors that were open before are left alone make one. -/
theorem Meanwhile.append {since more : List (Event SysI)} (h : Meanwhile since)
    (hmore : Meanwhile more) : Meanwhile (since ++ more) where
  exclusive e he := by
    rcases List.mem_append.mp he with he | he
    · exact h.exclusive e he
    · exact hmore.exclusive e he
  nodes e he := by
    rcases List.mem_append.mp he with he | he
    · exact h.nodes e he
    · exact hmore.nodes e he
  closes := h.closes.append (hmore.closes.mono (List.nil_subset _))

/-- Calls that leave the descriptors alone may be made meanwhile. -/
theorem Meanwhile.append_idle {since : List (Event SysI)} {t : List (Event LinuxI)}
    (h : Meanwhile since) (ht : ∀ e ∈ t, LinuxOp.Idle e.op) : Meanwhile (since ++ sysCalls t) := by
  have hidle : ∀ e ∈ sysCalls t, SysOp.isDescriptorCall e.op = false :=
    forall_sysCalls fun o ans he => (ht ⟨LinuxOp.sys o, ans⟩ he).2
  refine h.append_of_forall (fun e he path flags hop => ?_) fun e he fd hop => ?_
  · have hcall := hidle e he
    rw [hop] at hcall
    cases hcall
  · have hcall := hidle e he
    rw [hop] at hcall
    cases hcall

/-- So may calls that are aimed, where the claim of the loop device that they close was made
meanwhile. -/
theorem Meanwhile.append_aimed {since : List (Event SysI)} {aim : Aim} {t : List (Event LinuxI)}
    (h : Meanwhile since) (ht : ∀ e ∈ t, LinuxOp.Aimed aim e.op)
    (hclaim : ∀ claim, aim.claim = some claim → claim ∈ descriptors.given since) :
    Meanwhile (since ++ sysCalls t) := by
  have haimed : ∀ e ∈ sysCalls t, LinuxOp.Aimed aim (.sys e.op) :=
    forall_sysCalls (P := fun o => LinuxOp.Aimed aim (.sys o))
      fun o ans he => ht ⟨LinuxOp.sys o, ans⟩ he
  refine h.append_of_forall (fun e he path flags hop => ?_) fun e he fd hop => hclaim fd ?_
  · have hcall := haimed e he
    rw [hop] at hcall
    cases hcall.1
  · have hcall := haimed e he
    rw [hop] at hcall
    exact hcall

/-- The call that opens the disk exclusively as `fd`. -/
def openedAs (disk : DiskInfo) (fd : Fd) : Event SysI :=
  ⟨SysOp.openNode disk.deviceId BlockDevice.Access.exclusive.flags, .ok fd⟩

/-- The disk was opened exclusively as `fd`, and `since` is what happened since. -/
structure OpenedSince (disk : DiskInfo) (fd : Fd) (since calls : List (Event SysI)) : Prop where
  opened : ∃ before, calls = before ++ openedAs disk fd :: since
  meanwhile : Meanwhile since

/-- The disk that is held stays held while only such calls are made. -/
theorem OpenedSince.append {disk : DiskInfo} {fd : Fd} {since calls more : List (Event SysI)}
    (h : OpenedSince disk fd since calls) (hmore : Meanwhile (since ++ more)) :
    OpenedSince disk fd (since ++ more) (calls ++ more) := by
  obtain ⟨before, rfl⟩ := h.opened
  exact ⟨⟨before, by simp⟩, hmore⟩

/-- Where the kernel answers no open with a descriptor that is open, the one of the disk was
neither closed since nor given to another file. -/
theorem OpenedSince.leaves {disk : DiskInfo} {fd : Fd} {since calls : List (Event SysI)}
    (h : OpenedSince disk fd since calls) (hfree : descriptors.GivesFree [] calls) :
    ∀ e ∈ since, descriptors.Leaves fd e := by
  obtain ⟨before, rfl⟩ := h.opened
  exact h.meanwhile.closes.leaves_opened hfree rfl

section Identity

variable [Host] (installed : Catalog)

/-- The descriptor under test. -/
def heldDevice (disk : DiskInfo) (fd : Fd) : BlockDevice :=
  { devicePath := disk.deviceId, fd := some fd }

/-- Among the calls since the disk was opened as `fd`, the check of its identity that was made
latest succeeded on `fd`. The calls of the check are `check`. -/
def IdentifiedBy (disk : DiskInfo) (fd : Fd) (check : List (Event LinuxI))
    (since : List (Event SysI)) : Prop :=
  ∃ earlier later, since = earlier ++ sysCalls check ++ later ∧
    Runs ((heldDevice disk fd).verifyIdentity installed disk) check (some (.ok ())) ∧
    ∀ e ∈ later, SysOp.isIdentityQuery e.op = false

def Identified (disk : DiskInfo) (fd : Fd) (since : List (Event SysI)) : Prop :=
  ∃ check, IdentifiedBy installed disk fd check since

variable {installed}

/-- A check stays the latest one until its questions are asked again. -/
theorem Identified.append {disk : DiskInfo} {fd : Fd} {since more : List (Event SysI)}
    (h : Identified installed disk fd since)
    (hquery : ∀ e ∈ more, SysOp.isIdentityQuery e.op = false) :
    Identified installed disk fd (since ++ more) := by
  obtain ⟨check, earlier, later, rfl, hrun, hlatest⟩ := h
  refine ⟨check, earlier, later ++ more, by simp, hrun, fun e he => ?_⟩
  rcases List.mem_append.mp he with he | he
  · exact hlatest e he
  · exact hquery e he

end Identity

/-- The calls that make a mapping: the exclusive claim, the configuration and the use. -/
def mappingCalls (path : QString) (claim use : Fd) (config : LoopConfig) : List (Event SysI) :=
  [⟨SysOp.openNode path LoopDevice.claimFlags, .ok claim⟩,
    ⟨SysOp.loopConfigure claim config, .ok ()⟩,
    ⟨SysOp.openNode path LoopDevice.useFlags, .ok use⟩]

/-- The node `path` was mapped as `config` says, and no mapping was cleared since. -/
def Mapped (path : QString) (config : LoopConfig) (calls : List (Event SysI)) : Prop :=
  ∃ before claim use after, calls = before ++ mappingCalls path claim use config ++ after ∧
    ∀ e ∈ after, SysOp.isUnmapping e.op = false

/-- A mapping stays until it is cleared. -/
theorem Mapped.append {path : QString} {config : LoopConfig} {calls more : List (Event SysI)}
    (h : Mapped path config calls) (hmore : ∀ e ∈ more, SysOp.isUnmapping e.op = false) :
    Mapped path config (calls ++ more) := by
  obtain ⟨before, claim, use, after, rfl, hafter⟩ := h
  refine ⟨before, claim, use, after ++ more, by simp, fun e he => ?_⟩
  rcases List.mem_append.mp he with he | he
  · exact hafter e he
  · exact hmore e he

theorem Mapped.prepend {path : QString} {config : LoopConfig} {calls : List (Event SysI)}
    (h : Mapped path config calls) (earlier : List (Event SysI)) :
    Mapped path config (earlier ++ calls) := by
  obtain ⟨before, claim, use, after, rfl, hafter⟩ := h
  exact ⟨earlier ++ before, claim, use, after, by simp, hafter⟩

/-! ## Permits -/

/-- The mapping that a restore of `disk`, held as `fd`, formats through. -/
def partitionMapping (disk : DiskInfo) (fd : Fd) : LoopConfig :=
  let layout := calculateGptLayout disk.size disk.sectorSize
  { fd, blockSize := disk.sectorSize, offset := layout.startOffset, sizeLimit := layout.length,
    autoclear := true }

/-- A change to the disk goes to the descriptor `fd`, or to the formatter that was looked up for
the filesystem. What that is to format, its last argument, is the node of a mapping over `fd` that
was made since the disk was opened as `fd`. -/
def ReachesOnly [Host] (installed : Catalog) (fileSystem : FileSystemType) (disk : DiskInfo)
    (fd : Fd) (since calls : List (Event SysI)) : SysOp → Prop
  | .pwrite target _ _ => target = fd
  | .startProcess program arguments =>
    Performed (resolveFormatTool installed fileSystem) program calls ∧
      ∃ path, arguments.getLast? = some path ∧ Mapped path (partitionMapping disk fd) since
  | _ => True

/-- The disk was found by the process itself, as the one that was asked for and as a target
that is safe under the guard. -/
structure Found [Host] (installed : Catalog) (request : RestoreRequest) (disk : DiskInfo)
    (calls : List (Event SysI)) : Prop where
  refreshed : Performed (refreshUsbDisk installed request.disk.deviceId) disk calls
  same : isSameRestoreTarget request.disk disk .english = .ok ()
  safe : isSafeRestoreTarget disk request.guard .english = .ok ()

theorem Found.append [Host] {installed : Catalog} {request : RestoreRequest} {disk : DiskInfo}
    {calls : List (Event SysI)} (h : Found installed request disk calls)
    (more : List (Event SysI)) : Found installed request disk (calls ++ more) :=
  { h with refreshed := h.refreshed.append more }

/-- What must have happened before a call that changes the disk. -/
def Permitted [Host] (installed : Catalog) (request : RestoreRequest) (calls : List (Event SysI))
    (o : SysOp) : Prop :=
  ∃ disk fd since, Found installed request disk calls ∧ OpenedSince disk fd since calls ∧
    Identified installed disk fd since ∧
    ReachesOnly installed request.fileSystem disk fd since calls o

/-! ## Runs of the identity check -/

section Verify

variable [Host] {installed : Catalog}

/-- What a successful check has seen: the instance, the size and the sector size that the
descriptor reports, and a fresh enumeration of the disk. -/
structure CheckSaw (expected : DiskInfo) (path : QString) (fd : Fd)
    (check : List (Event LinuxI)) : Prop where
  sequence : ∃ sequence : UInt64, sequence ≠ 0 ∧ expected.deviceSequence = some sequence ∧
    (⟨SysOp.blkGetDiskSeq fd, .ok sequence⟩ : Event SysI) ∈ sysCalls check
  size : ∃ size : UInt64, size ≠ 0 ∧ (expected.size ≠ 0 → size = expected.size) ∧
    (⟨SysOp.blkGetSize64 fd, .ok size⟩ : Event SysI) ∈ sysCalls check
  sectorSize : expected.sectorSize ≠ 0 ∧
    (⟨SysOp.blkSszGet fd, .ok expected.sectorSize⟩ : Event SysI) ∈ sysCalls check
  current : ∃ before enumeration current, check = before ++ enumeration ∧
    Runs (diskInfoFor (QString.fileName path) : Prog LinuxI RestoreMessage DiskInfo) enumeration
      (some (.ok current)) ∧
    isSameRestoreTarget expected current .english = .ok ()

variable {fd : Fd} {path : QString} {expected : DiskInfo}

omit [Host] in
theorem diskSequence_run {ε : Type} {t : List (Event LinuxI)} {sequence : UInt64}
    (h : Runs ((⟨path, some fd⟩ : BlockDevice).diskSequence :
      Prog LinuxI ε (Option UInt64)) t (some (.ok (some sequence)))) :
    sequence ≠ 0 ∧ (⟨SysOp.blkGetDiskSeq fd, .ok sequence⟩ : Event SysI) ∈ sysCalls t := by
  obtain ⟨answered, rest, rfl, hrest⟩ := Runs.call_ok h
  cases answered with
  | error errorNumber => cases (Runs.ret_ok hrest).2
  | ok value =>
    dsimp only at hrest
    split at hrest
    · cases (Runs.ret_ok hrest).2
    · next hne =>
      obtain ⟨rfl, hvalue⟩ := Runs.ret_ok hrest
      cases hvalue
      exact ⟨hne, List.mem_cons_self⟩

omit [Host] in
/-- A check of the disk sequence that succeeded has read an instance that is not zero and is the
expected one. -/
theorem verifySequence_run {t : List (Event LinuxI)}
    (h : Runs ((⟨path, some fd⟩ : BlockDevice).verifySequence installed expected) t
      (some (.ok ()))) :
    ∃ sequence : UInt64, sequence ≠ 0 ∧ expected.deviceSequence = some sequence ∧
      (⟨SysOp.blkGetDiskSeq fd, .ok sequence⟩ : Event SysI) ∈ sysCalls t := by
  unfold BlockDevice.verifySequence at h
  dsimp only at h
  split at h
  · exact h.not_fail_ok.elim
  · obtain ⟨first, rest, answered, rfl, hfirst, hrest⟩ := Runs.bind_ok h
    cases answered with
    | none => exact (Runs.not_fail_ok hrest).elim
    | some sequence =>
      obtain ⟨hne, hmem⟩ := diskSequence_run hfirst
      obtain ⟨rfl, hverdict⟩ := Runs.ofExcept_ok hrest
      rw [checkRestoreError_ok_iff] at hverdict
      obtain ⟨_, _, hexpected, hsame⟩ := isSameDeviceSequence_ok_iff.mp hverdict
      cases hsame
      exact ⟨sequence, hne, hexpected, by simpa using hmem⟩

omit [Host] in
theorem sizeInBytes_run {ε : Type} {t : List (Event LinuxI)} {size : UInt64}
    (h : Runs ((⟨path, some fd⟩ : BlockDevice).sizeInBytes : Prog LinuxI ε UInt64) t
      (some (.ok size))) (hsize : size ≠ 0) :
    (⟨SysOp.blkGetSize64 fd, .ok size⟩ : Event SysI) ∈ sysCalls t := by
  obtain ⟨answered, rest, rfl, hrest⟩ := Runs.call_ok h
  cases answered with
  | error errorNumber => exact absurd (Runs.ret_ok hrest).2.symm hsize
  | ok reported =>
    obtain ⟨rfl, rfl⟩ := Runs.ret_ok hrest
    exact List.mem_cons_self

omit [Host] in
theorem logicalSectorSize_run {ε : Type} {t : List (Event LinuxI)} {sectorSize : UInt32}
    (h : Runs ((⟨path, some fd⟩ : BlockDevice).logicalSectorSize : Prog LinuxI ε UInt32) t
      (some (.ok sectorSize))) (hsector : sectorSize ≠ 0) :
    (⟨SysOp.blkSszGet fd, .ok sectorSize⟩ : Event SysI) ∈ sysCalls t := by
  obtain ⟨answered, rest, rfl, hrest⟩ := Runs.call_ok h
  cases answered with
  | error errorNumber => exact absurd (Runs.ret_ok hrest).2.symm hsector
  | ok reported =>
    obtain ⟨rfl, rfl⟩ := Runs.ret_ok hrest
    exact List.mem_cons_self

/-- A check that succeeded has read the sizes that were expected. -/
theorem verifyGeometry_run {t : List (Event LinuxI)}
    (h : Runs ((⟨path, some fd⟩ : BlockDevice).verifyGeometry installed expected) t
      (some (.ok ()))) :
    (∃ size : UInt64, size ≠ 0 ∧ (expected.size ≠ 0 → size = expected.size) ∧
      (⟨SysOp.blkGetSize64 fd, .ok size⟩ : Event SysI) ∈ sysCalls t) ∧
    expected.sectorSize ≠ 0 ∧
      (⟨SysOp.blkSszGet fd, .ok expected.sectorSize⟩ : Event SysI) ∈ sysCalls t := by
  obtain ⟨first, rest, size, rfl, hfirst, hrest⟩ := Runs.bind_ok h
  split at hrest
  · exact hrest.not_fail_ok.elim
  next hsize =>
  split at hrest
  · exact hrest.not_fail_ok.elim
  next hsame =>
  obtain ⟨second, last, sector, rfl, hsecond, hlast⟩ := Runs.bind_ok hrest
  split at hlast
  · exact hlast.not_fail_ok.elim
  next hsector =>
  rw [not_or, not_ne_iff] at hsector
  obtain ⟨hsector, rfl⟩ := hsector
  rw [sysCalls_append, sysCalls_append]
  refine ⟨⟨size, hsize, fun hexpected => ?_, ?_⟩, hsector, ?_⟩
  · by_contra hne
    exact hsame ⟨hexpected, hne⟩
  · exact List.mem_append_left _ (sizeInBytes_run hfirst hsize)
  · exact List.mem_append_right _ (List.mem_append_left _ (logicalSectorSize_run hsecond hsector))

/-- A check that succeeded has seen all it was to compare. -/
theorem verifyIdentity_run {check : List (Event LinuxI)}
    (h : Runs ((⟨path, some fd⟩ : BlockDevice).verifyIdentity installed expected) check
      (some (.ok ()))) : CheckSaw expected path fd check := by
  unfold BlockDevice.verifyIdentity at h
  obtain ⟨numbered, rest, actual, rfl, _, h⟩ := Runs.bind_ok h
  obtain ⟨sequenced, rest, _, rfl, hsequence, h⟩ := Runs.bind_ok h
  obtain ⟨listed, rest, expectedNumber, rfl, _, h⟩ := Runs.bind_ok h
  split at h
  · exact h.not_fail_ok.elim
  split at h
  · exact h.not_fail_ok.elim
  obtain ⟨measured, rest, _, rfl, hgeometry, h⟩ := Runs.bind_ok h
  obtain ⟨protection, rest, readOnly, rfl, _, h⟩ := Runs.bind_ok h
  split at h
  · exact h.not_fail_ok.elim
  obtain ⟨bus, rest, isUsb, rfl, _, h⟩ := Runs.bind_ok h
  split at h
  · exact h.not_fail_ok.elim
  obtain ⟨enumeration, rest, current, rfl, henumeration, h⟩ := Runs.bind_ok h
  obtain ⟨rfl, hsame⟩ := Runs.ofExcept_ok h
  rw [checkRestoreError_ok_iff] at hsame
  obtain ⟨sequence, hne, hexpected, hsequence⟩ := verifySequence_run hsequence
  obtain ⟨⟨size, hsize, hequal, hsized⟩, hsector, hsectored⟩ := verifyGeometry_run hgeometry
  exact
    { sequence := ⟨sequence, hne, hexpected, by simp [hsequence]⟩
      size := ⟨size, hsize, hequal, by simp [hsized]⟩
      sectorSize := ⟨hsector, by simp [hsectored]⟩
      current := ⟨numbered ++ (sequenced ++ (listed ++ (measured ++ (protection ++ bus)))),
        enumeration, current, by simp, henumeration, hsame⟩ }

end Verify

/-! ## Runs that open and map -/

/-- What configuring a mapping has left in the history. -/
structure Configured (formatter : LoopDevice) (config : LoopConfig) (calls : List (Event SysI)) :
    Prop where
  mapped : Mapped formatter.path config calls
  meanwhile : Meanwhile calls
  claimed : ∀ claim, formatter.claimFd = some claim → claim ∈ descriptors.given calls

theorem Configured.prepend {formatter : LoopDevice} {config : LoopConfig}
    {calls earlier : List (Event SysI)} (h : Configured formatter config calls)
    (hearlier : Meanwhile earlier) : Configured formatter config (earlier ++ calls) where
  mapped := h.mapped.prepend earlier
  meanwhile := hearlier.append h.meanwhile
  claimed claim hclaim := by
    rw [Handles.given_append]
    exact List.mem_append_right _ (h.claimed claim hclaim)

/-- Closing a descriptor that was opened for the mapping leaves it configured. -/
theorem Configured.close {formatter : LoopDevice} {config : LoopConfig}
    {calls : List (Event SysI)} {fd : Fd} (h : Configured formatter config calls)
    (hfd : fd ∈ descriptors.given calls) (ans : Unit) :
    Configured formatter config (calls ++ [⟨SysOp.close fd, ans⟩]) where
  mapped := h.mapped.append fun e he => by rw [List.mem_singleton.mp he]; rfl
  meanwhile := h.meanwhile.append_close hfd ans
  claimed claim hclaim := by
    rw [Handles.given_append]
    exact List.mem_append_left _ (h.claimed claim hclaim)

/-- An open for the mapping. -/
theorem meanwhile_open {path : QString} (flags : OpenFlags) (answer : Except Errno Fd)
    (hpath : LoopDevice.IsNode path) (hflags : flags.sync = false) :
    Meanwhile [⟨SysOp.openNode path flags, answer⟩] := by
  refine ⟨fun e he => ?_, fun e he path' flags' hop => ?_, nofun, trivial⟩
  · rw [List.mem_singleton.mp he]
    refine decide_eq_false fun heq => ?_
    rw [heq] at hflags
    cases hflags
  · rw [List.mem_singleton.mp he] at hop
    cases hop
    exact hpath

/-- A mapping that was made had its loop device claimed, configured over the disk and opened, in
that order. -/
theorem configureAttempts_run {ε : Type} {control : Fd} {config : LoopConfig} {attempts : Nat}
    {busy : Bool} {errorNumber : Errno} {formatter : LoopDevice} {t : List (Event LinuxI)}
    (h : Runs (LoopDevice.configureAttempts control config attempts busy errorNumber :
      Prog LinuxI ε (Except Errno LoopDevice)) t (some (.ok (.ok formatter)))) :
    Configured formatter config (sysCalls t) := by
  induction attempts generalizing busy errorNumber t with
  | zero => cases (Runs.ret_ok h).2
  | succ attempts ih =>
    unfold LoopDevice.configureAttempts at h
    obtain ⟨chosen, rest, number, rfl, hchosen, hrest⟩ := Runs.bind_ok h
    rw [sysCalls_append]
    have hnumbered : Meanwhile (sysCalls chosen) :=
      Meanwhile.nil.append_idle ((LoopDevice.loopNumber_idle control busy).runs hchosen).1
    refine .prepend ?_ hnumbered
    cases number with
    | error code => cases (Runs.ret_ok hrest).2
    | ok number =>
      have hnode : LoopDevice.IsNode ((QStringLiteral "/dev/loop%1").arg [.number number]) :=
        .inr ⟨number, rfl⟩
      obtain ⟨claimed, rest, rfl, hclaimed⟩ := Runs.call_ok hrest
      cases claimed with
      | error code =>
        dsimp only at hclaimed
        split at hclaimed
        · exact (ih hclaimed).prepend (meanwhile_open LoopDevice.claimFlags (.error code) hnode rfl)
        · cases (Runs.ret_ok hclaimed).2
      | ok claim =>
        obtain ⟨configured, rest, rfl, hconfigured⟩ := Runs.call_ok hclaimed
        cases configured with
        | error code =>
          obtain ⟨_, rest, rfl, hclosed⟩ := Runs.call_ok hconfigured
          split at hclosed
          · have hclaim := meanwhile_open LoopDevice.claimFlags (.ok claim) hnode rfl
            have hrefused := hclaim.append_configure claim config (.error code)
            exact (ih hclosed).prepend (hrefused.append_close List.mem_cons_self ())
          · cases (Runs.ret_ok hclosed).2
        | ok _ =>
          obtain ⟨used, rest, rfl, hused⟩ := Runs.call_ok hconfigured
          cases used with
          | ok fd =>
            obtain ⟨rfl, hformatter⟩ := Runs.ret_ok hused
            cases hformatter
            have hclaim := meanwhile_open LoopDevice.claimFlags (.ok claim) hnode rfl
            have hconfigured := hclaim.append_configure claim config (.ok ())
            have huse := meanwhile_open LoopDevice.useFlags (.ok fd) hnode rfl
            exact
              { mapped := ⟨[], claim, fd, [], rfl, fun _ he => absurd he List.not_mem_nil⟩
                meanwhile := hconfigured.append huse
                claimed := fun _ h => Option.some.inj h ▸ List.mem_cons_self }
          | error code =>
            obtain ⟨_, rest, rfl, hcleared⟩ := Runs.call_ok hused
            obtain ⟨_, rest, rfl, hclosed⟩ := Runs.call_ok hcleared
            cases (Runs.ret_ok hclosed).2

section Mapping

variable [Host] {installed : Catalog}

/-- A configured object maps its path as it was asked to, and holds a claim of its own. -/
theorem configure_run {formatter : LoopDevice} {fd : Fd} {offset length : UInt64}
    {sectorSize : UInt32} {t : List (Event LinuxI)}
    (h : Runs (LoopDevice.configure installed {} fd offset length sectorSize) t
      (some (.ok formatter))) :
    Configured formatter
      { fd, blockSize := sectorSize, offset, sizeLimit := length, autoclear := true }
      (sysCalls t) := by
  unfold LoopDevice.configure at h
  dsimp only at h
  split at h
  · exact h.not_fail_ok.elim
  obtain ⟨answered, rest, rfl, hanswered⟩ := Runs.call_ok h
  cases answered with
  | error errorNumber => exact (Runs.not_fail_ok hanswered).elim
  | ok status =>
    obtain ⟨sized, rest, size, rfl, hsize, hsized⟩ := Runs.bind_ok hanswered
    cases size with
    | none => exact (Runs.not_fail_ok hsized).elim
    | some size =>
      dsimp only at hsized
      split at hsized
      · exact (Runs.not_fail_ok hsized).elim
      obtain ⟨opened, rest, rfl, hopened⟩ := Runs.call_ok hsized
      cases opened with
      | error errorNumber => exact (Runs.not_fail_ok hopened).elim
      | ok control =>
        obtain ⟨attempted, rest, configured, rfl, hattempts, hattempted⟩ := Runs.bind_ok hopened
        obtain ⟨closed, rest, rfl, hclosed⟩ := Runs.call_ok hattempted
        cases configured with
        | error errorNumber => exact (Runs.not_fail_ok hclosed).elim
        | ok formatter =>
          obtain ⟨rfl, rfl⟩ := Runs.ret_ok hclosed
          have hchecked :
              Meanwhile ([] ++ sysCalls (⟨LinuxOp.sys (.fstat fd), .ok status⟩ :: sized)) := by
            refine Meanwhile.nil.append_idle fun e he => ?_
            rcases List.mem_cons.mp he with rfl | he
            · exact ⟨rfl, rfl⟩
            · exact ((LoopDevice.backingSize_idle fd status).runs hsize).1 e he
          have hcontrol : Meanwhile
              [⟨SysOp.openNode LoopDevice.LoopControl LoopDevice.useFlags, .ok control⟩] :=
            meanwhile_open _ (.ok control) (.inl rfl) rfl
          have hmapped := ((configureAttempts_run hattempts).prepend hcontrol).close
            List.mem_cons_self closed
          simpa [sysCalls, sysCall] using hmapped.prepend hchecked

theorem open_run {ε : Type} {path : QString} {access : BlockDevice.Access} {fd : Fd}
    {opened : BlockDevice} {t : List (Event LinuxI)}
    (h : Runs (BlockDevice.open installed { devicePath := path } access : Prog LinuxI ε _) t
      (some (.ok (.ok fd, opened)))) :
    sysCalls t = [⟨SysOp.openNode path access.flags, .ok fd⟩] := by
  obtain ⟨answered, rest, rfl, hrest⟩ := Runs.call_ok h
  cases answered with
  | ok fd =>
    obtain ⟨rfl, hfd⟩ := Runs.ret_ok hrest
    cases hfd
    rfl
  | error errorNumber =>
    dsimp only at hrest
    split at hrest <;> split at hrest <;> cases (Runs.ret_ok hrest).2

/-- The loop of exclusive opens ends with the open that succeeded. -/
theorem openExclusively_run {disk : DiskInfo} {remaining attempt : Nat}
    {openError : RestoreMessage} {fd : Fd} {t : List (Event LinuxI)}
    (h : Runs (openExclusively installed disk remaining attempt openError) t (some (.ok fd))) :
    OpenedSince disk fd [] (sysCalls t) := by
  induction remaining generalizing attempt openError t with
  | zero => exact h.not_fail_ok.elim
  | succ remaining ih =>
    unfold openExclusively at h
    obtain ⟨unmounted, rest, _, rfl, _, hrest⟩ := Runs.bind_ok h
    obtain ⟨opening, rest, ⟨opened, device⟩, rfl, hopening, hopened⟩ := Runs.bind_ok hrest
    rw [sysCalls_append, sysCalls_append]
    cases opened with
    | error openError =>
      obtain ⟨before, hcalls⟩ := (ih hopened).opened
      exact ⟨⟨sysCalls unmounted ++ (sysCalls opening ++ before), by simp [hcalls]⟩, .nil⟩
    | ok fd =>
      obtain ⟨rfl, rfl⟩ := Runs.ret_ok hopened
      exact ⟨⟨sysCalls unmounted, by rw [open_run hopening]; rfl⟩, .nil⟩

end Mapping

end UsbRestore
