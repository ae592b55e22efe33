-- SUMMARY: What the chain of identity comparisons guarantees at a write, and what falls between them.
import UsbRestore.Helper.WriteSafety
import UsbRestore.Linux.EnumerateFacts
import UsbRestore.Base.Alike
import UsbRestore.Base.Snapshot

/-!
# The chain of identities

Four descriptions of one disk are compared, each with the next: the claims of the caller, the disk
that the helper found, the disk that the restore found, and the disk that the last check read.
A comparison skips an identifier that one side lacks, so that the ends of the chain agree on an
identifier as far as the disks between them report it.
-/

namespace UsbRestore

open Prog

section

variable [Host]

/-- The chain at a call of the helper. `target` is the disk the helper found, `disk` the one the
restore found, and `current` the one that the latest identity check enumerated. -/
structure IdentityChain (arguments : List QString) (calls : List (Event SysI))
    (parsed : RestoreArguments) (installed : Catalog) (target disk current : DiskInfo) : Prop where
  accepted : parseRestoreArguments arguments = .ok parsed
  found : Performed (refreshUsbDisk installed parsed.expected.deviceId) target calls
  refreshed : Performed (refreshUsbDisk installed target.deviceId) disk calls
  checked : ∃ fd since check before enumeration, OpenedSince disk fd since calls ∧
    IdentifiedBy installed disk fd check since ∧ check = before ++ enumeration ∧
    Runs (diskInfoFor (QString.fileName disk.deviceId) : Prog LinuxI RestoreMessage DiskInfo)
      enumeration (some (.ok current))
  first : isSameRestoreTarget parsed.expected target .english = .ok ()
  second : isSameRestoreTarget target disk .english = .ok ()
  third : isSameRestoreTarget disk current .english = .ok ()

variable {arguments : List QString} {calls : List (Event SysI)} {parsed : RestoreArguments}
  {installed : Catalog} {target disk current : DiskInfo}

theorem identityChain_of_permitted {o : SysOp} (h : HelperPermitted arguments calls o) :
    ∃ parsed installed target disk current,
      IdentityChain arguments calls parsed installed target disk current := by
  obtain ⟨parsed, installed, _, target, hparsed, _, hfound, _, hfirst,
    disk, fd, since, hrestored, hopened, ⟨check, hidentified⟩, _⟩ := h
  -- the last check on the descriptor ends in an enumeration of its own
  have hsaw : CheckSaw disk disk.deviceId fd check := by
    obtain ⟨_, _, _, hrun, _⟩ := hidentified
    exact verifyIdentity_run hrun
  obtain ⟨before, enumeration, current, hcheck, hcurrent, hthird⟩ := hsaw.current
  refine ⟨parsed, installed, target, disk, current, ?_⟩
  exact
    { accepted := hparsed
      found := hfound
      refreshed := hrestored.refreshed
      checked := ⟨fd, since, check, before, enumeration, hopened, hidentified, hcheck, hcurrent⟩
      first := hfirst
      second := hrestored.same
      third := hthird }

/-! ## Identifiers -/

/-- An identifier that says something. -/
def Known (value : QString) : Prop := value.trimmed ≠ []

theorem isEmpty_normalizedIdentity (value : QString) :
    (normalizedIdentity value).isEmpty = value.trimmed.isEmpty := by
  rw [Bool.eq_iff_iff, List.isEmpty_iff, List.isEmpty_iff]
  exact Host.toCaseFolded_eq_nil

/-- Two known identifiers pass a comparison where they are equal. -/
theorem bothKnownAndDifferent_eq_false_iff {left right : QString} :
    bothKnownAndDifferent left right = false ↔
      (Known left → Known right → normalizedIdentity left = normalizedIdentity right) := by
  unfold bothKnownAndDifferent Known
  dsimp only
  rw [isEmpty_normalizedIdentity, isEmpty_normalizedIdentity]
  cases left.trimmed with
  | nil => simp
  | cons c rest =>
    cases right.trimmed with
    | nil => simp
    | cons d others => simp

/-- Comparisons compose over an identifier that the middle knows. -/
theorem bothKnownAndDifferent_trans {left middle right : QString} (hmiddle : Known middle)
    (hleft : bothKnownAndDifferent left middle = false)
    (hright : bothKnownAndDifferent middle right = false) :
    bothKnownAndDifferent left right = false := by
  rw [bothKnownAndDifferent_eq_false_iff] at hleft hright ⊢
  exact fun hknown hknown' => (hleft hknown hmiddle).trans (hright hmiddle hknown')

omit [Host] in
/-- A plausible device node is the node of the kernel name it ends in. -/
theorem devicePathFor_fileName {path : QString} (h : isPlausibleDeviceNodePath path = true) :
    devicePathFor (QString.fileName path) = path := by
  unfold isPlausibleDeviceNodePath at h
  split_ifs at h with hdev
  obtain ⟨name, rfl⟩ : DeviceNodePrefix <+: path := by simpa using hdev
  dsimp only at h
  rw [List.drop_left] at h
  split_ifs at h
  have hname : QChar.ofChar '/' ∉ name := fun hslash =>
    absurd (List.all_eq_true.mp h _ hslash) (by decide)
  have hfile : QString.fileName (DeviceNodePrefix ++ name) = name :=
    @QString.fileName_append (QStringLiteral "/dev") name hname
  rw [hfile]
  exact congrArg (DeviceNodePrefix ++ ·) (List.append_nil name)

/-! ## The ends of the chain -/

/-- What both ends of the chain agree on. Device node, size, instance, sector size and model name
agree all the way; any other identifier is as far as both disks in between report it. -/
structure EndToEnd (expected target disk current : DiskInfo) : Prop where
  deviceId : expected.deviceId = current.deviceId
  size : expected.size = current.size
  sequence : ∀ sequence, expected.deviceSequence = some sequence →
    sequence ≠ 0 ∧ current.deviceSequence = some sequence
  sectorSize : expected.sectorSize ≠ 0 → expected.sectorSize = current.sectorSize
  name : bothKnownAndDifferent expected.name current.name = false
  identifiers : ∀ identifier ∈ [DiskInfo.serialNumber, DiskInfo.uniqueId, DiskInfo.path],
    Known (identifier target) → Known (identifier disk) →
      bothKnownAndDifferent (identifier expected) (identifier current) = false

theorem IdentityChain.endToEnd
    (h : IdentityChain arguments calls parsed installed target disk current) :
    EndToEnd parsed.expected target disk current := by
  have hfirst := isSameRestoreTarget_ok_iff.mp h.first
  have hsecond := isSameRestoreTarget_ok_iff.mp h.second
  have hthird := isSameRestoreTarget_ok_iff.mp h.third
  obtain ⟨_, _, _, _, hfound⟩ := h.found
  obtain ⟨_, _, _, _, hrefreshed⟩ := h.refreshed
  obtain ⟨_, _, _, _, _, _, _, _, hcurrent⟩ := h.checked
  have htarget := refreshUsbDisk_run hfound
  have hdisk := refreshUsbDisk_run hrefreshed
  have hnow := diskInfoFor_run hcurrent
  have hnode := devicePathFor_fileName (parseRestoreArguments_ok h.accepted).device
  exact
    { deviceId := by
        rw [hnow.deviceId, hdisk.deviceId, htarget.deviceId, hnode, hnode, hnode]
      size := hfirst.size.trans (hsecond.size.trans hthird.size)
      sequence := fun sequence hclaim => by
        have htargetHas := hfirst.sequence sequence hclaim
        have hdiskHas := hsecond.sequence sequence htargetHas.2
        exact hthird.sequence sequence hdiskHas.2
      sectorSize := fun hclaim =>
        (hfirst.sectorSize hclaim htarget.sectorSize).trans
          ((hsecond.sectorSize htarget.sectorSize hdisk.sectorSize).trans
            (hthird.sectorSize hdisk.sectorSize hnow.sectorSize))
      name := bothKnownAndDifferent_trans htarget.name hfirst.name
        (bothKnownAndDifferent_trans hdisk.name hsecond.name hthird.name)
      identifiers := by
        intro identifier hidentifier hknown hknown'
        simp only [List.mem_cons, List.not_mem_nil, or_false] at hidentifier
        rcases hidentifier with rfl | rfl | rfl
        · exact bothKnownAndDifferent_trans hknown hfirst.serialNumber
            (bothKnownAndDifferent_trans hknown' hsecond.serialNumber hthird.serialNumber)
        · exact bothKnownAndDifferent_trans hknown hfirst.uniqueId
            (bothKnownAndDifferent_trans hknown' hsecond.uniqueId hthird.uniqueId)
        · exact bothKnownAndDifferent_trans hknown hfirst.path
            (bothKnownAndDifferent_trans hknown' hsecond.path hthird.path) }

/-- Where the disks in between report every identifier, the comparison of the ends accepts. -/
theorem EndToEnd.isSameRestoreTarget {expected target disk current : DiskInfo}
    (h : EndToEnd expected target disk current)
    (hknown : ∀ identifier ∈ [DiskInfo.serialNumber, DiskInfo.uniqueId, DiskInfo.path],
      Known (identifier target) ∧ Known (identifier disk)) :
    UsbRestore.isSameRestoreTarget expected current .english = .ok () := by
  have hidentifiers : ∀ identifier ∈ [DiskInfo.serialNumber, DiskInfo.uniqueId, DiskInfo.path],
      bothKnownAndDifferent (identifier expected) (identifier current) = false :=
    fun identifier hmem =>
      h.identifiers identifier hmem (hknown identifier hmem).1 (hknown identifier hmem).2
  rw [isSameRestoreTarget_ok_iff]
  exact
    { deviceId := congrArg normalizedIdentity h.deviceId
      size := h.size
      sequence := h.sequence
      sectorSize := fun hclaim _ => h.sectorSize hclaim
      serialNumber := hidentifiers _ (by simp)
      uniqueId := hidentifiers _ (by simp)
      path := hidentifiers _ (by simp)
      name := h.name }

/-- In every run of the helper, at every call that changes a disk, the claims of the caller are
chained to what the last identity check has read. Node, size, instance, sector size and model name
agree from end to end, and so does any other identifier that both disks in between report; where
they report all of them, the claims pass a comparison with the disk that was read last. -/
theorem helperMain_identities_chained (fuel : LoopFuel) (appVersion : QString)
    {t : List (Event HelperI)} {r : Option (Except Empty Int)}
    (h : Runs (helperMain fuel appVersion arguments) t r) {before : List (Event HelperI)}
    {asked : Event SysI} {e : Event HelperI} {after : List (Event HelperI)}
    (ht : t = before ++ e :: after) (hasked : helperSysCall e = some asked)
    (hdestructive : SysOp.isDestructive asked.op = true) :
    (∃ parsed installed target disk current,
      IdentityChain arguments (helperSysCalls before) parsed installed target disk current) ∧
    ∀ parsed installed target disk current,
      IdentityChain arguments (helperSysCalls before) parsed installed target disk current →
        EndToEnd parsed.expected target disk current ∧
        ((∀ identifier ∈ [DiskInfo.serialNumber, DiskInfo.uniqueId, DiskInfo.path],
          Known (identifier target) ∧ Known (identifier disk)) →
            isSameRestoreTarget parsed.expected current .english = .ok ()) := by
  have hpermitted : HelperPermitted arguments (helperSysCalls before) asked.op :=
    ((helperMain_obligations h).1 before e after ht).2.1 asked hasked hdestructive
  refine ⟨identityChain_of_permitted hpermitted, ?_⟩
  intro parsed installed target disk current hchain
  exact ⟨hchain.endToEnd, hchain.endToEnd.isSameRestoreTarget⟩

end

/-! ## A link that comes late -/

namespace SmallStick

def idDirectory : QString := QStringLiteral "/dev/disk/by-id"

def lateLink : QString := QStringLiteral "usb-Stick_Other_2-0:0"

/-- The kernel of the small stick, which may also list a link of a stable name. -/
def linked (listed : Bool) : (o : SysOp) → o.Ans
  | .pathExists path => (path == sysfsPath || path == partitionNode || path == idDirectory : Bool)
  | .entryList path _ => if path = idDirectory ∧ listed then [lateLink] else ([] : List QString)
  | .canonicalFilePath path =>
    if path = sysfsPath then busPath
    else if path = idDirectory ++ QStringLiteral "/" ++ lateLink then diskNode
    else path
  | o => answers o

def linkedSnapshot (o : LinuxOp) : o.Ans :=
  match o with
  | .sys o => linked true o
  | o => linuxAnswers 1000 0 o

/-- The link is listed once the node was opened exclusively. -/
def lateEnvironment (past : List (Event HelperI)) : (o : HelperOp) → o.Ans
  | .sys o => linked ((helperSysCalls past).any fun e => SysOp.isExclusiveOpen e.op) o
  | o => helperAnswers (fun _ => answers) 0 o

/-- The stick that was selected, of another unique ID and another serial number. -/
def selected : DiskInfo :=
  { disk with
    uniqueId := QStringLiteral "usb-Stick_Mine_1-0:0"
    serialNumber := QStringLiteral "1" }

def selectedArguments : List QString :=
  buildRestoreArguments selected .gpt .exFat (QStringLiteral "USB") .english []

/-- What the helper makes of the arguments. -/
def parsedSelected : RestoreArguments :=
  { expected := { selected with busType := 0 }, volumeLabel := QStringLiteral "USB" }

/-- The run of the helper in which the link is missing from both enumerations. -/
def lateRun : List (Event HelperI) × Option (Except Empty Int) :=
  (helperMain 9 (QStringLiteral "1.0") selectedArguments).against lateEnvironment []

/-- The stick as it is enumerated once the link is there. -/
def linkedDisk : DiskInfo :=
  { disk with uniqueId := lateLink, serialNumber := QStringLiteral "2" }

theorem lateRun_runs :
    Runs (helperMain 9 (QStringLiteral "1.0") selectedArguments) lateRun.1 lateRun.2 :=
  against_runs _ _ _

theorem lateRun_writes : ∃ before e after asked, lateRun.1 = before ++ e :: after ∧
    helperSysCall e = some asked ∧ SysOp.isDestructive asked.op = true := by
  have hwrites : lateRun.1.any helperChangesDisk = true := by decide +kernel
  obtain ⟨e, he, hchanges⟩ := List.any_eq_true.mp hwrites
  obtain ⟨before, after, ht⟩ := List.append_of_mem he
  unfold helperChangesDisk at hchanges
  split at hchanges
  · next asked hasked => exact ⟨before, e, after, asked, ht, hasked, hchanges⟩
  · cases hchanges

theorem parseRestoreArguments_selected :
    parseRestoreArguments selectedArguments = .ok parsedSelected := by
  rfl

theorem diskInfoFor_linked :
    ((diskInfoFor (QStringLiteral "sdb") : Prog LinuxI RestoreMessage DiskInfo).eval
      (I := LinuxI) linkedSnapshot).bind Except.toOption = some linkedDisk := by
  decide +kernel

/-- A system call after an exclusive open sees the link. -/
theorem lateRun_linked {before : List (Event HelperI)} {e : Event HelperI}
    {after : List (Event HelperI)} (ht : lateRun.1 = before ++ e :: after)
    {calls more : List (Event SysI)} {asked : Event SysI}
    (hcalls : helperSysCalls before = calls ++ asked :: more)
    (hopen : ∃ e ∈ calls, SysOp.isExclusiveOpen e.op = true) : asked.ans = linked true asked.op := by
  obtain ⟨first, rest, rfl, rfl, hrest⟩ := List.filterMap_eq_append_iff.mp hcalls
  obtain ⟨skipped, own, others, rfl, hskipped, hown, -⟩ := List.filterMap_eq_cons_iff.mp hrest
  have hsplit : lateRun.1 = (first ++ skipped) ++ own :: (others ++ e :: after) := by
    simp only [ht, List.append_assoc, List.cons_append]
  have hanswer : own.ans = lateEnvironment ([] ++ (first ++ skipped)) own.op :=
    against_answers hsplit
  have hopened : (helperSysCalls (first ++ skipped)).any
      (fun e => SysOp.isExclusiveOpen e.op) = true := by
    obtain ⟨open', hmem, hexclusive⟩ := hopen
    rw [helperSysCalls_append]
    exact List.any_eq_true.mpr ⟨open', List.mem_append_left _ hmem, hexclusive⟩
  obtain ⟨o, ans⟩ := own
  cases o with
  | sys o =>
    cases hown
    exact hanswer.trans (congrArg (linked · o) hopened)
  | _ => cases hown


/-- The last check of the late run enumerates the link. -/
theorem lateRun_current {before : List (Event HelperI)} {e : Event HelperI}
    {after : List (Event HelperI)} (ht : lateRun.1 = before ++ e :: after)
    {parsed : RestoreArguments} {installed : Catalog} {target disk current : DiskInfo}
    (h : IdentityChain selectedArguments (helperSysCalls before) parsed installed target disk
      current) : parsed = parsedSelected ∧ current = linkedDisk := by
  have hparsed : parsed = parsedSelected := by
    have haccepted := h.accepted
    rw [parseRestoreArguments_selected] at haccepted
    exact (Except.ok.inj haccepted).symm
  subst hparsed
  obtain ⟨_, _, _, _, hfound⟩ := h.found
  obtain ⟨_, _, _, _, hrefreshed⟩ := h.refreshed
  have htarget := (refreshUsbDisk_run hfound).deviceId
  have hdisk := (refreshUsbDisk_run hrefreshed).deviceId
  have hname : QString.fileName disk.deviceId = QStringLiteral "sdb" := by
    rw [hdisk, htarget]
    decide +kernel
  obtain ⟨fd, since, check, start, enumeration, hopened, hidentified, rfl, hcurrent⟩ := h.checked
  obtain ⟨opening, hcalls⟩ := hopened.opened
  obtain ⟨opened, later, rfl, _⟩ := hidentified
  rw [hname] at hcurrent
  refine ⟨rfl, ?_⟩
  have hanswers : ∀ e ∈ enumeration, e.ans = linkedSnapshot e.op := by
    intro e he
    have hlookup := ((diskInfoFor_lookup (QStringLiteral "sdb")).runs hcurrent).1 e he
    obtain ⟨o, ans⟩ := e
    cases o with
    | reporter o => exact hlookup.elim
    | sys o =>
      have hasked : (⟨o, ans⟩ : Event SysI) ∈ sysCalls (start ++ enumeration) :=
        mem_sysCalls.mpr (List.mem_append_right _ he)
      obtain ⟨front, back, hsplit⟩ := List.append_of_mem hasked
      rw [hsplit] at hcalls
      have hopen : SysOp.isExclusiveOpen (openedAs disk fd).op = true := decide_eq_true (Eq.refl BlockDevice.Access.exclusive.flags)
      have hbefore : helperSysCalls before =
          (opening ++ openedAs disk fd :: opened ++ front) ++ ⟨o, ans⟩ :: (back ++ later) := by
        simpa using hcalls
      exact lateRun_linked ht hbefore ⟨openedAs disk fd, by simp, hopen⟩
  have heval := runs_eval hcurrent hanswers
  have hlinked := diskInfoFor_linked
  rw [heval] at hlinked
  exact Option.some.inj hlinked

end SmallStick

open SmallStick in
/-- A run that writes, with its chain. -/
theorem helperMain_identities_chained_late :
    ∃ before e after, lateRun.1 = before ++ e :: after ∧
      ∃ parsed installed target disk current,
        IdentityChain selectedArguments (helperSysCalls before) parsed installed target disk
          current ∧ EndToEnd parsed.expected target disk current := by
  obtain ⟨before, e, after, asked, ht, hasked, hdestructive⟩ := lateRun_writes
  have h := helperMain_identities_chained 9 _ lateRun_runs ht hasked hdestructive
  obtain ⟨⟨parsed, installed, target, disk, current, hchain⟩, hends⟩ := h
  exact ⟨before, e, after, ht, parsed, installed, target, disk, current, hchain,
    (hends _ _ _ _ _ hchain).1⟩

open SmallStick in
/-- The helper restores a stick that reports, at the last check, another serial number and unique
ID than were claimed, because the link of both was missing from the enumerations in between. -/
theorem helperMain_identities_not_end_to_end :
    ¬∀ (fuel : LoopFuel) (appVersion : QString) (arguments : List QString)
      (t : List (Event HelperI)) (r : Option (Except Empty Int)),
      Runs (helperMain fuel appVersion arguments) t r →
        ∀ before e after asked, t = before ++ e :: after → helperSysCall e = some asked →
          SysOp.isDestructive asked.op = true →
            ∀ parsed installed target disk current,
              IdentityChain arguments (helperSysCalls before) parsed installed target disk
                current → isSameRestoreTarget parsed.expected current .english = .ok () := by
  intro hclaim
  obtain ⟨before, e, after, asked, ht, hasked, hdestructive⟩ := lateRun_writes
  have hpermitted : HelperPermitted selectedArguments (helperSysCalls before) asked.op :=
    ((helperMain_obligations lateRun_runs).1 before e after ht).2.1 asked hasked hdestructive
  obtain ⟨parsed, installed, target, disk, current, hchain⟩ :=
    identityChain_of_permitted hpermitted
  have hsame := hclaim _ _ _ _ _ lateRun_runs before e after asked ht hasked hdestructive
    _ _ _ _ _ hchain
  obtain ⟨rfl, rfl⟩ := lateRun_current ht hchain
  have hrefused : (isSameRestoreTarget parsedSelected.expected linkedDisk .english).isOk
      = false := by decide +kernel
  rw [hsame] at hrefused
  cases hrefused

end UsbRestore
