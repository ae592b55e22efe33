-- SUMMARY: The reported steps are the plan, and no change to the disk comes before its announcement.
import UsbRestore.Linux.RestoreTrace

/-!
# The unplug boundary on Linux

The user interface calls unplugging safe until the first destructive step of the plan is
reported. The plan is a list of its own; that the code follows it is proved here of every run.
-/

namespace UsbRestore

open Prog

/-- A call that changes the disk: a raw write, or a formatter started. -/
def changesDisk (e : Event LinuxI) : Bool :=
  match sysCall e with
  | some asked => SysOp.isDestructive asked.op
  | none => false

/-- The counter after these steps were advanced over. -/
def counterAfter (plan steps : List RestoreStep) : RestoreStepCounter :=
  steps.foldl (fun counter step => (counter.advance step).2) { plan }

theorem counterAfter_concat (plan steps : List RestoreStep) (step : RestoreStep) :
    counterAfter plan (steps ++ [step]) = ((counterAfter plan steps).advance step).2 := by
  rw [counterAfter, List.foldl_append]
  rfl

/-- Along a plan the counter counts. -/
theorem counterAfter_isPrefix {plan steps : List RestoreStep} (h : steps <+: plan) :
    counterAfter plan steps = ⟨plan, steps.length⟩ := by
  induction steps using List.reverseRecOn with
  | nil => rfl
  | append_singleton steps step ih =>
    obtain ⟨rest, hrest⟩ := h
    have hnext : plan[steps.length]? = some step := by
      rw [← hrest]
      simp
    have hfront : steps <+: plan := ⟨step :: rest, by rw [← hrest, List.append_assoc]; rfl⟩
    rw [counterAfter_concat, ih hfront, RestoreStepCounter.advance_next hnext]
    simp

/-- The step after a prefix of the plan that is reported next has a number. -/
theorem advance_ne_zero_of_prefix {plan before after : List RestoreStep} {step : RestoreStep}
    (h : before ++ step :: after <+: plan) : ((counterAfter plan before).advance step).1 ≠ 0 := by
  obtain ⟨rest, rfl⟩ := h
  have hnext : (before ++ step :: after ++ rest)[before.length]? = some step := by simp
  have hfront : before <+: before ++ step :: after ++ rest :=
    ⟨step :: (after ++ rest), by simp⟩
  rw [counterAfter_isPrefix hfront, RestoreStepCounter.advance_next hnext]
  exact Nat.succ_ne_zero _

section

variable [Host] {installed : Catalog} {request : RestoreRequest}

/-- Where every call meets its obligation, the steps are those of the plan so far. -/
theorem stepsOf_prefix {t : List (Event LinuxI)}
    (h : ∀ before e after, t = before ++ e :: after → Obligation installed request before e) :
    stepsOf t <+: linuxRestorePlan := by
  induction t using List.reverseRecOn with
  | nil => exact List.nil_prefix
  | append_singleton t e ih =>
    have hbefore : stepsOf t <+: linuxRestorePlan :=
      ih fun before e' after ht => h before e' (after ++ [e]) (by simp [ht])
    rw [stepsOf_append]
    cases hstep : reportedStep e with
    | none => simpa [stepsOf, hstep] using hbefore
    | some step => simpa [stepsOf, hstep] using (h t e [] rfl).1 step hstep

theorem performLinuxRestore_obligations {fuel : LoopFuel} {t : List (Event LinuxI)}
    {r : Option (Except RestoreMessage RestoreResult)}
    (h : Runs (performLinuxRestore installed fuel request) t r) :
    (∀ before e after, t = before ++ e :: after → Obligation installed request before e) ∧
      ∀ outcome, r = some outcome → Finished outcome t := by
  simpa using wp_sound (performLinuxRestore_wp installed fuel request) h

end

/-! ## A stick of 8 MiB -/

namespace SmallStick

/-- The attributes of the stick, which is `sdb`, and of its partition after a restore. -/
def attributes : List (QString × QString) :=
  [(QStringLiteral "/sys/block/sdb/dev", QStringLiteral "8:16\n"),
    (QStringLiteral "/sys/block/sdb/diskseq", QStringLiteral "7\n"),
    (QStringLiteral "/sys/block/sdb/size", QStringLiteral "16384\n"),
    (QStringLiteral "/sys/block/sdb/queue/logical_block_size", QStringLiteral "512\n"),
    (QStringLiteral "/sys/block/sdb/ro", QStringLiteral "0\n"),
    (QStringLiteral "/sys/block/sdb/device/model", QStringLiteral "Stick\n"),
    (QStringLiteral "/sys/block/sdb/sdb1/dev", QStringLiteral "8:17\n")]

def sysfsPath : QString := QStringLiteral "/sys/block/sdb"

def busPath : QString := QStringLiteral "/sys/devices/usb2/2-1/block/sdb"

def diskNode : QString := QStringLiteral "/dev/sdb"

def partitionNode : QString := QStringLiteral "/dev/sdb1"

/-- The stick, its partition, the loop driver, the claim of its node and the node in use. -/
def descriptorFor (path : QString) (flags : OpenFlags) : Fd :=
  if path = diskNode then 3 else if path = partitionNode then 4
  else if path = LoopDevice.LoopControl then 5 else if flags.excl then 6 else 7

/-- A kernel and a formatter that do all they are asked. -/
def answers : (o : SysOp) → o.Ans
  | .readFile path => (attributes.find? fun entry => entry.1 = path).map Prod.snd
  | .entryList _ _ => ([] : List QString)
  | .pathExists path => (path == sysfsPath || path == partitionNode : Bool)
  | .canonicalFilePath path => if path = sysfsPath then busPath else path
  | .fileInfo _ => ⟨true, true, false⟩
  | .openNode path flags => .ok (descriptorFor path flags)
  | .close _ => ()
  | .fstat fd => .ok ⟨.block, 0, if fd = 4 then ⟨8, 17⟩ else ⟨8, 16⟩⟩
  | .blkGetSize64 _ => .ok 8388608
  | .blkSszGet _ => .ok 512
  | .blkGetDiskSeq _ => .ok 7
  | .blkFlsBuf _ => .ok ()
  | .blkRrPart _ => .ok ()
  | .loopCtlGetFree _ => .ok 0
  | .loopCtlAdd _ => .ok 1
  | .loopConfigure _ _ => .ok ()
  | .loopClrFd _ => .ok ()
  | .pwrite _ data _ => .ok data.size
  | .fsync _ => .ok ()
  | .umount _ => .ok ()
  | .getenv _ => ([] : QString)
  | .getpwuid _ => none
  | .randomWords => (1, 2, 3, 4)
  | .msleep _ => ()
  | .elapsed => (0 : Nat)
  | .startProcess _ _ => true
  | .waitForFinished _ => true
  | .killProcess => ()
  | .processResult => ⟨[], true, 0⟩

/-- The reporter asks to stop from the call numbered `cancelAt` on. -/
def linuxAnswers (cancelAt : Nat) (number : Nat) : (o : LinuxOp) → o.Ans
  | .sys o => answers o
  | .reporter (.step _ _) => ()
  | .reporter (.detail _) => ()
  | .reporter .cancelRequested => decide (cancelAt ≤ number)

def disk : DiskInfo :=
  { deviceId := diskNode, displayId := diskNode, busType := UsbBusType,
    name := QStringLiteral "Stick", path := busPath, deviceSequence := some 7, size := 8388608 }

def request : RestoreRequest := { disk, volumeLabel := QStringLiteral "USB" }

/-- The run of a restore of the stick; no loop of it goes round more than nine times. -/
def run (cancelAt : Nat) :
    List (Event LinuxI) × Option (Except RestoreMessage RestoreResult) :=
  (performLinuxRestore Catalog.english 9 request).execute (I := LinuxI) (linuxAnswers cancelAt) 0

theorem run_runs (cancelAt : Nat) :
    Runs (performLinuxRestore Catalog.english 9 request) (run cancelAt).1 (run cancelAt).2 :=
  execute_runs _ _ _

end SmallStick

/-! ## The boundary -/

section

variable [Host] {installed : Catalog} {request : RestoreRequest}

/-- Along every run the counter never loses its place, the plan is complete exactly where the
restore succeeds, and no change to the disk is made before the step that announces it. -/
theorem performLinuxRestore_follows_plan (fuel : LoopFuel) {t : List (Event LinuxI)}
    {r : Option (Except RestoreMessage RestoreResult)}
    (h : Runs (performLinuxRestore installed fuel request) t r) :
    stepsOf t <+: linuxRestorePlan ∧
    (∀ before step after, stepsOf t = before ++ step :: after →
      ((counterAfter linuxRestorePlan before).advance step).1 ≠ 0) ∧
    (∀ outcome, r = some outcome →
      ((∃ result, outcome = .ok result) ↔ stepsOf t = linuxRestorePlan)) ∧
    ∀ before e after, t = before ++ e :: after → changesDisk e = true →
      firstDestructiveStepOf linuxRestorePlan ≤ (stepsOf before).length ∧
        ∃ step, (stepsOf before).getLast? = some step ∧ changesDiskContents step = true := by
  obtain ⟨hcalls, hfinished⟩ := performLinuxRestore_obligations h
  have hfront := stepsOf_prefix hcalls
  refine ⟨hfront, fun before step after hsteps => ?_, fun outcome houtcome => ?_, ?_⟩
  · rw [hsteps] at hfront
    exact advance_ne_zero_of_prefix hfront
  · have hmeaning := hfinished outcome houtcome
    cases outcome with
    | ok result => exact ⟨fun _ => hmeaning, fun _ => ⟨result, rfl⟩⟩
    | error message =>
      refine Iff.intro (fun h => nomatch h) fun hplan => ?_
      exact absurd hmeaning.1 (by rw [hplan]; exact Nat.lt_irrefl _)
  · intro before e after ht hchanges
    unfold changesDisk at hchanges
    split at hchanges
    · next asked hasked => exact ((hcalls before e after ht).2 asked hasked hchanges).1
    · cases hchanges

end

open SmallStick in
/-- A restore of the small stick reports the whole plan, and writes only after five steps. -/
theorem performLinuxRestore_follows_plan_small :
    stepsOf (SmallStick.run 1000).1 = linuxRestorePlan ∧
      ∃ before e after, (SmallStick.run 1000).1 = before ++ e :: after ∧
        changesDisk e = true ∧ 5 ≤ (stepsOf before).length := by
  have hplan := performLinuxRestore_follows_plan 9 (SmallStick.run_runs 1000)
  refine ⟨(hplan.2.2.1 _ rfl).mp ⟨_, rfl⟩, ?_⟩
  have hwrites : (SmallStick.run 1000).1.any changesDisk = true := by decide +kernel
  obtain ⟨e, he, hchanges⟩ := List.any_eq_true.mp hwrites
  obtain ⟨before, after, ht⟩ := List.append_of_mem he
  exact ⟨before, e, after, ht, hchanges, (hplan.2.2.2 before e after ht hchanges).1⟩

end UsbRestore
