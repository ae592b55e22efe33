-- SUMMARY: The two backends that restore by themselves, and that both follow their plans.
import UsbRestore.Linux.UnplugBoundary
import UsbRestore.Platform.Backend
import UsbRestore.Win.RestoreRun

/-!
# The backends

On Linux a process of root restores by itself, on Windows every process does. The client that leaves the
restore to a helper is not among them: what it reports is what the helper says.
-/

namespace UsbRestore

open Prog

/-! ## Linux -/

namespace LinuxDiskService

variable [Host]

def report : Event LinuxI → Option Report
  | ⟨LinuxOp.reporter (.step _ message), _⟩ => some (.step message)
  | ⟨LinuxOp.reporter (.detail message), _⟩ => some (.detail message)
  | ⟨LinuxOp.reporter .cancelRequested, answer⟩ => some (.cancelRequested answer)
  | ⟨LinuxOp.sys _, _⟩ => none

def changes : LinuxOp → Bool
  | .sys o => o.isDestructive
  | .reporter _ => false

/-- The service in a process of root. -/
def elevated (fuel : LoopFuel) : DiskService where
  I := fun _ => LinuxI
  report := report
  changes := fun {_} o => changes o
  restorePlan := linuxRestorePlan
  canFormatFileSystem := canCreateFileSystemOn
  restore := fun installed request => performLinuxRestore installed fuel request

variable {fuel : LoopFuel} {installed : Catalog} {t : List (Event LinuxI)}

theorem stepCount_eq (t : List (Event LinuxI)) :
    @DiskService.stepCount (elevated fuel) installed t = (stepsOf t).length := by
  refine @DiskService.stepCount_eq_length (elevated fuel) installed reportedStep ?_ t
  rintro ⟨o, ans⟩
  cases o with
  | sys o => rfl
  | reporter o => cases o <;> rfl

theorem untouched_of_sysCalls (h : Untouched (sysCalls t)) :
    @DiskService.Untouched (elevated fuel) installed t := by
  rintro ⟨o, ans⟩ he
  cases o with
  | reporter o => rfl
  | sys o => exact h ⟨o, ans⟩ (List.mem_filterMap.mpr ⟨_, he, rfl⟩)

theorem wasCancelled_of_sawCancel {e : Event LinuxI} (he : e ∈ t) (h : sawCancel e = true) :
    @DiskService.WasCancelled (elevated fuel) installed t := by
  refine ⟨e, he, ?_⟩
  obtain ⟨o, ans⟩ := e
  cases o with
  | sys o => cases h
  | reporter o =>
    cases o with
    | step step message => cases h
    | detail message => cases h
    | cancelRequested => exact congrArg (fun answer => some (Report.cancelRequested answer)) h

/-- The Linux backend that runs with the privileges follows what the application relies on. -/
theorem elevated_follows (fuel : LoopFuel) : (elevated fuel).Follows where
  steps := fun hrun => by
    obtain ⟨hcalls, -⟩ := performLinuxRestore_obligations hrun
    have hplan := stepsOf_prefix hcalls
    exact (Nat.le_of_eq (stepCount_eq _)).trans hplan.length_le
  whole := fun hrun => by
    obtain ⟨-, hfinished⟩ := performLinuxRestore_obligations hrun
    exact (stepCount_eq _).trans (congrArg List.length (hfinished _ rfl))
  announced := fun hrun before e after ht hchanges => by
    obtain ⟨hcalls, -⟩ := performLinuxRestore_obligations hrun
    obtain ⟨o, ans⟩ := e
    cases o with
    | reporter o => cases hchanges
    | sys o =>
      have hpermitted := (hcalls before _ after ht).2 ⟨o, ans⟩ rfl hchanges
      exact hpermitted.1.1.trans (Nat.le_of_eq (stepCount_eq before).symm)
  stopped := fun hrun hnil => by
    obtain ⟨-, hfinished⟩ := performLinuxRestore_obligations hrun
    obtain ⟨-, hstopped⟩ := hfinished _ rfl
    obtain ⟨⟨e, he, hcancelled⟩, huntouched⟩ := hstopped hnil
    exact ⟨wasCancelled_of_sawCancel he hcancelled, untouched_of_sysCalls huntouched⟩

end LinuxDiskService

/-! ## Windows -/

namespace WindowsDiskService

variable [Host] [SerialCharacters] {installed : Catalog} {fuel : Nat}
  {t : List (Event (ServiceI installed fuel))}

def report : Event (ServiceI installed fuel) → Option Report
  | ⟨ServiceOp.reporter (.step _ message), _⟩ => some (.step message)
  | ⟨ServiceOp.reporter (.detail message), _⟩ => some (.detail message)
  | ⟨ServiceOp.reporter .cancelRequested, answer⟩ => some (.cancelRequested answer)
  | _ => none

def diskService (fuel : Nat) : DiskService where
  I := fun installed => ServiceI installed fuel
  report := report
  changes := fun {_} o => changesDisk o
  restorePlan := windowsRestorePlan
  canFormatFileSystem := canFormatFileSystem
  restore := fun _ request => restore request

theorem stepCount_eq (t : List (Event (ServiceI installed fuel))) :
    @DiskService.stepCount (diskService fuel) installed t = (stepsOf t).length := by
  refine @DiskService.stepCount_eq_length (diskService fuel) installed reportedStep ?_ t
  rintro ⟨o, ans⟩
  cases o with
  | reporter o => cases o <;> rfl
  | _ => rfl

theorem wasCancelled_of_sawCancel {e : Event (ServiceI installed fuel)} (he : e ∈ t)
    (h : sawCancel e = true) : @DiskService.WasCancelled (diskService fuel) installed t := by
  refine ⟨e, he, ?_⟩
  obtain ⟨o, ans⟩ := e
  cases o with
  | reporter o =>
    cases o with
    | step step message => cases h
    | detail message => cases h
    | cancelRequested => exact congrArg (fun answer => some (Report.cancelRequested answer)) h
  | _ => cases h

/-- What the notes say of a run that has come to an end, or has not. -/
theorem restore_watched {request : RestoreRequest} {r : Option (Except RestoreMessage RestoreResult)}
    (h : Runs (restore request) t r) :
    stepsOf t <+: windowsRestorePlan ∧
      (∀ result, r = some (.ok result) → stepsOf t = windowsRestorePlan) ∧
      (∀ before e after, t = before ++ e :: after → changesDisk e.op = true →
        firstDestructiveStepOf windowsRestorePlan ≤ (stepsOf before).length) ∧
      ∀ error, r = some (.error error) → error.english = [] →
        (∃ e ∈ t, sawCancel e = true) ∧ Untouched t := by
  obtain ⟨hcalls, hfinished⟩ := (restore_surely request).safely.monitored h
  replace hcalls : ∀ before e after, t = before ++ e :: after → Allowed (watch before) e := hcalls
  replace hfinished : ∀ result, r = some result → Finished result (watch t) := hfinished
  refine ⟨stepsOf_isPrefix fun before e after ht step hstep => ?_, fun result hr => ?_,
    fun before e after ht hchanges => ?_, fun error hr hnil => ?_⟩
  · rw [← watch_steps]
    exact (hcalls before e after ht).step step hstep
  · rw [← watch_steps]
    exact hfinished _ hr
  · rw [← watch_steps]
    exact (hcalls before e after ht).announced hchanges
  · obtain ⟨hstopped, huntouched⟩ := (hfinished _ hr).2 hnil
    obtain ⟨before, e, after, ht, hcancelled, -⟩ := watch_stopped _ hstopped
    exact ⟨⟨e, by simp [ht], hcancelled⟩, watch_untouched _ huntouched⟩

/-- The backend of Windows follows what the application relies on. -/
theorem diskService_follows (fuel : Nat) : (diskService fuel).Follows where
  steps := fun hrun => (Nat.le_of_eq (stepCount_eq _)).trans (restore_watched hrun).1.length_le
  whole := fun hrun =>
    (stepCount_eq _).trans (congrArg List.length ((restore_watched hrun).2.1 _ rfl))
  announced := fun hrun before e after ht hchanges =>
    ((restore_watched hrun).2.2.1 before e after ht hchanges).trans
      (Nat.le_of_eq (stepCount_eq before).symm)
  stopped := fun hrun hnil => by
    obtain ⟨⟨e, he, hcancelled⟩, huntouched⟩ := (restore_watched hrun).2.2.2 _ rfl hnil
    exact ⟨wasCancelled_of_sawCancel he hcancelled, huntouched⟩

end WindowsDiskService

end UsbRestore
