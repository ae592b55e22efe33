-- SUMMARY: The disk service as the worker and the window use it, and what they rely on.
import UsbRestore.Base.Threads
import UsbRestore.Platform.DiskService

/-!
# The disk service

The worker and the window know a backend by its plan, its checks and its `restore`. What they tell the
user about the disk is true of backends that follow their plan.
-/

namespace UsbRestore

/-- What a backend says in a call of its reporter, or is answered. -/
inductive Report where
  | step (message : RestoreMessage)
  | detail (message : QString)
  | cancelRequested (answer : Bool)

/-- `DiskService`, with the calls its `restore` makes while a catalog is installed. -/
structure DiskService where
  I : Catalog → Interface
  /-- What a call says to the reporter, if it is one of the reporter. -/
  report : {installed : Catalog} → Event (I installed) → Option Report
  /-- Does the call change what is stored on the disk? -/
  changes : {installed : Catalog} → (I installed).Op → Bool
  restorePlan : List RestoreStep
  canFormatFileSystem : Catalog → FileSystemType → DiskInfo → Except RestoreMessage Unit
  restore : (installed : Catalog) → RestoreRequest → Prog (I installed) RestoreMessage RestoreResult

namespace DiskService

variable (service : DiskService) {installed : Catalog}

def totalRestoreSteps : Nat := service.restorePlan.length

def firstDestructiveStep : Nat := firstDestructiveStepOf service.restorePlan

/-- The call reports a step. -/
def isStep (e : Event (service.I installed)) : Bool :=
  match service.report e with
  | some (.step _) => true
  | _ => false

/-- How many steps some calls report. -/
def stepCount (calls : List (Event (service.I installed))) : Nat := calls.countP service.isStep

/-- Nothing is changed by these calls. -/
def Untouched (calls : List (Event (service.I installed))) : Prop := ∀ e ∈ calls, service.changes e.op = false

/-- A checkpoint was told to stop. -/
def WasCancelled (calls : List (Event (service.I installed))) : Prop :=
  ∃ e ∈ calls, service.report e = some (.cancelRequested true)

/-- The backend reports the steps of its plan, all of them where it succeeds. It changes the disk only
after the first destructive step, and a failure without a message is a cancellation before that. -/
structure Follows : Prop where
  steps : ∀ {installed request calls result},
    Prog.Runs (service.restore installed request) calls result →
    service.stepCount calls ≤ service.totalRestoreSteps
  whole : ∀ {installed request calls result},
    Prog.Runs (service.restore installed request) calls (some (.ok result)) →
      service.stepCount calls = service.totalRestoreSteps
  announced : ∀ {installed request calls result},
    Prog.Runs (service.restore installed request) calls result →
    ∀ before e after, calls = before ++ e :: after → service.changes e.op = true →
      service.firstDestructiveStep ≤ service.stepCount before
  stopped : ∀ {installed request calls error},
    Prog.Runs (service.restore installed request) calls (some (.error error)) → error.english = [] →
      service.WasCancelled calls ∧ service.Untouched calls

variable {service}

theorem stepCount_concat (calls : List (Event (service.I installed))) (e : Event (service.I installed)) :
    service.stepCount (calls ++ [e]) =
      service.stepCount calls + if service.isStep e = true then 1 else 0 := by
  unfold stepCount
  rw [List.countP_append, List.countP_singleton]

theorem stepCount_append_le (calls more : List (Event (service.I installed))) :
    service.stepCount calls ≤ service.stepCount (calls ++ more) := by
  unfold stepCount
  rw [List.countP_append]
  exact Nat.le_add_right _ _

/-- Steps counted by what each of them is. -/
theorem stepCount_eq_length {step : Event (service.I installed) → Option RestoreStep}
    (h : ∀ e, service.isStep e = (step e).isSome) (calls : List (Event (service.I installed))) :
    service.stepCount calls = (calls.filterMap step).length := by
  rw [List.length_filterMap_eq_countP, ← funext h]
  rfl

/-- While the first destructive step is not reported, nothing is changed. -/
theorem Follows.untouched (h : service.Follows) {request : RestoreRequest}
    {calls : List (Event (service.I installed))} {result : Option (Except RestoreMessage RestoreResult)}
    (hrun : Prog.Runs (service.restore installed request) calls result)
    (hearly : service.stepCount calls < service.firstDestructiveStep) : service.Untouched calls := by
  intro e he
  by_contra hchanges
  obtain ⟨before, after, rfl⟩ := List.append_of_mem he
  have hannounced := h.announced hrun before e after rfl (by simpa using hchanges)
  exact absurd (hannounced.trans (stepCount_append_le before _)) (Nat.not_le_of_lt hearly)

end DiskService

end UsbRestore
