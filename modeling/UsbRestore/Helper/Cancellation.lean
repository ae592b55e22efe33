-- SUMMARY: A restore that ends as cancelled has changed nothing, in the backend and in the helper.
import UsbRestore.Helper.Trace
import UsbRestore.Linux.UnplugBoundary
import UsbRestore.Platform.RestoreWorker

/-!
# Cancellation

The only trace of a cancelled restore is a failure without a message. The worker and the helper
both read it so, and the user is then told that the drive is as it was.
-/

namespace UsbRestore

open Prog

/-- A call of the helper that changes the disk. -/
def helperChangesDisk (e : Event HelperI) : Bool :=
  match helperSysCall e with
  | some asked => SysOp.isDestructive asked.op
  | none => false

theorem changesDisk_of_untouched {t : List (Event LinuxI)} (h : Untouched (sysCalls t)) :
    ∀ e ∈ t, changesDisk e = false := by
  intro e he
  unfold changesDisk
  split
  · next asked hasked => exact h asked (List.mem_filterMap.mpr ⟨e, he, hasked⟩)
  · rfl

theorem helperChangesDisk_of_untouched {t : List (Event HelperI)}
    (h : Untouched (helperSysCalls t)) : ∀ e ∈ t, helperChangesDisk e = false := by
  intro e he
  unfold helperChangesDisk
  split
  · next asked hasked => exact h asked (List.mem_filterMap.mpr ⟨e, he, hasked⟩)
  · rfl

section

variable [Host]

/-- A restore that fails without a message was told to stop at a checkpoint and has changed
nothing. So a restore that has changed something fails with a message, the worker signals a
cancellation only for a disk that is as it was, and the helper exits as cancelled only then. -/
theorem cancelledRestore_untouched :
    (∀ installed fuel request t message,
      Runs (performLinuxRestore installed fuel request) t (some (.error message)) →
        (message.english = [] →
          (∃ e ∈ t, sawCancel e = true) ∧ ∀ e ∈ t, changesDisk e = false) ∧
        ((∃ e ∈ t, changesDisk e = true) → message.english ≠ [])) ∧
    (∀ installed fuel request t outcome cancelRequested,
      Runs (performLinuxRestore installed fuel request) t (some outcome) →
        restoreWorkerSignal installed cancelRequested outcome = .cancelled →
          ∀ e ∈ t, changesDisk e = false) ∧
    ∀ fuel appVersion arguments t,
      Runs (helperMain fuel appVersion arguments : Prog HelperI Empty Int) t
        (some (.ok RestoreExitCancelled)) → ∀ e ∈ t, helperChangesDisk e = false := by
  have hstopped : ∀ installed fuel request t message,
      Runs (performLinuxRestore installed fuel request) t (some (.error message)) →
        message.english = [] → (∃ e ∈ t, sawCancel e = true) ∧ ∀ e ∈ t, changesDisk e = false := by
    intro installed fuel request t message hrun hempty
    have hmeaning : Stopped message t := (performLinuxRestore_obligations hrun).2 _ rfl
    obtain ⟨hcancelled, huntouched⟩ := hmeaning.2 hempty
    exact ⟨hcancelled, changesDisk_of_untouched huntouched⟩
  refine ⟨fun installed fuel request t message hrun => ⟨?_, ?_⟩, ?_, ?_⟩
  · exact hstopped installed fuel request t message hrun
  · rintro ⟨e, he, hchanges⟩ hempty
    rw [(hstopped installed fuel request t message hrun hempty).2 e he] at hchanges
    cases hchanges
  · intro installed fuel request t outcome cancelRequested hrun hsignal
    obtain ⟨message, rfl, hempty⟩ := restoreWorkerSignal_cancelled hsignal
    exact (hstopped installed fuel request t message hrun hempty).2
  · intro fuel appVersion arguments t hrun
    have hmeaning := (helperMain_obligations hrun).2 _ rfl
    exact helperChangesDisk_of_untouched (hmeaning.cancelled rfl)

end

open SmallStick in
/-- A restore of the small stick that is told to stop at once. -/
theorem cancelledRestore_untouched_small :
    (SmallStick.run 0).2 = some (.error {}) ∧
      (∃ e ∈ (SmallStick.run 0).1, sawCancel e = true) ∧
        ∀ e ∈ (SmallStick.run 0).1, changesDisk e = false := by
  have hstopped : (SmallStick.run 0).2 = some (.error {}) := rfl
  have hrun := SmallStick.run_runs 0
  rw [hstopped] at hrun
  exact ⟨hstopped, (cancelledRestore_untouched.1 _ _ _ _ _ hrun).1 rfl⟩

end UsbRestore
