-- SUMMARY: A worker counts the steps of its backend, and its signals come in an order of their own.
import UsbRestore.Platform.WorkerThread

/-!
# What a worker signals

The signals that are still to be delivered tell how far the worker has come since: every step raises
the count by one, and the end of the restore is the last of them.
-/

namespace UsbRestore

open Prog

/-! ## Signals in flight -/

/-- `Pending total n signals m ended`: delivering the signals takes a reader from `n` reported steps to
`m`, and to the end of the restore if there is one. -/
inductive Pending (total : Nat) : Nat → List WorkerSignal → Nat → Option RestoreSignal → Prop where
  | nil (n : Nat) : Pending total n [] n none
  | logMessage {n m : Nat} {signals : List WorkerSignal} {ended : Option RestoreSignal}
    (message : QString) (rest : Pending total n signals m ended) :
    Pending total n (.logMessage message :: signals) m ended
  | logFileOnly {n m : Nat} {signals : List WorkerSignal} {ended : Option RestoreSignal}
    (message : QString) (rest : Pending total n signals m ended) :
    Pending total n (.logFileOnly message :: signals) m ended
  | progress {n m : Nat} {signals : List WorkerSignal} {ended : Option RestoreSignal}
    (message : QString) (rest : Pending total (n + 1) signals m ended) :
    Pending total n (.progress (min (n + 1) total) total message :: signals) m ended
  | finished (n : Nat) (location : QString) :
    Pending total n [.finished location] n (some (.finished location))
  | cancelled (n : Nat) : Pending total n [.cancelled] n (some .cancelled)
  | failed (n : Nat) (logError uiError : QString) :
    Pending total n [.failed uiError] n (some (.failed logError uiError))

/-- How many steps the signals announce. -/
def stepsAhead (signals : List WorkerSignal) : Nat :=
  signals.countP fun signal =>
    match signal with
    | .progress _ _ _ => true
    | _ => false

namespace Pending

variable {total n m m' : Nat} {signals more : List WorkerSignal} {ended : Option RestoreSignal}

theorem append (h : Pending total n signals m none) (hmore : Pending total m more m' ended) :
    Pending total n (signals ++ more) m' ended := by
  generalize hnone : (none : Option RestoreSignal) = unended at h
  induction h with
  | nil n => exact hmore
  | logMessage message rest ih => exact .logMessage message (ih hmore hnone)
  | logFileOnly message rest ih => exact .logFileOnly message (ih hmore hnone)
  | progress message rest ih => exact .progress message (ih hmore hnone)
  | finished n location => cases hnone
  | cancelled n => cases hnone
  | failed n logError uiError => cases hnone

theorem count (h : Pending total n signals m ended) : m = n + stepsAhead signals := by
  induction h with
  | nil n => rfl
  | logMessage message rest ih => simpa [stepsAhead] using ih
  | logFileOnly message rest ih => simpa [stepsAhead] using ih
  | @progress n m signals ended message rest ih =>
    have hcons : stepsAhead (.progress (min (n + 1) total) total message :: signals) =
        stepsAhead signals + 1 := by simp [stepsAhead]
    rw [ih, hcons, Nat.add_assoc, Nat.add_comm 1]
  | finished n location => rfl
  | cancelled n => rfl
  | failed n logError uiError => rfl

theorem le (h : Pending total n signals m ended) : n ≤ m := by
  rw [h.count]
  exact Nat.le_add_right _ _

end Pending

/-! ## The worker -/

namespace RestoreWorker

variable {service : DiskService} {worker worker' : RestoreWorker service}
  {signals : List WorkerSignal} {now : Nat}
  {answer : (o : (service.I worker.installed).Op) → (service.I worker.installed).Ans o}

/-- What holds of a worker at any time. -/
structure Sound (worker : RestoreWorker service) : Prop where
  left : Left (service.restore worker.installed worker.request) worker.calls worker.program
  step : worker.step = min (service.stepCount worker.calls) service.totalRestoreSteps
  flag : service.WasCancelled worker.calls → worker.cancelRequested = true
  running : worker.result = none → worker.signalled = none
  ended : ∀ result, worker.result = some result →
    Runs (service.restore worker.installed worker.request) worker.calls (some result)
  /-- The end is signalled by the flag as it was then. -/
  signalled : ∀ result, worker.result = some result → ∃ cancelled,
    worker.signalled = some (restoreWorkerSignal worker.installed cancelled result) ∧
      (service.WasCancelled worker.calls → cancelled = true)

theorem sound_create (installed : Catalog) (request : RestoreRequest) :
    Sound (create installed request : RestoreWorker service) where
  left := .start
  step := (Nat.zero_min _).symm
  flag := fun ⟨_, he, _⟩ => absurd he List.not_mem_nil
  running := fun _ => rfl
  ended := fun _ h => by cases h
  signalled := fun _ h => by cases h

/-- A request to cancel keeps the worker sound. -/
theorem Sound.requestCancel (h : worker.Sound) : worker.requestCancel.Sound where
  left := h.left
  step := h.step
  flag := fun _ => rfl
  running := h.running
  ended := h.ended
  signalled := h.signalled

/-- Not asked yet, a worker is at most told to stop later. -/
theorem wasCancelled_concat {installed : Catalog} {calls : List (Event (service.I installed))}
    {e : Event (service.I installed)}
    (h : service.WasCancelled (calls ++ [e])) :
    service.WasCancelled calls ∨ service.report e = some (.cancelRequested true) := by
  obtain ⟨e', he', hcancelled⟩ := h
  rcases List.mem_append.mp he' with hbefore | hlast
  · exact .inl ⟨e', hbefore, hcancelled⟩
  · rw [List.mem_singleton] at hlast
    subst hlast
    exact .inr hcancelled

theorem answersFlag_true {e : Event (service.I worker.installed)} (h : worker.answersFlag e = true)
    (hcancelled : service.report e = some (.cancelRequested true)) : worker.cancelRequested = true := by
  unfold answersFlag at h
  rw [hcancelled] at h
  simpa using h.symm

/-- What one turn does: it keeps the request, goes on with the program, and signals what it counts. -/
structure Turned (worker worker' : RestoreWorker service) (signals : List WorkerSignal) : Prop where
  unfinished : worker.result = none
  request : worker'.request = worker.request
  sound : worker'.Sound
  pending : Pending service.totalRestoreSteps (service.stepCount worker.calls) signals
    (service.stepCount worker'.calls) worker'.signalled

/-- The signals of an end show no further step. -/
theorem endSignals_pending (total n : Nat) (signal : RestoreSignal) :
    Pending total n (endSignals signal) n (some signal) := by
  cases signal with
  | finished location => exact .finished n location
  | cancelled => exact .cancelled n
  | failed logError uiError => exact .logMessage _ (.failed n logError uiError)

/-- The turn that ends a worker queues its end. -/
theorem finish_turned (h : worker.Sound) (hrunning : worker.result = none)
    {result : Except RestoreMessage RestoreResult}
    (hruns : Runs (service.restore worker.installed worker.request) worker.calls (some result)) :
    Turned worker (worker.finish result now).1 (worker.finish result now).2 where
  unfinished := hrunning
  request := rfl
  sound :=
    { left := h.left
      step := h.step
      flag := h.flag
      running := fun hnone => by cases hnone
      ended := fun r hr => Option.some.inj hr ▸ hruns
      signalled := fun r hr => ⟨worker.cancelRequested, by cases hr; rfl, h.flag⟩ }
  pending := .logFileOnly _ (.logFileOnly _ (endSignals_pending _ _ _))

/-- After a call, before the reporter hears of it. -/
theorem Sound.called (h : worker.Sound) (hrunning : worker.result = none) {o : (service.I worker.installed).Op}
    {next : (service.I worker.installed).Ans o →
      Prog (service.I worker.installed) RestoreMessage RestoreResult}
    (hprogram : worker.program = .call o next) {ans : (service.I worker.installed).Ans o}
    (hflag : worker.answersFlag ⟨o, ans⟩ = true) {step stepStartedMs : Nat}
    (hstep : step = min (service.stepCount (worker.calls ++ [⟨o, ans⟩])) service.totalRestoreSteps) :
    Sound { worker with
      program := next ans
      calls := worker.calls ++ [⟨o, ans⟩]
      step
      stepStartedMs } where
  left := by
    have hleft := h.left
    rw [hprogram] at hleft
    exact .call hleft ans
  step := hstep
  flag := fun hcancelled => by
    rcases wasCancelled_concat hcancelled with hbefore | hlast
    · exact h.flag hbefore
    · exact answersFlag_true hflag hlast
  running := h.running
  ended := fun r hr => by cases hrunning.symm.trans hr
  signalled := fun r hr => by cases hrunning.symm.trans hr

/-- A turn with a call queues what that call reports. -/
theorem call_turned (h : worker.Sound) (hrunning : worker.result = none) {o : (service.I worker.installed).Op}
    {next : (service.I worker.installed).Ans o →
      Prog (service.I worker.installed) RestoreMessage RestoreResult}
    (hprogram : worker.program = .call o next) {ans : (service.I worker.installed).Ans o}
    (hflag : worker.answersFlag ⟨o, ans⟩ = true)
    (hheard : RestoreWorker.hear
      { worker with program := next ans, calls := worker.calls ++ [⟨o, ans⟩] } now
        (service.report ⟨o, ans⟩) = (worker', signals)) :
    Turned worker worker' signals := by
  have hnone := h.running hrunning
  have hcount := DiskService.stepCount_concat worker.calls (⟨o, ans⟩ : Event (service.I worker.installed))
  cases hreport : service.report ⟨o, ans⟩ with
  | none =>
    have hsame : service.isStep ⟨o, ans⟩ = false := by simp [DiskService.isStep, hreport]
    rw [hsame] at hcount
    rw [hreport] at hheard
    cases hheard
    refine ⟨hrunning, rfl, h.called hrunning hprogram hflag (by rw [hcount]; exact h.step), ?_⟩
    rw [hnone, hcount]
    exact .nil _
  | some report =>
    rw [hreport] at hheard
    cases report with
    | detail message =>
      have hsame : service.isStep ⟨o, ans⟩ = false := by simp [DiskService.isStep, hreport]
      rw [hsame] at hcount
      cases hheard
      refine ⟨hrunning, rfl, h.called hrunning hprogram hflag (by rw [hcount]; exact h.step), ?_⟩
      rw [hnone, hcount]
      exact .logFileOnly message (.nil _)
    | cancelRequested cancelled =>
      have hsame : service.isStep ⟨o, ans⟩ = false := by simp [DiskService.isStep, hreport]
      rw [hsame] at hcount
      cases hheard
      refine ⟨hrunning, rfl, h.called hrunning hprogram hflag (by rw [hcount]; exact h.step), ?_⟩
      rw [hnone, hcount]
      exact .nil _
    | step message =>
      have hnext : service.isStep ⟨o, ans⟩ = true := by simp [DiskService.isStep, hreport]
      rw [hnext, if_pos rfl] at hcount
      have hstep : min (worker.step + 1) service.totalRestoreSteps =
          min (service.stepCount worker.calls + 1) service.totalRestoreSteps := by
        rw [h.step]
        omega
      cases hheard
      refine ⟨hrunning, rfl, h.called hrunning hprogram hflag (by rw [hcount]; exact hstep), ?_⟩
      change Pending _ _ [.logFileOnly _, .logMessage _,
        .progress (min (worker.step + 1) service.totalRestoreSteps) _ _] _ worker.signalled
      rw [hnone, hcount, hstep]
      exact .logFileOnly _ (.logMessage _ (.progress _ (.nil _)))

/-- Every turn of a worker. -/
theorem turn_turned (h : worker.Sound) (hturn : worker.turn answer now = some (worker', signals)) :
    Turned worker worker' signals := by
  unfold turn at hturn
  split at hturn
  · cases hturn
  · next hrunning =>
    have hresult : worker.result = none := by simpa using hrunning
    have hleft := h.left
    cases hprogram : worker.program with
    | ret result =>
      rw [hprogram] at hturn hleft
      cases hturn
      exact finish_turned h hresult hleft.returned
    | fail error =>
      rw [hprogram] at hturn hleft
      cases hturn
      exact finish_turned h hresult hleft.failed
    | spin =>
      rw [hprogram] at hturn
      cases hturn
    | call o next =>
      rw [hprogram] at hturn
      dsimp only at hturn
      split at hturn
      · next hflag => exact call_turned h hresult hprogram hflag (Option.some.inj hturn)
      · cases hturn

end RestoreWorker

end UsbRestore
