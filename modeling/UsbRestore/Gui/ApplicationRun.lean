-- SUMMARY: One restore at a time, as it was checked and confirmed; the dialog shows how far it has come.
import UsbRestore.Gui.Coordination
import UsbRestore.Platform.WorkerFacts

/-!
# Runs of the application

In every state some step leads to, either no restore is under way and every worker has ended, or the last
worker restores what the dialog was confirmed for, and the queue takes the dialog to where the worker is.
-/

namespace UsbRestore

open RestoreDialog

/-- The outcome that a restore ends with. -/
def RestoreSignal.outcome : RestoreSignal → Outcome
  | .finished _ => .complete
  | .cancelled => .cancelled
  | .failed _ _ => .error

namespace Pending

/-- A signal for the log changes nothing. -/
theorem of_log {total n m : Nat} {signal : WorkerSignal} {queue : List WorkerSignal}
    {ended : Option RestoreSignal} (h : Pending total n (signal :: queue) m ended)
    (hlog : signal.isLog = true) : Pending total n queue m ended := by
  cases h with
  | logMessage message rest => exact rest
  | logFileOnly message rest => exact rest
  | progress message rest => cases hlog
  | finished n location => cases hlog
  | cancelled n => cases hlog
  | failed n logError uiError => cases hlog

/-- An outcome is the last signal. -/
theorem of_outcome {total n m : Nat} {signal : WorkerSignal} {queue : List WorkerSignal}
    {ended : Option RestoreSignal} (h : Pending total n (signal :: queue) m ended) {outcome : Outcome}
    (houtcome : signal.outcome = some outcome) :
    queue = [] ∧ m = n ∧ ∃ result, ended = some result ∧ result.outcome = outcome := by
  cases h with
  | logMessage message rest => cases houtcome
  | logFileOnly message rest => cases houtcome
  | progress message rest => cases houtcome
  | finished n location =>
    cases houtcome
    exact ⟨rfl, rfl, _, rfl, rfl⟩
  | cancelled n =>
    cases houtcome
    exact ⟨rfl, rfl, _, rfl, rfl⟩
  | failed n logError uiError =>
    cases houtcome
    exact ⟨rfl, rfl, _, rfl, rfl⟩

/-- The next progress in the queue counts the step that follows those shown. -/
theorem of_progress {total n m step totalSteps : Nat} {message : QString}
    {queue : List WorkerSignal} {ended : Option RestoreSignal}
    (h : Pending total n (.progress step totalSteps message :: queue) m ended) :
    step = min (n + 1) total ∧ totalSteps = total ∧ Pending total (n + 1) queue m ended := by
  cases h with
  | progress message rest => exact ⟨rfl, rfl, rest⟩

end Pending

namespace RestoreDialog

variable {tr : QString → QString} {dialog : RestoreDialog} {event : DialogEvent}

/-- The confirmation page is left for the restore by a confirmation alone. -/
theorem confirmed_of_running (hstage : dialog.stage = .confirmation)
    (hrunning : (dialog.handle tr event).1.stage = .running) :
    DialogSignal.restoreConfirmed ∈ (dialog.handle tr event).2 := by
  have hstep := handle_step tr dialog event
  generalize hsignals : (dialog.handle tr event).2 = signals at hstep ⊢
  generalize hnext : (dialog.handle tr event).1.control = next at hstep
  have hcontrol : dialog.control.stage = .confirmation := hstage
  have hstarted : next.stage = .running := by rw [← hnext]; exact hrunning
  cases hstep with
  | confirm stage ticked enabled => exact List.mem_singleton_self _
  | idle => cases hcontrol.symm.trans hstarted
  | openLog => cases hcontrol.symm.trans hstarted
  | toggle checked => cases hcontrol.symm.trans hstarted
  | request stage enabled => cases hcontrol.symm.trans stage
  | advance stage more => cases hcontrol.symm.trans stage
  | stop stage early => cases hcontrol.symm.trans stage
  | finish stage => cases hstarted
  | dismiss stage result => cases hstarted
  | close stage result => cases hcontrol.symm.trans stage

/-- Nothing but an outcome takes a dialog out of a restore. -/
theorem Unmoved.running {next : RestoreDialog} (h : Unmoved dialog next) (hstage : dialog.stage = .running) :
    next.stage = .running := by
  rcases h.stage with ⟨hsame | ⟨hopening, -⟩, -⟩ | ⟨-, hrunning, -⟩
  · exact hsame.trans hstage
  · cases hopening.symm.trans hstage
  · exact hrunning

end RestoreDialog

namespace Coordination

variable [Host] {service : DiskService} {c c' : Coordination service}

/-- A restore is under way: the dialog has been told of the first `delivered` steps, and the signals in
the queue take it to where the last worker is. -/
structure Underway (c : Coordination service) (worker : RestoreWorker service) (shown : RequestDialog)
    (delivered : Nat) : Prop where
  newest : c.workers.head? = some worker
  dialog : c.window.dialog = some shown
  stage : shown.dialog.stage = .running
  request : worker.request = shown.request
  unscanned : c.window.scanning = false
  restoreStep : c.window.restoreStep = min delivered service.totalRestoreSteps
  step : shown.dialog.step = c.window.restoreStep
  pending : Pending service.totalRestoreSteps delivered c.queue (service.stepCount worker.calls)
    worker.signalled

/-- No restore is under way. -/
structure Settled (c : Coordination service) : Prop where
  queue : c.queue = []
  workers : ∀ worker ∈ c.workers, worker.result.isSome = true
  dialog : ∀ shown, c.window.dialog = some shown → shown.dialog.stage ≠ .running

/-- The dialog shows how the last worker has ended. -/
structure Shows (c : Coordination service) (shown : RequestDialog) (outcome : Outcome)
    (worker : RestoreWorker service) : Prop where
  newest : c.workers.head? = some worker
  request : worker.request = shown.request
  signalled : ∃ signal, worker.signalled = some signal ∧ signal.outcome = outcome
  step : shown.dialog.step = min (service.stepCount worker.calls) service.totalRestoreSteps

structure Invariant (c : Coordination service) : Prop where
  sound : ∀ worker ∈ c.workers, worker.Sound ∧ PassedChecks service worker.request
  retired : ∀ worker ∈ c.workers.tail, worker.result.isSome = true
  consistent : ∀ shown, c.window.dialog = some shown →
    shown.dialog.Consistent service.restorePlan ∧ PassedChecks service shown.request
  opening : ∀ shown, c.window.dialog = some shown → shown.dialog.stage = .confirmation →
    c.window.scanning = false
  outcome : ∀ shown, c.window.dialog = some shown → ∀ outcome : Outcome,
    shown.dialog.indicator = outcome.indicator → ∃ worker, Shows c shown outcome worker
  settled : c.window.running = false → Settled c
  underway : c.window.running = true → ∃ worker shown delivered, Underway c worker shown delivered
  closed : c.closed = true → c.window.running = false

omit [Host] in
/-- A dialog that runs shows no outcome. -/
theorem no_outcome {dialog : RestoreDialog} (h : dialog.Consistent service.restorePlan)
    (hstage : dialog.stage ≠ .finished) {outcome : Outcome} (hshown : dialog.indicator = outcome.indicator) :
    False :=
  hstage (h.ended_of_outcome hshown).1

omit [Host] in
theorem withDialog_some {window : WindowControl} {f : RestoreDialog → RestoreDialog}
    {shown' : RequestDialog} (h : (window.withDialog f).dialog = some shown') :
    ∃ shown, window.dialog = some shown ∧ shown'.request = shown.request ∧
      shown'.dialog = f shown.dialog := by
  obtain ⟨shown, hshown, rfl⟩ := Option.map_eq_some_iff.mp h
  exact ⟨shown, hshown, rfl, rfl⟩

/-! ## Input -/

theorem Invariant.scan (h : Invariant c) (hidle : c.window.running = false) (hhidden : c.window.Hidden) :
    Invariant { c with window := { c.window with scanning := true } } where
  sound := h.sound
  retired := h.retired
  consistent := h.consistent
  opening := fun shown hshown hstage => by
    have hcontrol := (h.consistent shown hshown).1.control
    have hopen := hcontrol.open_until_finished (by
      rw [show shown.dialog.control.stage = .confirmation from hstage]
      exact fun hsame => by cases hsame)
    have hclosed := hhidden shown hshown
    rw [show shown.dialog.closedWith = none from hopen] at hclosed
    cases hclosed
  outcome := fun shown hshown outcome hindicator => by
    obtain ⟨worker, hshows⟩ := h.outcome shown hshown outcome hindicator
    exact ⟨worker, hshows.newest, hshows.request, hshows.signalled, hshows.step⟩
  settled := fun hrunning => by
    obtain ⟨hqueue, hworkers, hdialog⟩ := h.settled hrunning
    exact ⟨hqueue, hworkers, hdialog⟩
  underway := fun hrunning => by cases hidle.symm.trans hrunning
  closed := h.closed

theorem Invariant.scanned (h : Invariant c) :
    Invariant { c with window := { c.window with scanning := false } } where
  sound := h.sound
  retired := h.retired
  consistent := h.consistent
  opening := fun _ _ _ => rfl
  outcome := fun shown hshown outcome hindicator => by
    obtain ⟨worker, hshows⟩ := h.outcome shown hshown outcome hindicator
    exact ⟨worker, hshows.newest, hshows.request, hshows.signalled, hshows.step⟩
  settled := fun hrunning => by
    obtain ⟨hqueue, hworkers, hdialog⟩ := h.settled hrunning
    exact ⟨hqueue, hworkers, hdialog⟩
  underway := fun hrunning => by
    obtain ⟨worker, shown, delivered, hunder⟩ := h.underway hrunning
    exact ⟨worker, shown, delivered, { hunder with unscanned := rfl }⟩
  closed := h.closed

/-- A dialog may open for a request that passed every check. -/
theorem Invariant.openDialog (h : Invariant c) (hidle : c.window.running = false)
    (hunscanned : c.window.scanning = false) {request : RestoreRequest}
    (hchecks : PassedChecks service request) (tr : QString → QString) :
    Invariant { c with window := { c.window with
      dialog := some ⟨request, RestoreDialog.create tr service.restorePlan⟩ } } where
  sound := h.sound
  retired := h.retired
  consistent := fun shown hshown => by
    cases hshown
    exact ⟨consistent_create tr service.restorePlan, hchecks⟩
  opening := fun _ _ _ => hunscanned
  outcome := fun shown hshown outcome hindicator => by
    cases hshown
    exact absurd hindicator.symm (indicator_ne_confirmation outcome)
  settled := fun hrunning => by
    obtain ⟨hqueue, hworkers, -⟩ := h.settled hrunning
    refine ⟨hqueue, hworkers, fun shown hshown => ?_⟩
    cases hshown
    exact fun hsame => by cases hsame
  underway := fun hrunning => by cases hidle.symm.trans hrunning
  closed := h.closed

theorem Invariant.input (h : Invariant c) {tr : QString → QString} {event : DialogEvent}
    (hmoves : ¬Moves event)
    (hunconfirmed : ∀ shown, c.window.dialog = some shown →
      DialogSignal.restoreConfirmed ∈ (shown.dialog.handle tr event).2 → c.window.running = true) :
    Invariant { c with window := c.window.withDialog fun dialog => (dialog.handle tr event).1 } where
  sound := h.sound
  retired := h.retired
  consistent := fun shown' hshown' => by
    obtain ⟨shown, hshown, hrequest, hdialog⟩ := withDialog_some hshown'
    obtain ⟨hconsistent, hchecks⟩ := h.consistent shown hshown
    rw [hrequest, hdialog]
    exact ⟨hconsistent.handle tr event, hchecks⟩
  opening := fun shown' hshown' hstage => by
    obtain ⟨shown, hshown, -, hdialog⟩ := withDialog_some hshown'
    rw [hdialog] at hstage
    refine h.opening shown hshown ?_
    by_contra hleft
    exact (handle_step tr shown.dialog event).onward.left hleft hstage
  outcome := fun shown' hshown' outcome hindicator => by
    obtain ⟨shown, hshown, hrequest, hdialog⟩ := withDialog_some hshown'
    have hunmoved := handle_unmoved tr shown.dialog hmoves
    rw [hdialog] at hindicator
    rcases hunmoved.stage with ⟨-, hsame⟩ | ⟨-, -, hactive⟩
    · obtain ⟨worker, hshows⟩ := h.outcome shown hshown outcome (hsame.symm.trans hindicator)
      refine ⟨worker, hshows.newest, ?_, hshows.signalled, ?_⟩
      · rw [hrequest]
        exact hshows.request
      · rw [hdialog, hunmoved.step]
        exact hshows.step
    · exact absurd (hindicator.symm.trans hactive) (indicator_ne_active outcome)
  settled := fun hrunning => by
    obtain ⟨hqueue, hworkers, hstage⟩ := h.settled hrunning
    refine ⟨hqueue, hworkers, fun shown' hshown' hstarted => ?_⟩
    obtain ⟨shown, hshown, -, hdialog⟩ := withDialog_some hshown'
    rw [hdialog] at hstarted
    rcases (handle_unmoved tr shown.dialog hmoves).stage with
      ⟨hsame | ⟨-, hdismissed⟩, -⟩ | ⟨hopening, -, -⟩
    · exact hstage shown hshown (hsame.symm.trans hstarted)
    · cases hdismissed.symm.trans hstarted
    · have hconfirmed := hunconfirmed shown hshown (confirmed_of_running hopening hstarted)
      cases hrunning.symm.trans hconfirmed
  underway := fun hrunning => by
    obtain ⟨worker, shown, delivered, hunder⟩ := h.underway hrunning
    have hunmoved := handle_unmoved tr shown.dialog hmoves
    refine ⟨worker, { shown with dialog := (shown.dialog.handle tr event).1 }, delivered,
      { hunder with
        dialog := by simp [WindowControl.withDialog, hunder.dialog]
        stage := hunmoved.running hunder.stage
        step := hunmoved.step.trans hunder.step }⟩
  closed := h.closed

/-- A dialog that is confirmed while nothing runs gets a worker of its own, which is the newest. -/
theorem Invariant.confirm (h : Invariant c) {tr : QString → QString} {event : DialogEvent}
    (hmoves : ¬Moves event) (hopen : c.closed = false) (hidle : c.window.running = false)
    {shown : RequestDialog} (hshown : c.window.dialog = some shown)
    (hstage : shown.dialog.stage = .confirmation)
    (hconfirmed : (shown.dialog.handle tr event).1.stage = .running) (installed : Catalog) :
    Invariant { c with
      window := { c.window.withDialog fun dialog => (dialog.handle tr event).1 with
        running := true, restoreStep := 0, worker := true }
      workers := RestoreWorker.create installed shown.request :: c.workers } := by
  obtain ⟨hqueue, hworkers, -⟩ := h.settled hidle
  obtain ⟨hconsistent, hchecks⟩ := h.consistent shown hshown
  have hdialog : ∀ shown', (c.window.withDialog fun dialog => (dialog.handle tr event).1).dialog =
      some shown' → shown' = { shown with dialog := (shown.dialog.handle tr event).1 } := by
    intro shown' hshown'
    rw [WindowControl.withDialog, hshown] at hshown'
    exact (Option.some.inj hshown').symm
  have hnow := hconsistent.handle tr event
  constructor
  · intro worker hworker
    rcases List.mem_cons.mp hworker with rfl | hbefore
    · exact ⟨RestoreWorker.sound_create installed shown.request, hchecks⟩
    · exact h.sound worker hbefore
  · exact hworkers
  · intro shown' hshown'
    rw [hdialog shown' hshown']
    exact ⟨hnow, hchecks⟩
  · intro _ _ _
    exact h.opening shown hshown hstage
  · intro shown' hshown' outcome hindicator
    rw [hdialog shown' hshown'] at hindicator
    refine (no_outcome hnow ?_ hindicator).elim
    rw [hconfirmed]
    exact fun hsame => by cases hsame
  · intro hrunning
    cases hrunning
  · intro _
    have hstep : (shown.dialog.handle tr event).1.step = 0 :=
      (handle_unmoved tr shown.dialog hmoves).step.trans (hconsistent.control.opening hstage)
    refine ⟨RestoreWorker.create installed shown.request,
      { shown with dialog := (shown.dialog.handle tr event).1 }, 0, rfl, ?_, hconfirmed, rfl,
      h.opening shown hshown hstage, (Nat.zero_min _).symm, hstep, ?_⟩
    · simp [WindowControl.withDialog, hshown]
    · change Pending _ 0 c.queue 0 none
      rw [hqueue]
      exact .nil 0
  · intro hclosed
    cases hopen.symm.trans hclosed

theorem Invariant.cancel (h : Invariant c) {tr : QString → QString} {event : DialogEvent}
    (hmoves : ¬Moves event) (hrunning : c.window.running = true) :
    Invariant { c with
      window := c.window.withDialog fun dialog => (dialog.handle tr event).1.setCancelling tr
      workers := c.workers.modifyHead RestoreWorker.requestCancel } := by
  obtain ⟨worker, shown, delivered, hunder⟩ := h.underway hrunning
  obtain ⟨hconsistent, hchecks⟩ := h.consistent shown hunder.dialog
  have hfirst := handle_unmoved tr shown.dialog hmoves
  have hsecond : Unmoved (shown.dialog.handle tr event).1
      ((shown.dialog.handle tr event).1.setCancelling tr) :=
    handle_unmoved tr _ (show ¬Moves .setCancelling from id)
  have hnow : Consistent service.restorePlan ((shown.dialog.handle tr event).1.setCancelling tr) :=
    (hconsistent.handle tr event).handle tr .setCancelling
  have hstage := hsecond.running (hfirst.running hunder.stage)
  have hdialog : ∀ shown',
      (c.window.withDialog fun dialog => (dialog.handle tr event).1.setCancelling tr).dialog =
        some shown' →
      shown' = { shown with dialog := (shown.dialog.handle tr event).1.setCancelling tr } := by
    intro shown' hshown'
    rw [WindowControl.withDialog, hunder.dialog] at hshown'
    exact (Option.some.inj hshown').symm
  obtain ⟨rest, hworkers⟩ := List.head?_eq_some_iff.mp hunder.newest
  have hretired := h.retired
  have hsound := h.sound
  rw [hworkers] at hretired hsound
  rw [hworkers]
  constructor
  · intro worker' hworker'
    rcases List.mem_cons.mp hworker' with rfl | hbefore
    · obtain ⟨hworker, hpassed⟩ := hsound worker List.mem_cons_self
      exact ⟨hworker.requestCancel, hpassed⟩
    · exact hsound worker' (List.mem_cons_of_mem _ hbefore)
  · exact hretired
  · intro shown' hshown'
    rw [hdialog shown' hshown']
    exact ⟨hnow, hchecks⟩
  · intro _ _ _
    exact hunder.unscanned
  · intro shown' hshown' outcome hindicator
    rw [hdialog shown' hshown'] at hindicator
    refine (no_outcome hnow ?_ hindicator).elim
    rw [hstage]
    exact fun hsame => by cases hsame
  · intro hidle
    cases hrunning.symm.trans hidle
  · intro _
    refine ⟨worker.requestCancel,
      { shown with dialog := (shown.dialog.handle tr event).1.setCancelling tr }, delivered, rfl, ?_,
      hstage, hunder.request, hunder.unscanned, hunder.restoreStep,
      (hsecond.step.trans hfirst.step).trans hunder.step, hunder.pending⟩
    simp [WindowControl.withDialog, hunder.dialog]
  · exact h.closed

/-! ## Signals -/

/-- A signal is only there while a restore is under way. -/
theorem Invariant.signalled (h : Invariant c) {signal : WorkerSignal} {queue : List WorkerSignal}
    (hnext : c.queue = signal :: queue) :
    c.window.running = true ∧ ∃ worker shown delivered, Underway c worker shown delivered := by
  cases hrunning : c.window.running with
  | false => cases hnext.symm.trans (h.settled hrunning).queue
  | true => exact ⟨rfl, h.underway hrunning⟩

theorem Invariant.log (h : Invariant c) {signal : WorkerSignal} {queue : List WorkerSignal}
    (hnext : c.queue = signal :: queue) (hlog : signal.isLog = true) : Invariant { c with queue } := by
  obtain ⟨hrunning, worker, shown, delivered, hunder⟩ := h.signalled hnext
  have hpending := hunder.pending
  rw [hnext] at hpending
  refine ⟨h.sound, h.retired, h.consistent, h.opening, fun shown' hshown' outcome hindicator => ?_,
    fun hidle => ?_, fun _ => ⟨worker, shown, delivered, { hunder with
      pending := Pending.of_log hpending hlog }⟩, h.closed⟩
  · obtain ⟨worker', hshows⟩ := h.outcome shown' hshown' outcome hindicator
    exact ⟨worker', hshows.newest, hshows.request, hshows.signalled, hshows.step⟩
  · cases hrunning.symm.trans hidle

omit [Host] in
/-- A dialog that is shown the steps of its plan takes each that is the next. -/
theorem setProgress_step {dialog : RestoreDialog} (h : dialog.Consistent service.restorePlan)
    (hstage : dialog.stage = .running) {delivered : Nat}
    (hstep : dialog.step = min delivered service.totalRestoreSteps) (tr : QString → QString)
    (message : QString) :
    let next := dialog.setProgress tr (min (delivered + 1) service.totalRestoreSteps : Nat)
      service.totalRestoreSteps message
    next.2.stage = .running ∧ next.2.step = min (delivered + 1) service.totalRestoreSteps ∧
      (delivered < service.totalRestoreSteps → next.1 = true) := by
  intro next
  have hrows : dialog.rows.length = service.totalRestoreSteps := h.control.steps
  by_cases hmore : delivered < service.totalRestoreSteps
  · have hnumber : min (delivered + 1) service.totalRestoreSteps = dialog.step + 1 := by omega
    obtain ⟨haccepted, hnext, hrunning, -, -⟩ := setProgress_next tr hstage
      (min (delivered + 1) service.totalRestoreSteps : Nat) service.totalRestoreSteps message
      (by rw [hrows]) (by rw [hnumber]; rfl) (by omega)
    exact ⟨hrunning, hnext.trans hnumber.symm, fun _ => haccepted⟩
  · have hrefused : next.1 = false := by
      refine (Bool.not_eq_true _).mp fun haccepted => ?_
      obtain ⟨-, -, hnext, hroom⟩ := setProgress_accepted haccepted
      omega
    have hsame : next.2 = dialog := setProgress_refused hrefused
    rw [hsame]
    exact ⟨hstage, by omega, fun hless => absurd hless hmore⟩

/-- The dialog takes the progress that is next in the queue. -/
theorem Invariant.progress (h : Invariant c) {tr : QString → QString} {step totalSteps : Nat}
    {message : QString} {queue : List WorkerSignal}
    (hnext : c.queue = .progress step totalSteps message :: queue) :
    Invariant { c with
      window := { c.window.withDialog fun dialog => (dialog.setProgress tr step totalSteps message).2 with
        restoreStep := step }
      queue } := by
  obtain ⟨hrunning, worker, shown, delivered, hunder⟩ := h.signalled hnext
  obtain ⟨hconsistent, hchecks⟩ := h.consistent shown hunder.dialog
  have hpending := hunder.pending
  rw [hnext] at hpending
  obtain ⟨rfl, rfl, hrest⟩ := Pending.of_progress hpending
  obtain ⟨hstage, hstep, -⟩ := setProgress_step hconsistent hunder.stage
    (hunder.step.trans hunder.restoreStep) tr message
  have hnow := hconsistent.handle tr (.setProgress (min (delivered + 1) service.totalRestoreSteps : Nat)
    service.totalRestoreSteps message)
  have hdialog : ∀ {shown'},
      (c.window.withDialog fun dialog => (dialog.setProgress tr
        (min (delivered + 1) service.totalRestoreSteps : Nat) service.totalRestoreSteps message).2).dialog =
        some shown' →
      shown' = { shown with dialog := (shown.dialog.setProgress tr
        (min (delivered + 1) service.totalRestoreSteps : Nat) service.totalRestoreSteps message).2 } := by
    intro shown' hshown'
    rw [WindowControl.withDialog, hunder.dialog] at hshown'
    exact (Option.some.inj hshown').symm
  refine ⟨h.sound, h.retired, fun shown' hshown' => ?_, fun _ _ _ => hunder.unscanned,
    fun shown' hshown' outcome hindicator => ?_, fun hidle => ?_, fun _ => ?_, h.closed⟩
  · rw [hdialog hshown']
    exact ⟨hnow, hchecks⟩
  · rw [hdialog hshown'] at hindicator
    refine (no_outcome hnow (fun hfinished => ?_) hindicator).elim
    cases hstage.symm.trans hfinished
  · cases hrunning.symm.trans hidle
  · refine ⟨worker, { shown with dialog := (shown.dialog.setProgress tr
        (min (delivered + 1) service.totalRestoreSteps : Nat) service.totalRestoreSteps message).2 },
      delivered + 1, hunder.newest, ?_, hstage, hunder.request, hunder.unscanned, rfl, hstep, hrest⟩
    simp [WindowControl.withDialog, hunder.dialog]

/-- The dialog takes the end that is next in the queue. -/
theorem Invariant.ended (h : Invariant c) {tr : QString → QString} {signal : WorkerSignal}
    {outcome : Outcome} {title message : QString} {queue : List WorkerSignal}
    (hnext : c.queue = signal :: queue) (houtcome : signal.outcome = some outcome) :
    Invariant { c with
      window := { c.window.withDialog fun dialog => dialog.finish tr title message outcome with
        running := false, scanning := true, worker := false }
      queue } := by
  obtain ⟨hrunning, worker, shown, delivered, hunder⟩ := h.signalled hnext
  obtain ⟨hconsistent, hchecks⟩ := h.consistent shown hunder.dialog
  have hpending := hunder.pending
  rw [hnext] at hpending
  obtain ⟨rfl, hcount, result, hended, hresult⟩ := Pending.of_outcome hpending houtcome
  obtain ⟨hfinished, hindicator, hstep, -⟩ := finish_fields tr hunder.stage title message outcome
  have hdialog : ∀ {shown'},
      (c.window.withDialog fun dialog => dialog.finish tr title message outcome).dialog = some shown' →
      shown' = { shown with dialog := shown.dialog.finish tr title message outcome } := by
    intro shown' hshown'
    rw [WindowControl.withDialog, hunder.dialog] at hshown'
    exact (Option.some.inj hshown').symm
  obtain ⟨rest, hworkers⟩ := List.head?_eq_some_iff.mp hunder.newest
  refine ⟨h.sound, h.retired, fun shown' hshown' => ?_, fun shown' hshown' hstage => ?_,
    fun shown' hshown' outcome' hshowsOutcome => ?_, fun _ => ⟨rfl, fun worker' hworker' => ?_,
      fun shown' hshown' hstage => ?_⟩, fun hagain => ?_, fun _ => rfl⟩
  · rw [hdialog hshown']
    exact ⟨finish_consistent hconsistent title message outcome, hchecks⟩
  · rw [hdialog hshown'] at hstage
    cases hfinished.symm.trans hstage
  · rw [hdialog hshown'] at hshowsOutcome ⊢
    obtain rfl := indicator_injective (hindicator.symm.trans hshowsOutcome)
    refine ⟨worker, hunder.newest, hunder.request, ⟨result, hended, hresult⟩, ?_⟩
    change (shown.dialog.finish tr title message outcome).step = _
    rw [hstep, hunder.step, hunder.restoreStep, hcount]
  · have hmember : worker' ∈ worker :: rest := hworkers ▸ hworker'
    rcases List.mem_cons.mp hmember with rfl | hbefore
    · cases hresult' : worker'.result with
      | some result => rfl
      | none =>
        have hsilent := (h.sound worker' hworker').1.running hresult'
        cases hsilent.symm.trans hended
    · refine h.retired worker' ?_
      rw [hworkers]
      exact hbefore
  · rw [hdialog hshown'] at hstage
    cases hfinished.symm.trans hstage
  · cases hagain

/-! ## Turns -/

/-- A turn of a worker keeps the queue in order. -/
theorem Invariant.turn (h : Invariant c) {index : Nat} {worker worker' : RestoreWorker service}
    {signals : List WorkerSignal} (hpresent : c.workers[index]? = some worker)
    {now : Nat}
    {answer : (o : (service.I worker.installed).Op) → (service.I worker.installed).Ans o}
    (hturn : worker.turn answer now = some (worker', signals)) :
    Invariant { c with workers := c.workers.set index worker', queue := c.queue ++ signals } := by
  obtain ⟨hsound, hchecks⟩ := h.sound worker (List.mem_of_getElem? hpresent)
  obtain ⟨hunfinished, hrequest, hsound', hpending⟩ := RestoreWorker.turn_turned hsound hturn
  have hrunning : c.window.running = true := by
    refine (Bool.not_eq_false _).mp fun hidle => ?_
    have hended := (h.settled hidle).workers worker (List.mem_of_getElem? hpresent)
    rw [hunfinished] at hended
    cases hended
  obtain ⟨newest, shown, delivered, hunder⟩ := h.underway hrunning
  obtain ⟨rest, hworkers⟩ := List.head?_eq_some_iff.mp hunder.newest
  -- An earlier worker has ended.
  obtain rfl : index = 0 := by
    by_contra hlater
    obtain ⟨earlier, rfl⟩ := Nat.exists_eq_succ_of_ne_zero hlater
    rw [hworkers, List.getElem?_cons_succ] at hpresent
    have hended := h.retired worker (by
      rw [hworkers]
      exact List.mem_of_getElem? hpresent)
    rw [hunfinished] at hended
    cases hended
  rw [hworkers, List.getElem?_cons_zero] at hpresent
  obtain rfl := Option.some.inj hpresent
  have hretired := h.retired
  have hall := h.sound
  rw [hworkers] at hretired hall
  rw [hworkers]
  have hnone := hsound.running hunfinished
  have hbefore := hunder.pending
  rw [hnone] at hbefore
  obtain ⟨hconsistent, -⟩ := h.consistent shown hunder.dialog
  refine ⟨fun worker'' hworker'' => ?_, hretired, h.consistent, h.opening,
    fun shown' hshown' outcome hindicator => ?_, fun hidle => ?_,
    fun _ => ⟨worker', shown, delivered, rfl, hunder.dialog, hunder.stage, hrequest.trans hunder.request,
      hunder.unscanned, hunder.restoreStep, hunder.step, hbefore.append hpending⟩, h.closed⟩
  · rcases List.mem_cons.mp hworker'' with rfl | hrest
    · exact ⟨hsound', hrequest ▸ hchecks⟩
    · exact hall worker'' (List.mem_cons_of_mem _ hrest)
  · obtain rfl := Option.some.inj (hunder.dialog.symm.trans hshown')
    refine (no_outcome hconsistent ?_ hindicator).elim
    rw [hunder.stage]
    exact fun hsame => by cases hsame
  · cases hrunning.symm.trans hidle

/-! ## Every step -/

/-- Every step of the coordination keeps the invariant, one case for each kind of step. -/
theorem Invariant.step (h : Invariant c) (hstep : Step c c') : Invariant c' := by
  cases hstep with
  | idle => exact h
  | scan idle hidden => exact h.scan idle hidden
  | scanned => exact h.scanned
  | openDialog idle unscanned hidden request tr checks => exact h.openDialog idle unscanned checks tr
  | input tr event unmoved unconfirmed => exact h.input unmoved unconfirmed
  | confirm tr event unmoved unclosed idle shown dialog stage ticked confirmed installed =>
    exact h.confirm unmoved unclosed idle dialog stage confirmed installed
  | cancel tr event unmoved running early => exact h.cancel unmoved running
  | log signal queue next isLog => exact h.log next isLog
  | progress tr step totalSteps message queue next => exact h.progress next
  | ended tr signal outcome title message queue next isOutcome => exact h.ended next isOutcome
  | turn index worker worker' signals present now answer turned => exact h.turn present turned
  | close idle =>
    refine ⟨h.sound, h.retired, h.consistent, h.opening, fun shown hshown outcome hindicator => ?_,
      fun hrunning => ?_, fun hrunning => ?_, fun _ => idle⟩
    · obtain ⟨worker, hshows⟩ := h.outcome shown hshown outcome hindicator
      exact ⟨worker, hshows.newest, hshows.request, hshows.signalled, hshows.step⟩
    · obtain ⟨hqueue, hworkers, hdialog⟩ := h.settled hrunning
      exact ⟨hqueue, hworkers, hdialog⟩
    · cases idle.symm.trans hrunning

end Coordination

end UsbRestore
