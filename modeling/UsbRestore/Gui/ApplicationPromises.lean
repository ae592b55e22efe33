-- SUMMARY: What the user of the application can rely on, with any backend and with one that follows its plan.
import UsbRestore.Gui.ApplicationRun

/-!
# The promises of the application

Whatever the user, the scans and the workers do and in whatever order, one checked and confirmed restore
runs at a time, and the dialog shows how it has ended. With a backend that follows its plan, what the
dialog and the window say of the disk is true.
-/

namespace UsbRestore

open RestoreDialog Coordination

namespace Application

variable [Host] {service : DiskService} {app : Application service}

/-! ## Any backend -/

structure KeepsPromises (app : Application service) : Prop where
  /-- All workers but the last have ended. -/
  oneRestore : ∀ worker ∈ app.workers.tail, worker.result.isSome = true
  checked : ∀ worker ∈ app.workers, PassedChecks service worker.request
  exclusive : ¬(app.window.restoreRunning = true ∧ app.window.scanning = true)
  idle : app.window.restoreRunning = false →
    app.queue = [] ∧ ∀ worker ∈ app.workers, worker.result.isSome = true
  /-- The dialog of the restore is on the screen, and the worker is where it is or ahead of it. -/
  running : app.window.restoreRunning = true → ∃ worker shown,
    app.workers.head? = some worker ∧ app.window.restoreDialog = some shown ∧
      worker.request = shown.request ∧ shown.dialog.stage = .running ∧ shown.dialog.closedWith = none ∧
      shown.dialog.step = app.window.restoreStep ∧ app.window.restoreStep ≤ worker.step
  /-- An outcome on the screen is that of the last worker, and so are the rows. -/
  outcome : ∀ shown (outcome : Outcome), app.window.restoreDialog = some shown →
    shown.dialog.indicator = outcome.indicator → ∃ worker result cancelled,
      app.workers.head? = some worker ∧ worker.request = shown.request ∧ worker.result = some result ∧
        (restoreWorkerSignal worker.installed cancelled result).outcome = outcome ∧
        shown.dialog.step = worker.step ∧ shown.dialog.RowsAre (endRow outcome worker.step)
  /-- A worker is started for a ticked confirmation, when no other is at work. -/
  started : ∀ next app', app.act next = some app' → app'.workers.length ≠ app.workers.length →
    app.window.scanning = false ∧ (∀ worker ∈ app.workers, worker.result.isSome = true) ∧
      ∃ shown installed, app.window.restoreDialog = some shown ∧
        shown.dialog.stage = .confirmation ∧ shown.dialog.acknowledged = true ∧
        app'.workers = RestoreWorker.create installed shown.request :: app.workers
  closed : app.closed = true → ∀ worker ∈ app.workers, worker.result.isSome = true

theorem invariant_start (texts : Translators) (language : Language) (style : PartitionStyle)
    (fileSystem : FileSystemType) :
    Invariant (start texts language style fileSystem : Application service).coordination := by
  have hstart : (start texts language style fileSystem : Application service).coordination =
      { window :=
          { running := false, scanning := true, restoreStep := 0, worker := false, dialog := none }
        workers := []
        queue := []
        closed := false } := by
    obtain ⟨hcontrol, heffects⟩ := MainWindow.refreshDisks_control service
      { texts, language, style, fileSystem }
    unfold start MainWindow.create
    rw [perform_coordination heffects, hcontrol]
    rfl
  rw [hstart]
  constructor
  · exact fun worker hworker => absurd hworker List.not_mem_nil
  · exact fun worker hworker => absurd hworker List.not_mem_nil
  · exact fun shown hshown => by cases hshown
  · exact fun shown hshown => by cases hshown
  · exact fun shown hshown => by cases hshown
  · exact fun _ => ⟨rfl, fun worker hworker => absurd hworker List.not_mem_nil, fun shown hshown => by
      cases hshown⟩
  · exact fun hrunning => by cases hrunning
  · exact fun hclosed => by cases hclosed

theorem Reachable.invariant (h : app.Reachable) : Invariant app.coordination := by
  induction h with
  | start texts language style fileSystem => exact invariant_start texts language style fileSystem
  | step before next acts ih => exact ih.step (act_step acts)

/-- The step in which the number of workers changes. -/
theorem started_of_step {c c' : Coordination service} (h : Invariant c) (hstep : Step c c')
    (hmore : c'.workers.length ≠ c.workers.length) :
    c.window.scanning = false ∧ (∀ worker ∈ c.workers, worker.result.isSome = true) ∧
      ∃ shown installed, c.window.dialog = some shown ∧ shown.dialog.stage = .confirmation ∧
        shown.dialog.acknowledged = true ∧
        c'.workers = RestoreWorker.create installed shown.request :: c.workers := by
  cases hstep with
  | confirm tr event unmoved unclosed idle shown dialog stage ticked confirmed installed =>
    exact ⟨h.opening shown dialog stage, (h.settled idle).workers, shown, installed, dialog, stage,
      ticked, rfl⟩
  | cancel tr event unmoved running early => exact absurd List.length_modifyHead hmore
  | turn index worker worker' signals present now answer turned => exact absurd List.length_set hmore
  | idle => exact absurd rfl hmore
  | scan idle hidden => exact absurd rfl hmore
  | scanned => exact absurd rfl hmore
  | openDialog idle unscanned hidden request tr checks => exact absurd rfl hmore
  | input tr event unmoved unconfirmed => exact absurd rfl hmore
  | log signal queue next isLog => exact absurd rfl hmore
  | progress tr step totalSteps message queue next => exact absurd rfl hmore
  | ended tr signal outcome title message queue next isOutcome => exact absurd rfl hmore
  | close idle => exact absurd rfl hmore

/-- What the dialog shows, in terms of what the last worker returned. -/
theorem shows_result {c : Coordination service} (h : Invariant c) {shown : RequestDialog}
    {outcome : Outcome} {worker : RestoreWorker service} (hshows : Shows c shown outcome worker) :
    worker.Sound ∧ ∃ result cancelled, worker.result = some result ∧
      (restoreWorkerSignal worker.installed cancelled result).outcome = outcome ∧
      (service.WasCancelled worker.calls → cancelled = true) ∧ shown.dialog.step = worker.step := by
  obtain ⟨rest, hworkers⟩ := List.head?_eq_some_iff.mp hshows.newest
  obtain ⟨hsound, -⟩ := h.sound worker (by rw [hworkers]; exact List.mem_cons_self)
  obtain ⟨signal, hsignalled, houtcome⟩ := hshows.signalled
  refine ⟨hsound, ?_⟩
  cases hresult : worker.result with
  | none => cases (hsound.running hresult).symm.trans hsignalled
  | some result =>
    obtain ⟨cancelled, hsignal, hflag⟩ := hsound.signalled result hresult
    obtain rfl := Option.some.inj (hsignal.symm.trans hsignalled)
    exact ⟨result, cancelled, rfl, houtcome, hflag, hshows.step.trans hsound.step.symm⟩

/-- In every state the application comes to, with whatever backend. -/
theorem reachable_keepsPromises (h : app.Reachable) : app.KeepsPromises := by
  have hinvariant := h.invariant
  refine ⟨hinvariant.retired, fun worker hworker => (hinvariant.sound worker hworker).2, ?_, ?_, ?_, ?_,
    ?_, ?_⟩
  · rintro ⟨hrunning, hscanning⟩
    obtain ⟨worker, shown, delivered, hunder⟩ := hinvariant.underway hrunning
    cases hunder.unscanned.symm.trans hscanning
  · intro hidle
    obtain ⟨hqueue, hworkers, -⟩ := hinvariant.settled hidle
    exact ⟨hqueue, hworkers⟩
  · intro hrunning
    obtain ⟨worker, shown, delivered, hunder⟩ := hinvariant.underway hrunning
    obtain ⟨rest, hworkers⟩ := List.head?_eq_some_iff.mp hunder.newest
    obtain ⟨hsound, -⟩ := hinvariant.sound worker (by rw [hworkers]; exact List.mem_cons_self)
    have hopen := (hinvariant.consistent shown hunder.dialog).1.control.open_until_finished (by
      rw [show shown.dialog.control.stage = .running from hunder.stage]
      exact nofun)
    have hahead := hunder.pending.le
    refine ⟨worker, shown, hunder.newest, hunder.dialog, hunder.request, hunder.stage, hopen,
      hunder.step, ?_⟩
    rw [hsound.step, show app.window.restoreStep = _ from hunder.restoreStep]
    omega
  · intro shown outcome hshown hindicator
    obtain ⟨worker, hshows⟩ := hinvariant.outcome shown hshown outcome hindicator
    obtain ⟨-, result, cancelled, hresult, houtcome, -, hstep⟩ := shows_result hinvariant hshows
    have hrows := ((hinvariant.consistent shown hshown).1.ended_of_outcome hindicator).2
    rw [hstep] at hrows
    exact ⟨worker, result, cancelled, hshows.newest, hshows.request, hresult, houtcome, hstep, hrows⟩
  · exact fun next app' hacts hmore => started_of_step hinvariant (act_step hacts) hmore
  · exact fun hclosed => (hinvariant.settled (hinvariant.closed hclosed)).workers

/-! ## A backend that follows its plan -/

/-- What the dialog and the window tell of the disk. -/
structure TellsTheTruth (app : Application service) : Prop where
  /-- No step of a restore is ignored by the dialog. -/
  accepted : ∀ step totalSteps message queue, app.queue = .progress step totalSteps message :: queue →
    ∃ shown, app.window.restoreDialog = some shown ∧
      (shown.dialog.setProgress app.window.texts.dialog step totalSteps message).1 = true
  /-- The dialog is as far behind the worker as the queue says; where that is before the first
  destructive step, nothing is changed. -/
  progress : app.window.restoreRunning = true → ∃ worker, app.workers.head? = some worker ∧
    service.stepCount worker.calls = app.window.restoreStep + stepsAhead app.queue ∧
    (app.window.restoreStep + stepsAhead app.queue < service.firstDestructiveStep →
      service.Untouched worker.calls)
  complete : ∀ shown, app.window.restoreDialog = some shown → shown.dialog.indicator = .complete →
    ∃ worker result, app.workers.head? = some worker ∧ worker.request = shown.request ∧
      worker.result = some (.ok result) ∧
      service.stepCount worker.calls = service.totalRestoreSteps ∧ shown.dialog.RowsAre fun _ => .complete
  cancelled : ∀ shown, app.window.restoreDialog = some shown → shown.dialog.indicator = .cancelled →
    ∃ worker, app.workers.head? = some worker ∧ worker.request = shown.request ∧
      service.WasCancelled worker.calls ∧ service.Untouched worker.calls
  failed : ∀ shown, app.window.restoreDialog = some shown → shown.dialog.indicator = .error →
    ∃ worker error, app.workers.head? = some worker ∧ worker.request = shown.request ∧
      worker.result = some (.error error) ∧ error.english ≠ [] ∧
      shown.dialog.step = service.stepCount worker.calls

omit [Host] in
/-- The worker counts the steps that its backend has reported. -/
theorem steps_of_sound (hfollows : service.Follows) {worker : RestoreWorker service}
    (h : worker.Sound) : worker.step = service.stepCount worker.calls := by
  rw [h.step]
  exact Nat.min_eq_left (hfollows.steps h.left.run)

omit [Host] in
/-- A failure without a message is signalled as the cancellation it is. -/
theorem signal_of_error (hfollows : service.Follows) {worker : RestoreWorker service}
    (h : worker.Sound) {error : RestoreMessage} {cancelled : Bool}
    (hresult : worker.result = some (.error error))
    (hflag : service.WasCancelled worker.calls → cancelled = true) :
    (error.english = [] ∧ service.WasCancelled worker.calls ∧ service.Untouched worker.calls ∧
        restoreWorkerSignal worker.installed cancelled (.error error) = .cancelled) ∨
      error.english ≠ [] ∧
        (restoreWorkerSignal worker.installed cancelled (.error error)).outcome = .error := by
  by_cases hnil : error.english = []
  · obtain ⟨hcancelled, huntouched⟩ := hfollows.stopped (h.ended _ hresult) hnil
    refine .inl ⟨hnil, hcancelled, huntouched, ?_⟩
    unfold restoreWorkerSignal
    dsimp only
    rw [hflag hcancelled, hnil]
    rfl
  · refine .inr ⟨hnil, ?_⟩
    unfold restoreWorkerSignal
    dsimp only
    rw [if_neg]
    · rfl
    · rw [Bool.and_eq_true, List.isEmpty_iff]
      exact fun hboth => hnil hboth.2

/-- In every state the application comes to with such a backend. -/
theorem reachable_tellsTheTruth (hfollows : service.Follows) (h : app.Reachable) :
    app.TellsTheTruth := by
  have hinvariant := h.invariant
  refine ⟨fun step totalSteps message queue hqueue => ?_, fun hrunning => ?_, fun shown hshown hcomplete => ?_,
    fun shown hshown hcancelled => ?_, fun shown hshown hfailed => ?_⟩
  · obtain ⟨hrunning, worker, shown, delivered, hunder⟩ := hinvariant.signalled hqueue
    obtain ⟨rest, hworkers⟩ := List.head?_eq_some_iff.mp hunder.newest
    obtain ⟨hsound, -⟩ := hinvariant.sound worker (by rw [hworkers]; exact List.mem_cons_self)
    obtain ⟨hconsistent, -⟩ := hinvariant.consistent shown hunder.dialog
    have hpending := hunder.pending
    rw [show app.coordination.queue = _ from hqueue] at hpending
    obtain ⟨rfl, rfl, hrest⟩ := hpending.of_progress
    obtain ⟨-, -, haccepts⟩ := setProgress_step hconsistent hunder.stage
      (hunder.step.trans hunder.restoreStep) app.window.texts.dialog message
    exact ⟨shown, hunder.dialog, haccepts (Nat.lt_of_lt_of_le hrest.le (hfollows.steps hsound.left.run))⟩
  · obtain ⟨worker, shown, delivered, hunder⟩ := hinvariant.underway hrunning
    obtain ⟨rest, hworkers⟩ := List.head?_eq_some_iff.mp hunder.newest
    obtain ⟨hsound, -⟩ := hinvariant.sound worker (by rw [hworkers]; exact List.mem_cons_self)
    have hcount := hunder.pending.count
    have hbound := hfollows.steps hsound.left.run
    have hstep : app.window.restoreStep = delivered := by
      have hmin : app.window.restoreStep = min delivered service.totalRestoreSteps := hunder.restoreStep
      omega
    have hahead : service.stepCount worker.calls = app.window.restoreStep + stepsAhead app.queue := by
      rw [hstep]
      exact hcount
    refine ⟨worker, hunder.newest, hahead, fun hearly => ?_⟩
    rw [← hahead] at hearly
    exact hfollows.untouched hsound.left.run hearly
  · obtain ⟨worker, hshows⟩ := hinvariant.outcome shown hshown .complete hcomplete
    obtain ⟨hsound, result, cancelled, hresult, houtcome, hflag, hstep⟩ := shows_result hinvariant hshows
    have hrows := ((hinvariant.consistent shown hshown).1.ended_of_outcome
      (show shown.dialog.indicator = Outcome.complete.indicator from hcomplete)).2
    have hlength : shown.dialog.rows.length = service.totalRestoreSteps :=
      (hinvariant.consistent shown hshown).1.control.steps
    cases result with
    | error error =>
      rcases signal_of_error hfollows hsound hresult hflag with ⟨-, -, -, hsignal⟩ | ⟨-, hsignal⟩
      · rw [hsignal] at houtcome
        cases houtcome
      · cases hsignal.symm.trans houtcome
    | ok result =>
      have hwhole := hfollows.whole (hsound.ended _ hresult)
      refine ⟨worker, result, hshows.newest, hshows.request, hresult, hwhole, fun index hindex => ?_⟩
      rw [hrows index hindex, hstep, steps_of_sound hfollows hsound, hwhole, ← hlength]
      unfold endRow
      split
      · rfl
      · rw [if_pos (by omega)]
        rfl
  · obtain ⟨worker, hshows⟩ := hinvariant.outcome shown hshown .cancelled hcancelled
    obtain ⟨hsound, result, cancelled, hresult, houtcome, hflag, -⟩ := shows_result hinvariant hshows
    cases result with
    | ok result => cases houtcome
    | error error =>
      rcases signal_of_error hfollows hsound hresult hflag with
        ⟨-, hasked, huntouched, -⟩ | ⟨-, hsignal⟩
      · exact ⟨worker, hshows.newest, hshows.request, hasked, huntouched⟩
      · cases hsignal.symm.trans houtcome
  · obtain ⟨worker, hshows⟩ := hinvariant.outcome shown hshown .error hfailed
    obtain ⟨hsound, result, cancelled, hresult, houtcome, hflag, hstep⟩ := shows_result hinvariant hshows
    cases result with
    | ok result => cases houtcome
    | error error =>
      rcases signal_of_error hfollows hsound hresult hflag with ⟨-, -, -, hsignal⟩ | ⟨hexplained, -⟩
      · rw [hsignal] at houtcome
        cases houtcome
      · exact ⟨worker, error, hshows.newest, hshows.request, hresult, hexplained,
          hstep.trans (steps_of_sound hfollows hsound)⟩

end Application

end UsbRestore
