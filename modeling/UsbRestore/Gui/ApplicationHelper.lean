-- SUMMARY: The application without root: what the dialog shows is what the helper has done.
import UsbRestore.Gui.ApplicationPromises
import UsbRestore.Helper.WriteSafety
import UsbRestore.Linux.ProcessOutcomes
import UsbRestore.Platform.Services

/-!
# The application and its helper

Run by an ordinary user, the application on Linux leaves a restore to the helper. A turn of its worker
is then a call of the client, and what the dialog shows of a restore is what another process did.
-/

namespace UsbRestore

open Prog RestoreDialog Coordination

/-! ## The client as a backend -/

namespace LinuxDiskService

variable [Host]

def clientReport : Event ClientI → Option Report
  | ⟨ClientOp.step message, _⟩ => some (.step message)
  | ⟨ClientOp.detail message, _⟩ => some (.detail message)
  | ⟨ClientOp.cancelRequested, answer⟩ => some (.cancelRequested answer)
  | _ => none

/-- The service in a process of an ordinary user, which changes no disk itself. -/
abbrev unelevated (turns : Nat) (appVersion : QString) (uiLanguages : List Language) : DiskService where
  I := fun _ => ClientI
  report := clientReport
  changes := fun {_} _ => false
  restorePlan := linuxRestorePlan
  canFormatFileSystem := canCreateFileSystemOn
  restore := fun installed request => runHelperRestore installed turns appVersion request uiLanguages

variable {turns : Nat} {appVersion : QString} {uiLanguages : List Language} {installed : Catalog}

theorem wasCancelled_of_polled {t : List (Event ClientI)} (h : true ∈ clientPolls t) :
    @DiskService.WasCancelled (unelevated turns appVersion uiLanguages) installed t := by
  obtain ⟨e, he, hpoll⟩ := List.mem_filterMap.mp h
  refine ⟨e, he, ?_⟩
  obtain ⟨o, ans⟩ := e
  cases o with
  | cancelRequested =>
    cases hpoll
    rfl
  | _ => cases hpoll

end LinuxDiskService

/-! ## What the dialog shows -/

section

open LinuxDiskService (unelevated)

variable [Host] {turns : Nat} {appVersion : QString} {uiLanguages : List Language}

/-- What the restore of a worker is begun with. -/
def RestoreWorker.launch
    (worker : RestoreWorker (unelevated turns appVersion uiLanguages))
    (fuel : LoopFuel) : RestoreLaunch where
  installed := worker.installed
  appVersion
  request := worker.request
  uiLanguages
  turns
  fuel

omit [Host] in
/-- What a failure is shown as. -/
theorem outcome_of_error (installed : Catalog) (cancelled : Bool) (error : RestoreMessage) :
    (restoreWorkerSignal installed cancelled (.error error)).outcome =
      if cancelled && error.english.isEmpty then .cancelled else .error := by
  unfold restoreWorkerSignal
  dsimp only
  split
  · rfl
  · rfl

namespace RestoreWorker

variable {worker worker' : RestoreWorker (unelevated turns appVersion uiLanguages)}

/-- What the worker has begun with stays, and a turn is at most one call of the client. -/
structure Continues
    (worker worker' : RestoreWorker (unelevated turns appVersion uiLanguages))
    (answer : (o : ClientOp) → o.Ans) : Prop where
  launch : worker'.launch = worker.launch
  calls : worker'.calls = worker.calls ∨ ∃ o next,
    (worker.program : Prog ClientI RestoreMessage RestoreResult) = .call o next ∧
      worker'.calls = worker.calls ++ [(⟨o, answer o⟩ : Event ClientI)]

theorem turn_continues {answer : (o : ClientOp) → o.Ans} {now : Nat} {signals : List WorkerSignal}
    (hturn : worker.turn answer now = some (worker', signals)) : worker.Continues worker' answer := by
  unfold turn at hturn
  split at hturn
  · cases hturn
  split at hturn
  · cases hturn
    exact ⟨rfl, .inl rfl⟩
  · cases hturn
    exact ⟨rfl, .inl rfl⟩
  · cases hturn
  · next o next hprogram =>
    dsimp only at hturn
    split at hturn
    · have hheard := Option.some.inj hturn
      have hcalled : ∀ report : Option Report, (RestoreWorker.hear
          { worker with
            program := next (answer o)
            calls := worker.calls ++ [(⟨o, answer o⟩ : Event ClientI)] } now report).1 = worker' →
          worker.Continues worker' answer := by
        rintro report rfl
        rcases report with _ | ⟨⟨message⟩ | ⟨message⟩ | ⟨asked⟩⟩
        · exact ⟨rfl, .inr ⟨o, next, hprogram, rfl⟩⟩
        · exact ⟨rfl, .inr ⟨o, next, hprogram, rfl⟩⟩
        · exact ⟨rfl, .inr ⟨o, next, hprogram, rfl⟩⟩
        · exact ⟨rfl, .inr ⟨o, next, hprogram, rfl⟩⟩
      exact hcalled _ (congrArg Prod.fst hheard)
    · cases hturn

end RestoreWorker

/-! ## The application and the processes -/

theorem Application.workers_start {service : DiskService} (texts : Translators) (language : Language)
    (style : PartitionStyle) (fileSystem : FileSystemType) :
    (Application.start texts language style fileSystem : Application service).workers = [] := by
  obtain ⟨-, heffects⟩ := MainWindow.refreshDisks_control service
    { texts, language, style, fileSystem }
  have hstarted : (Application.start texts language style fileSystem : Application service) =
      { window := (MainWindow.refreshDisks service { texts, language, style, fileSystem }).1 } := by
    unfold Application.start MainWindow.create
    rw [Application.perform_eq, heffects]
    rfl
  rw [hstarted]

/-- The application, and the processes of its last restore. -/
structure Desktop (service : DiskService) where
  app : Application service
  processes : Option RestoreProcesses := none

/-- What can happen next. -/
inductive DesktopStep (service : DiskService) where
  | application (next : ApplicationStep service)
  /-- Anything but a call of the client, which is one of the worker. -/
  | process (next : ProcessStep)

namespace Desktop

variable (fuel : LoopFuel)

/-- What a step of the application does to the processes: a worker that is started begins new ones,
and a call of the worker is answered as they allow. -/
def follow (d : Desktop (unelevated turns appVersion uiLanguages))
    (next : ApplicationStep (unelevated turns appVersion uiLanguages))
    (app : Application (unelevated turns appVersion uiLanguages)) :
    Option (Option RestoreProcesses) :=
  match app.workers with
  | [] => some none
  | worker :: _ =>
    if app.workers.length ≠ d.app.workers.length then some (some (.begun (worker.launch fuel)))
    else
      match d.processes with
      | none => none
      | some s =>
        if worker.calls.length = s.clientCalls.length then some (some s)
        else
          match next with
          | .turn _ _ answer =>
            (s.act (worker.launch fuel) (.client (answer worker.installed))).map some
          -- No other step makes a call.
          | _ => none

def act (d : Desktop (unelevated turns appVersion uiLanguages)) :
    DesktopStep (unelevated turns appVersion uiLanguages) →
      Option (Desktop (unelevated turns appVersion uiLanguages))
  | .application next =>
    (d.app.act next).bind fun app =>
      (d.follow fuel next app).map fun processes => { app, processes }
  | .process (.client _) => none
  | .process next =>
    match d.app.workers, d.processes with
    | worker :: _, some s =>
      (s.act (worker.launch fuel) next).map fun s => { d with processes := some s }
    | _, _ => none

/-- What the application and the processes can come to. -/
inductive Reachable : Desktop (unelevated turns appVersion uiLanguages) → Prop where
  | start (texts : Translators) (language : Language) (style : PartitionStyle)
    (fileSystem : FileSystemType) : Reachable { app := .start texts language style fileSystem }
  | step {d d' : Desktop (unelevated turns appVersion uiLanguages)} (before : Reachable d)
    (next : DesktopStep (unelevated turns appVersion uiLanguages))
    (acts : d.act fuel next = some d') : Reachable d'

def after (d : Desktop (unelevated turns appVersion uiLanguages))
    (steps : List (DesktopStep (unelevated turns appVersion uiLanguages))) :
    Option (Desktop (unelevated turns appVersion uiLanguages)) :=
  steps.foldlM (act fuel) d

variable {fuel} {d d' : Desktop (unelevated turns appVersion uiLanguages)}

theorem Reachable.after (h : d.Reachable fuel)
    {steps : List (DesktopStep (unelevated turns appVersion uiLanguages))}
    (hsteps : d.after fuel steps = some d') : d'.Reachable fuel :=
  foldlM_keeps (fun _ next _ before acts => before.step next acts) h hsteps

/-! ### They stay together -/

/-- The client has made the calls of the last worker. -/
structure Together (fuel : LoopFuel) (d : Desktop (unelevated turns appVersion uiLanguages)) :
    Prop where
  app : d.app.Reachable
  unstarted : d.app.workers = [] → d.processes = none
  processes : ∀ worker, d.app.workers.head? = some worker → ∃ s, d.processes = some s ∧
    RestoreProcesses.Reachable (worker.launch fuel) s ∧ s.clientCalls = worker.calls

/-- A step that starts no worker adds at most one call to those of the newest, and leaves its launch
as it is. -/
theorem newest_of_step
    {c c' : Coordination (unelevated turns appVersion uiLanguages)}
    (hstep : Step c c') (hsame : c'.workers.length = c.workers.length)
    {worker' : RestoreWorker (unelevated turns appVersion uiLanguages)}
    (hnewest : c'.workers.head? = some worker') :
    ∃ worker, c.workers.head? = some worker ∧ worker'.launch = worker.launch ∧
      (worker'.calls = worker.calls ∨ worker'.calls.length = worker.calls.length + 1) := by
  cases hstep with
  | confirm tr event unmoved unclosed idle shown dialog stage ticked confirmed installed =>
    exact absurd hsame (Nat.succ_ne_self _)
  | cancel tr event unmoved running early =>
    dsimp only at hnewest
    cases hworkers : c.workers with
    | nil =>
      rw [hworkers] at hnewest
      cases hnewest
    | cons worker rest =>
      rw [hworkers] at hnewest
      cases hnewest
      exact ⟨worker, rfl, rfl, .inl rfl⟩
  | turn index worker next signals present now answer turned =>
    dsimp only at hnewest
    cases hworkers : c.workers with
    | nil =>
      rw [hworkers] at present
      cases present
    | cons first rest =>
      rw [hworkers] at present hnewest
      cases index with
      | succ index =>
        cases hnewest
        exact ⟨worker', rfl, rfl, .inl rfl⟩
      | zero =>
        cases present
        cases hnewest
        obtain ⟨hlaunch, hcalls⟩ := RestoreWorker.turn_continues turned
        refine ⟨worker, rfl, hlaunch, hcalls.imp id ?_⟩
        rintro ⟨o, next, -, hlonger⟩
        rw [hlonger, List.length_append, List.length_singleton]
  | idle => exact ⟨worker', hnewest, rfl, .inl rfl⟩
  | scan idle hidden => exact ⟨worker', hnewest, rfl, .inl rfl⟩
  | scanned => exact ⟨worker', hnewest, rfl, .inl rfl⟩
  | openDialog idle unscanned hidden request tr checks => exact ⟨worker', hnewest, rfl, .inl rfl⟩
  | input tr event unmoved unconfirmed => exact ⟨worker', hnewest, rfl, .inl rfl⟩
  | log signal queue next isLog => exact ⟨worker', hnewest, rfl, .inl rfl⟩
  | progress tr step totalSteps message queue next => exact ⟨worker', hnewest, rfl, .inl rfl⟩
  | ended tr signal outcome title message queue next isOutcome =>
    exact ⟨worker', hnewest, rfl, .inl rfl⟩
  | close idle => exact ⟨worker', hnewest, rfl, .inl rfl⟩

/-- A call of the last worker is the first call of what was left of it. -/
theorem newest_of_turn
    {app app' : Application (unelevated turns appVersion uiLanguages)}
    {index now : Nat} {answer : Catalog → (o : ClientOp) → o.Ans}
    (hact : app.act (.turn index now answer) = some app')
    {worker worker' : RestoreWorker (unelevated turns appVersion uiLanguages)}
    (hworker : app.workers.head? = some worker) (hnewest : app'.workers.head? = some worker')
    (hmore : worker'.calls ≠ worker.calls) : worker.Continues worker' (answer worker.installed) := by
  obtain ⟨rest, hworkers⟩ := List.head?_eq_some_iff.mp hworker
  unfold Application.act at hact
  dsimp only at hact
  rw [hworkers] at hact
  cases index with
  | zero =>
    obtain ⟨⟨next, signals⟩, hturned, rfl⟩ := Option.map_eq_some_iff.mp hact
    cases hnewest
    exact RestoreWorker.turn_continues hturned
  | succ index =>
    dsimp only [List.getElem?_cons_succ] at hact
    split at hact
    · cases hact
    · obtain ⟨⟨next, signals⟩, hturned, rfl⟩ := Option.map_eq_some_iff.mp hact
      cases hnewest
      exact absurd rfl hmore

theorem Together.application (h : Together fuel d)
    {next : ApplicationStep (unelevated turns appVersion uiLanguages)}
    {app : Application (unelevated turns appVersion uiLanguages)}
    (hact : d.app.act next = some app) {processes : Option RestoreProcesses}
    (hfollow : d.follow fuel next app = some processes) : Together fuel { app, processes } := by
  refine ⟨h.app.step next hact, fun hnone => ?_, fun worker' hnewest => ?_⟩
  · dsimp only at hnone
    unfold follow at hfollow
    rw [hnone] at hfollow
    exact (Option.some.inj hfollow).symm
  dsimp only at hnewest ⊢
  obtain ⟨rest, hworkers⟩ := List.head?_eq_some_iff.mp hnewest
  unfold follow at hfollow
  rw [hworkers] at hfollow
  dsimp only at hfollow
  rw [← hworkers] at hfollow
  split at hfollow
  · next hmore =>
    -- A worker was started, with the processes of its own.
    cases hfollow
    obtain ⟨-, -, shown, installed, -, -, -, hcreated⟩ :=
      Application.started_of_step h.app.invariant (Application.act_step hact) hmore
    obtain rfl := List.head_eq_of_cons_eq (hworkers.symm.trans hcreated)
    exact ⟨_, rfl, .begun, rfl⟩
  · next hsame =>
    obtain ⟨worker, hworker, hlaunch, hgrown⟩ :=
      newest_of_step (Application.act_step hact) (not_not.mp hsame) hnewest
    obtain ⟨s, hs, hreachable, hcalls⟩ := h.processes worker hworker
    rw [hs] at hfollow
    rw [← hlaunch] at hreachable
    dsimp only at hfollow
    split at hfollow
    · next hlength =>
      cases hfollow
      refine ⟨s, rfl, hreachable, ?_⟩
      rcases hgrown with hkept | hlonger
      · rw [hcalls, hkept]
      · rw [hcalls, hlonger] at hlength
        exact absurd hlength (Nat.succ_ne_self _)
    · next hlength =>
      have hmore : worker'.calls ≠ worker.calls := fun hkept => hlength (by rw [hcalls, hkept])
      split at hfollow
      · next index now answer =>
        obtain ⟨s', hclient, rfl⟩ := Option.map_eq_some_iff.mp hfollow
        refine ⟨s', rfl, hreachable.step _ hclient, ?_⟩
        obtain ⟨-, hkept | ⟨o, next, hprogram, hcalled⟩⟩ :=
          newest_of_turn hact hworker hnewest hmore
        · exact absurd hkept hmore
        -- What is left of the client is what is left of the worker.
        obtain ⟨rest', hbefore⟩ := List.head?_eq_some_iff.mp hworker
        obtain ⟨hsound, -⟩ := h.app.invariant.sound worker
          (by rw [show d.app.coordination.workers = _ from hbefore]; exact List.mem_cons_self)
        have hleft := hreachable.sound.left
        rw [hcalls, hlaunch] at hleft
        have hsameClient := hleft.unique hsound.left
        rw [hprogram] at hsameClient
        have hinstalled : worker'.installed = worker.installed :=
          congrArg RestoreLaunch.installed (congrFun hlaunch fuel)
        rw [RestoreProcesses.called_of_act hsameClient hclient, hcalls, hcalled, hinstalled]
      · cases hfollow

/-- A step of the processes keeps window, client and helper together. -/
theorem Together.process (h : Together fuel d) {next : ProcessStep}
    (hact : d.act fuel (.process next) = some d') : Together fuel d' := by
  unfold act at hact
  split at hact
  · next hstep => cases hstep
  · cases hact
  · next next' hother hstep =>
    cases hstep
    split at hact
    · next worker rest s hworkers hs =>
      obtain ⟨s', hnext, rfl⟩ := Option.map_eq_some_iff.mp hact
      refine ⟨h.app, fun hnone => ?_, fun worker' hnewest => ?_⟩
      · cases hworkers.symm.trans hnone
      dsimp only at hnewest
      rw [hworkers] at hnewest
      cases hnewest
      obtain ⟨s'', hs'', hreachable, hcalls⟩ := h.processes worker (by rw [hworkers]; rfl)
      obtain rfl := Option.some.inj (hs.symm.trans hs'')
      refine ⟨s', rfl, hreachable.step _ hnext, ?_⟩
      rw [← hcalls]
      exact RestoreProcesses.clientCalls_of_act hother hnext
    · cases hact

/-- In every reachable state the window, the client in its worker and the helper belong together. -/
theorem Reachable.together (h : d.Reachable fuel) : d.Together fuel := by
  induction h with
  | start texts language style fileSystem =>
    refine ⟨.start texts language style fileSystem, fun _ => rfl, fun worker hworker => ?_⟩
    dsimp only at hworker
    rw [Application.workers_start] at hworker
    cases hworker
  | @step d d' before next acts ih =>
    cases next with
    | application next =>
      unfold act at acts
      obtain ⟨app, hact, hrest⟩ := Option.bind_eq_some_iff.mp acts
      obtain ⟨processes, hfollow, rfl⟩ := Option.map_eq_some_iff.mp hrest
      exact ih.application hact hfollow
    | process next => exact ih.process acts

/-! ### What the dialog shows -/

/-- The dialog tells how the helper has ended, and what it has done. -/
structure TellsOfHelper (fuel : LoopFuel)
    (d : Desktop (unelevated turns appVersion uiLanguages)) : Prop where
  /-- A success is that of the helper, for what the dialog was confirmed for. -/
  complete : ∀ shown, d.app.window.restoreDialog = some shown → shown.dialog.indicator = .complete →
    ∃ worker s, d.app.workers.head? = some worker ∧ worker.request = shown.request ∧
      d.processes = some s ∧ s.stage = .ended false RestoreExitSuccess ∧
      ∃ produced, Restored (worker.launch fuel).arguments produced (helperSysCalls s.helperCalls)
  /-- A cancellation was asked for, and the helper has ended without a change. -/
  cancelled : ∀ shown, d.app.window.restoreDialog = some shown →
    shown.dialog.indicator = .cancelled → ∃ s, d.processes = some s ∧ s.ended = true ∧
      true ∈ clientPolls s.clientCalls ∧ ∀ e ∈ s.helperCalls, helperChangesDisk e = false
  /-- A failure is explained. -/
  failed : ∀ shown, d.app.window.restoreDialog = some shown → shown.dialog.indicator = .error →
    ∃ s error, d.processes = some s ∧ s.client = .fail error ∧ error.english ≠ []

/-- An outcome on the screen is what the client has come to. -/
theorem client_of_outcome (h : d.Reachable fuel) {shown : RequestDialog}
    (hshown : d.app.window.restoreDialog = some shown) {outcome : Outcome}
    (hindicator : shown.dialog.indicator = outcome.indicator) :
    ∃ worker s result cancelled, d.app.workers.head? = some worker ∧
      worker.request = shown.request ∧ d.processes = some s ∧
      RestoreProcesses.Reachable (worker.launch fuel) s ∧ s.client = ofExcept result ∧
      (restoreWorkerSignal worker.installed cancelled result).outcome = outcome ∧
      (true ∈ clientPolls s.clientCalls → cancelled = true) := by
  have htogether := h.together
  have hinvariant := htogether.app.invariant
  obtain ⟨worker, hshows⟩ := hinvariant.outcome shown hshown outcome hindicator
  obtain ⟨hsound, result, cancelled, hresult, houtcome, hflag, -⟩ :=
    Application.shows_result hinvariant hshows
  obtain ⟨s, hs, hreachable, hcalls⟩ := htogether.processes worker hshows.newest
  have hleft := hreachable.sound.left
  rw [hcalls] at hleft
  refine ⟨worker, s, result, cancelled, hshows.newest, hshows.request, hs, hreachable,
    hleft.ended (hsound.ended result hresult), houtcome, fun hpolled => hflag ?_⟩
  rw [hcalls] at hpolled
  exact LinuxDiskService.wasCancelled_of_polled hpolled

/-- The dialog and the helper never disagree, whatever the user and the processes do in whatever
order. -/
theorem reachable_tellsOfHelper (hversion : Utf8.IsWellFormed appVersion) (h : d.Reachable fuel) :
    d.TellsOfHelper fuel := by
  refine ⟨fun shown hshown hcomplete => ?_, fun shown hshown hcancelled => ?_,
    fun shown hshown hfailed => ?_⟩
  · have hindicator : shown.dialog.indicator = Outcome.complete.indicator := hcomplete
    obtain ⟨worker, s, result, cancelled, hnewest, hrequest, hs, hreachable, hclient, houtcome, -⟩ :=
      client_of_outcome h hshown hindicator
    cases result with
    | error error =>
      rw [outcome_of_error] at houtcome
      split at houtcome
      · cases houtcome
      · cases houtcome
    | ok result =>
      obtain ⟨hstage, produced, hrestored, -⟩ := hreachable.sound.succeeded hversion hclient
      exact ⟨worker, s, hnewest, hrequest, hs, hstage, produced, hrestored⟩
  · have hindicator : shown.dialog.indicator = Outcome.cancelled.indicator := hcancelled
    obtain ⟨worker, s, result, cancelled, -, -, hs, hreachable, hclient, houtcome, -⟩ :=
      client_of_outcome h hshown hindicator
    cases result with
    | ok result => cases houtcome
    | error error =>
      rw [outcome_of_error] at houtcome
      split at houtcome
      · next hempty =>
        rw [Bool.and_eq_true, List.isEmpty_iff] at hempty
        exact ⟨s, hs, hreachable.sound.cancelled hversion hclient hempty.2⟩
      · cases houtcome
  · have hindicator : shown.dialog.indicator = Outcome.error.indicator := hfailed
    obtain ⟨worker, s, result, cancelled, -, -, hs, hreachable, hclient, houtcome, hflag⟩ :=
      client_of_outcome h hshown hindicator
    cases result with
    | ok result => cases houtcome
    | error error =>
      refine ⟨s, error, hs, hclient, fun hnil => ?_⟩
      obtain ⟨-, hpolled, -⟩ := hreachable.sound.cancelled hversion hclient hnil
      rw [outcome_of_error, hflag hpolled, hnil] at houtcome
      cases houtcome

/-! ### One helper at a time -/

/-- No helper is at work when the window takes the next request or closes. -/
structure OneHelper (fuel : LoopFuel) (d : Desktop (unelevated turns appVersion uiLanguages)) :
    Prop where
  idle : d.app.window.restoreRunning = false → ∀ s, d.processes = some s → s.Quiet
  /-- A worker begins processes of its own after those before it. -/
  started : ∀ next d', d.act fuel next = some d' →
    d'.app.workers.length ≠ d.app.workers.length → ∀ s, d.processes = some s → s.Quiet
  closed : d.app.closed = true → ∀ s, d.processes = some s → s.Quiet

/-- Once every worker has ended, the processes are quiet. -/
theorem quiet_of_ended (h : d.Reachable fuel)
    (hended : ∀ worker ∈ d.app.workers, worker.result.isSome = true) :
    ∀ s, d.processes = some s → s.Quiet := by
  intro s hs
  have htogether := h.together
  cases hworkers : d.app.workers with
  | nil => cases (htogether.unstarted hworkers).symm.trans hs
  | cons worker rest =>
    have hmem : worker ∈ d.app.workers := by
      rw [hworkers]
      exact List.mem_cons_self
    obtain ⟨s', hs', hreachable, hcalls⟩ := htogether.processes worker (by rw [hworkers]; rfl)
    obtain rfl := Option.some.inj (hs.symm.trans hs')
    obtain ⟨result, hresult⟩ := Option.isSome_iff_exists.mp (hended worker hmem)
    have hrun := (htogether.app.invariant.sound worker hmem).1.ended result hresult
    rw [← hcalls] at hrun
    exact hreachable.quiet hrun

theorem app_of_process {next : ProcessStep} (hact : d.act fuel (.process next) = some d') :
    d'.app = d.app := by
  unfold act at hact
  split at hact
  · next hstep => cases hstep
  · cases hact
  · split at hact
    · obtain ⟨s, -, rfl⟩ := Option.map_eq_some_iff.mp hact
      rfl
    · cases hact

/-- At most one restore is at work, in however many processes. -/
theorem reachable_oneHelper (h : d.Reachable fuel) : d.OneHelper fuel := by
  have hinvariant := h.together.app.invariant
  refine ⟨fun hidle => ?_, fun next d' hact hmore => ?_, fun hclosed => ?_⟩
  · exact quiet_of_ended h (hinvariant.settled hidle).workers
  · cases next with
    | application next =>
      unfold act at hact
      obtain ⟨app, hstep, hrest⟩ := Option.bind_eq_some_iff.mp hact
      obtain ⟨processes, -, rfl⟩ := Option.map_eq_some_iff.mp hrest
      obtain ⟨-, hended, -⟩ :=
        Application.started_of_step hinvariant (Application.act_step hstep) hmore
      exact quiet_of_ended h hended
    | process next =>
      rw [app_of_process hact] at hmore
      exact absurd rfl hmore
  · exact quiet_of_ended h (hinvariant.settled (hinvariant.closed hclosed)).workers

end Desktop

end

/-! ### A session of an ordinary user -/

namespace OrdinaryUser

open SmallStick

abbrev service : DiskService := LinuxDiskService.unelevated 9 (QStringLiteral "1.0") []

def begun : Desktop service := { app := .start ⟨Catalog.english, id, id⟩ .english .gpt .exFat }

/-- All that the helper writes. -/
def output : List UInt8 :=
  (writesOf (helperRun (fun _ => SmallStick.answers) SmallStick.arguments).1).flatten

def clientAnswers : (o : ClientOp) → o.Ans
  | .readStandardOutput => output
  | o => GrantedSession.answers o

def turn : DesktopStep service := .application (.turn 0 0 fun _ => clientAnswers)

def helperTurn : DesktopStep service :=
  .process (.helper (helperAnswers (fun _ => SmallStick.answers) 0))

/-- The stick is found and its restore confirmed; the client asks for root, the helper restores, and
the window hears of it from the client. -/
def steps : List (DesktopStep service) :=
  [.application (.event (.scanFinished [disk] {} {})), .application (.event .restoreClicked),
    .application (.event (.dialog (.toggled true))),
    .application (.event (.dialog .eraseClicked))] ++
  .replicate 6 turn ++ .process .authenticate :: .replicate 149 helperTurn ++
  .process .exit :: .replicate 18 turn ++ .replicate 34 (.application .deliver)

theorem steps_complete : ((begun.after 9 steps).bind fun d =>
    d.app.window.restoreDialog.map fun shown => shown.dialog.indicator) = some .complete := by
  decide +kernel

end OrdinaryUser

open OrdinaryUser SmallStick in
/-- The dialog shows a success, and it is that of the helper which the last worker has started for
what the dialog was confirmed for. -/
theorem reachable_tellsOfHelper_ordinaryUser :
    ∃ d shown, ∃ worker : RestoreWorker service, ∃ s, begun.after 9 steps = some d ∧
      d.app.window.restoreDialog = some shown ∧ shown.dialog.indicator = .complete ∧
      d.app.workers.head? = some worker ∧ worker.request = shown.request ∧
      d.processes = some s ∧ s.stage = .ended false RestoreExitSuccess ∧
      ∃ produced, Restored (worker.launch 9).arguments produced (helperSysCalls s.helperCalls) := by
  obtain ⟨d, hsteps, hcomplete⟩ := Option.bind_eq_some_iff.mp steps_complete
  obtain ⟨shown, hshown, hindicator⟩ := Option.map_eq_some_iff.mp hcomplete
  have hversion : Utf8.IsWellFormed (QStringLiteral "1.0") := by decide
  have hreachable : d.Reachable 9 := (Desktop.Reachable.start _ _ _ _).after hsteps
  obtain ⟨worker, s, hnewest, hrequest, hs, hstage, hrestored⟩ :=
    (Desktop.reachable_tellsOfHelper hversion hreachable).complete shown hshown hindicator
  exact ⟨d, shown, worker, s, hsteps, hshown, hindicator, hnewest, hrequest, hs, hstage, hrestored⟩

open OrdinaryUser SmallStick in
/-- The client of the last worker and its helper agree in the session. -/
theorem reachable_agreed_ordinaryUser :
    ∃ d shown, ∃ worker : RestoreWorker service, ∃ s, begun.after 9 steps = some d ∧
      d.app.window.restoreDialog = some shown ∧ d.app.workers.head? = some worker ∧
      worker.request = shown.request ∧ d.processes = some s ∧ s.Agreed (worker.launch 9) := by
  obtain ⟨d, hsteps, hcomplete⟩ := Option.bind_eq_some_iff.mp steps_complete
  obtain ⟨shown, hshown, hindicator⟩ := Option.map_eq_some_iff.mp hcomplete
  have hversion : Utf8.IsWellFormed (QStringLiteral "1.0") := by decide
  have hreachable : d.Reachable 9 := (Desktop.Reachable.start _ _ _ _).after hsteps
  have hcomplete : shown.dialog.indicator = RestoreDialog.Outcome.complete.indicator := hindicator
  obtain ⟨worker, s, -, -, hnewest, hrequest, hs, hprocesses, -⟩ :=
    Desktop.client_of_outcome hreachable hshown hcomplete
  exact ⟨d, shown, worker, s, hsteps, hshown, hnewest, hrequest, hs,
    RestoreProcesses.reachable_agreed hversion hprocesses⟩

open OrdinaryUser SmallStick in
/-- At the end of the session the helper is gone. -/
theorem reachable_oneHelper_ordinaryUser : ∃ d, begun.after 9 steps = some d ∧ d.OneHelper 9 := by
  obtain ⟨d, hsteps, -⟩ := Option.bind_eq_some_iff.mp steps_complete
  exact ⟨d, hsteps, Desktop.reachable_oneHelper ((Desktop.Reachable.start _ _ _ _).after hsteps)⟩

end UsbRestore
