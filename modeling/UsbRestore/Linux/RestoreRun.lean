-- SUMMARY: Every run of the Linux restore follows its plan and writes only where it was permitted.
import UsbRestore.Linux.History

/-!
# Runs of the Linux restore

One weakest precondition proof covers the whole restore. The obligation on a call is that it
follows the plan and, when it changes the disk, that it was permitted; the postcondition says
what a result means. Rules for the phases of the restore come first.
-/

namespace UsbRestore

open Prog

/-- A change to the disk is announced: the plan's first destructive step was reported, and the
last reported step is one that changes the disk. -/
def DestructionAnnounced (steps : List RestoreStep) : Prop :=
  firstDestructiveStepOf linuxRestorePlan ≤ steps.length ∧
    ∃ step, steps.getLast? = some step ∧ changesDiskContents step = true

/-- Some checkpoint was told to stop. -/
def Cancelled (past : List (Event LinuxI)) : Prop := ∃ e ∈ past, sawCancel e = true

/-- What a failure means: the plan is unfinished, and an empty message stands for a cancel
request that was seen before anything was changed. -/
def Stopped (message : RestoreMessage) (past : List (Event LinuxI)) : Prop :=
  (stepsOf past).length < linuxRestorePlan.length ∧
    (message.english = [] → Cancelled past ∧ Untouched (sysCalls past))

section

variable [Host] (installed : Catalog) (request : RestoreRequest)

/-- The obligation on a call after the history `past`. -/
def Obligation (past : List (Event LinuxI)) (e : Event LinuxI) : Prop :=
  (∀ step, reportedStep e = some step → stepsOf past ++ [step] <+: linuxRestorePlan) ∧
    ∀ call, sysCall e = some call → SysOp.isDestructive call.op = true →
      DestructionAnnounced (stepsOf past) ∧
        Permitted installed request (sysCalls past) call.op

/-- What a result of the restore means. -/
def Finished : Except RestoreMessage RestoreResult → List (Event LinuxI) → Prop
  | .ok _, past => stepsOf past = linuxRestorePlan
  | .error message, past => Stopped message past

end

/-! ## Rules -/

/-- A restore that has stopped stays so over calls that do nothing. -/
theorem Stopped.append_silent {message : RestoreMessage} {past t : List (Event LinuxI)}
    (h : Stopped message past) (ht : ∀ e ∈ t, LinuxOp.Silent e.op) :
    Stopped message (past ++ t) := by
  have hsteps : stepsOf t = [] := stepsOf_of_forall fun e he => reportedStep_of_silent (ht e he)
  refine ⟨by simpa [hsteps] using h.1, fun hnil => ?_⟩
  obtain ⟨⟨e, he, hcancel⟩, huntouched⟩ := h.2 hnil
  refine ⟨⟨e, List.mem_append_left _ he, hcancel⟩, ?_⟩
  rw [sysCalls_append]
  exact huntouched.append (untouched_of_silent ht)

/-- A failure before the last step of the plan, with a message that is not empty, is a stop. -/
theorem Stopped.of_explained {message : RestoreMessage} {past : List (Event LinuxI)}
    (hsteps : (stepsOf past).length < linuxRestorePlan.length) (h : message.english ≠ []) :
    Stopped message past :=
  ⟨hsteps, fun hnil => absurd hnil h⟩

section Rules

variable [Host] {installed : Catalog} {request : RestoreRequest} {α β : Type}
  {p : Prog LinuxI RestoreMessage α} {f : α → Prog LinuxI RestoreMessage β}
  {past : List (Event LinuxI)}

theorem obligation_of_silent {e : Event LinuxI} (h : LinuxOp.Silent e.op) :
    Obligation installed request past e := by
  refine ⟨fun step hstep => ?_, fun call hcall hdestructive => ?_⟩
  · rw [reportedStep_of_silent h] at hstep
    cases hstep
  · obtain ⟨o, ans⟩ := e
    cases o with
    | reporter o => cases hcall
    | sys o =>
      cases hcall
      have hkept : o.isDestructive = false := h
      rw [hkept] at hdestructive
      cases hdestructive

/-- A part that changes nothing: it either stops with a message, or goes on with the steps of
before and with its calls added to the history. -/
theorem wp_quietly {Q : Except RestoreMessage α → List (Event LinuxI) → Prop}
    {P : LinuxOp → Prop} (hP : ∀ o, P o → o.Silent) (h : p.Satisfies P Explained)
    (hsteps : (stepsOf past).length < linuxRestorePlan.length)
    (hstop : ∀ message past, Stopped message past → Q (.error message) past)
    (hok : ∀ t a past', Runs p t (some (.ok a)) → (∀ e ∈ t, P e.op) →
      stepsOf past' = stepsOf past → sysCalls past' = sysCalls past ++ sysCalls t →
      Q (.ok a) past') :
    wp (Obligation installed request) Q p past := by
  refine wp_of_runs h (fun t e _ he => obligation_of_silent (hP _ he)) fun t r hr ht hR => ?_
  have hnone : stepsOf t = [] :=
    stepsOf_of_forall fun e he => reportedStep_of_silent (hP _ (ht e he))
  cases r with
  | ok a => exact hok t a _ hr ht (by simp [hnone]) (by simp)
  | error message => exact hstop _ _ (.of_explained (by simpa [hnone] using hsteps) hR)

/-- A part that touches nothing may stand in front of what follows: its calls owe nothing, and its
failures are explained. -/
theorem wp_bind_quietly {Q : Except RestoreMessage β → List (Event LinuxI) → Prop}
    {P : LinuxOp → Prop} (hP : ∀ o, P o → o.Silent) (h : p.Satisfies P Explained)
    (hsteps : (stepsOf past).length < linuxRestorePlan.length)
    (hstop : ∀ message past, Stopped message past → Q (.error message) past)
    (hok : ∀ t a past', Runs p t (some (.ok a)) → (∀ e ∈ t, P e.op) →
      stepsOf past' = stepsOf past → sysCalls past' = sysCalls past ++ sysCalls t →
      wp (Obligation installed request) Q (f a) past') :
    wp (Obligation installed request) Q (p >>= f) past := by
  rw [bind_eq, wp_bind]
  exact wp_quietly hP h hsteps hstop hok

/-- Cleaning up before a failure with a message. -/
theorem wp_gives_up {Q : Except RestoreMessage α → List (Event LinuxI) → Prop}
    {message : RestoreMessage} (hsteps : (stepsOf past).length < linuxRestorePlan.length)
    (hmessage : message.english ≠ [])
    (h : p.Satisfies LinuxOp.Quiet fun r => r = .error message)
    (hstop : ∀ message past, Stopped message past → Q (.error message) past) :
    wp (Obligation installed request) Q p past := by
  refine wp_of_runs h (fun t e _ he => obligation_of_silent he.silent) fun t r _ ht hr => ?_
  cases hr
  exact hstop _ _ ((Stopped.of_explained hsteps hmessage).append_silent fun e he => (ht e he).silent)

/-- Destructors add quiet calls to the history, whatever the outcome. -/
theorem wp_withCleanup_quiet {Q : Except RestoreMessage α → List (Event LinuxI) → Prop}
    {cleanup : Prog LinuxI RestoreMessage Unit}
    (hcleanup : cleanup.Satisfies LinuxOp.Quiet fun r => r = .ok ())
    (h : wp (Obligation installed request)
      (fun r past => ∀ t, (∀ e ∈ t, LinuxOp.Silent e.op) → Q r (past ++ t)) p past) :
    wp (Obligation installed request) Q (p.withCleanup cleanup) past := by
  refine wp_withCleanup (wp_mono h (fun _ _ h => h) fun r past hQ => ?_)
  refine wp_of_runs hcleanup (fun t e _ he => obligation_of_silent he.silent) fun t c _ ht hc => ?_
  cases hc
  exact hQ t fun e he => (ht e he).silent

/-- A verdict of the core: no call. -/
theorem wp_bind_check {Q : Except RestoreMessage β → List (Event LinuxI) → Prop}
    {check : TextMode → Except QString Unit} {f : Unit → Prog LinuxI RestoreMessage β}
    (hreason : HasReason (check .english))
    (hsteps : (stepsOf past).length < linuxRestorePlan.length)
    (hstop : ∀ message past, Stopped message past → Q (.error message) past)
    (hok : check .english = .ok () → wp (Obligation installed request) Q (f ()) past) :
    wp (Obligation installed request) Q
      (Prog.ofExcept (checkRestoreError installed check) >>= f) past := by
  cases hcheck : checkRestoreError installed check with
  | ok _ => exact hok (checkRestoreError_ok_iff.mp hcheck)
  | error message =>
    exact hstop _ _ (.of_explained hsteps (hreason _ (checkRestoreError_error hcheck)))

/-- A checkpoint goes on or stops, and touches nothing. -/
theorem wp_bind_cancelCheckpoint {Q : Except RestoreMessage β → List (Event LinuxI) → Prop}
    {f : Unit → Prog LinuxI RestoreMessage β}
    (hsteps : (stepsOf past).length < linuxRestorePlan.length)
    (huntouched : Untouched (sysCalls past))
    (hstop : ∀ message past, Stopped message past → Q (.error message) past)
    (hok : ∀ past', stepsOf past' = stepsOf past → sysCalls past' = sysCalls past →
      wp (Obligation installed request) Q (f ()) past') :
    wp (Obligation installed request) Q (cancelCheckpoint >>= f) past := by
  intro cancelled
  have hsame : stepsOf (past ++ [⟨LinuxOp.reporter .cancelRequested, cancelled⟩]) = stepsOf past :=
    (stepsOf_append _ _).trans (List.append_nil _)
  have hcalls : sysCalls (past ++ [⟨LinuxOp.reporter .cancelRequested, cancelled⟩]) =
      sysCalls past :=
    (sysCalls_append _ _).trans (List.append_nil _)
  refine ⟨obligation_of_silent trivial, ?_⟩
  cases (cancelled : Bool) with
  | true =>
    refine hstop _ _ ⟨hsame ▸ hsteps, fun _ => ⟨?_, hcalls ▸ huntouched⟩⟩
    exact ⟨_, List.mem_append_right _ List.mem_cons_self, rfl⟩
  | false => exact hok _ hsame hcalls

/-- The step that is next in the plan. -/
theorem wp_bind_reportPlannedStep {Q : Except RestoreMessage β → List (Event LinuxI) → Prop}
    {f : RestoreStepCounter → Prog LinuxI RestoreMessage β} {n : Nat} {step : RestoreStep}
    (hsteps : stepsOf past = linuxRestorePlan.take n) (hplan : linuxRestorePlan[n]? = some step)
    (hok : ∀ past', stepsOf past' = linuxRestorePlan.take (n + 1) →
      sysCalls past' = sysCalls past →
      wp (Obligation installed request) Q (f ⟨linuxRestorePlan, n + 1⟩) past') :
    wp (Obligation installed request) Q
      (reportPlannedStep installed ⟨linuxRestorePlan, n⟩ step request >>= f) past := by
  have htake : linuxRestorePlan.take (n + 1) = linuxRestorePlan.take n ++ [step] := by
    rw [List.take_add_one, hplan]
    rfl
  have hadvance : RestoreStepCounter.advance ⟨linuxRestorePlan, n⟩ step =
      (n + 1, ⟨linuxRestorePlan, n + 1⟩) := RestoreStepCounter.advance_next hplan
  unfold reportPlannedStep
  simp only [hadvance, Nat.add_eq_zero_iff, one_ne_zero, and_false, if_false]
  intro _
  refine ⟨⟨fun reported hreported => ?_, fun call hcall => by cases hcall⟩, hok _ ?_ ?_⟩
  · cases hreported
    rw [hsteps, ← htake]
    exact List.take_prefix _ _
  · rw [stepsOf_append, hsteps, htake]
    rfl
  · rw [sysCalls_append]
    exact List.append_nil _

/-- The disk is held, identified and mapped, so that it may be changed as aimed. -/
structure Ready (installed : Catalog) (request : RestoreRequest) (disk : DiskInfo) (aim : Aim)
    (calls : List (Event SysI)) : Prop where
  found : Found installed request disk calls
  resolved : Performed (resolveFormatTool installed request.fileSystem) aim.tool calls
  held : ∃ since, OpenedSince disk aim.fd since calls ∧ Identified installed disk aim.fd since ∧
    Mapped aim.path (partitionMapping disk aim.fd) since ∧
    ∀ claim, aim.claim = some claim → claim ∈ descriptors.given since

omit [Host] in
theorem aimed_sysCall {aim : Aim} {o : SysOp} (h : LinuxOp.Aimed aim (.sys o)) :
    o.isIdentityQuery = false ∧ o.isUnmapping = false := by
  cases o <;> first | exact ⟨rfl, rfl⟩ | exact h.2

omit [Host] in
theorem query_sysCall {o : SysOp} (h : LinuxOp.Query (.sys o)) : o.isUnmapping = false := by
  cases o <;> first | rfl | exact absurd h Bool.false_ne_true

/-- What makes the disk ready for changes outlasts the calls that are aimed at it. -/
theorem Ready.append {disk : DiskInfo} {aim : Aim} {calls : List (Event SysI)}
    {t : List (Event LinuxI)} (h : Ready installed request disk aim calls)
    (ht : ∀ e ∈ t, LinuxOp.Aimed aim e.op) :
    Ready installed request disk aim (calls ++ sysCalls t) := by
  have hkept : ∀ e ∈ sysCalls t, SysOp.isIdentityQuery e.op = false ∧
      SysOp.isUnmapping e.op = false :=
    forall_sysCalls (P := fun o => o.isIdentityQuery = false ∧ o.isUnmapping = false)
      fun o ans he => aimed_sysCall (ht ⟨LinuxOp.sys o, ans⟩ he)
  obtain ⟨since, hopened, hidentified, hmapped, hclaim⟩ := h.held
  refine
    { found := h.found.append _
      resolved := h.resolved.append _
      held := ⟨since ++ sysCalls t, ?_, ?_, ?_, fun claim hclaimed => ?_⟩ }
  · exact hopened.append (hopened.meanwhile.append_aimed ht hclaim)
  · exact hidentified.append fun e he => (hkept e he).1
  · exact hmapped.append fun e he => (hkept e he).2
  · rw [Handles.given_append]
    exact List.mem_append_left _ (hclaim claim hclaimed)

/-- A call that is aimed at the ready disk meets its obligation once the destruction is
announced. -/
theorem obligation_of_aimed {disk : DiskInfo} {aim : Aim} {e : Event LinuxI}
    (hready : Ready installed request disk aim (sysCalls past))
    (hannounced : DestructionAnnounced (stepsOf past)) (he : LinuxOp.Aimed aim e.op) :
    Obligation installed request past e := by
  refine ⟨fun step hstep => ?_, fun call hcall hdestructive => ⟨hannounced, ?_⟩⟩
  · rw [reportedStep_of_aimed he] at hstep
    cases hstep
  · obtain ⟨o, ans⟩ := e
    obtain ⟨since, hopened, hidentified, hmapped, _⟩ := hready.held
    cases o with
    | reporter o => cases hcall
    | sys o =>
      cases hcall
      refine ⟨disk, aim.fd, since, hready.found, hopened, hidentified, ?_⟩
      cases o with
      | pwrite target data offset => exact he
      | startProcess program arguments =>
        obtain ⟨rfl, hlast⟩ := he
        exact ⟨hready.resolved, aim.path, hlast, hmapped⟩
      | _ => trivial

/-- A part that changes the disk while a destructive step is the last one reported. -/
theorem wp_aimed {Q : Except RestoreMessage α → List (Event LinuxI) → Prop}
    {R : Except RestoreMessage α → Prop} {disk : DiskInfo} {aim : Aim}
    (h : p.Satisfies (LinuxOp.Aimed aim) R)
    (hready : Ready installed request disk aim (sysCalls past))
    (hannounced : DestructionAnnounced (stepsOf past))
    (hQ : ∀ r past', R r → Ready installed request disk aim (sysCalls past') →
      stepsOf past' = stepsOf past → Q r past') :
    wp (Obligation installed request) Q p past := by
  have hnone : ∀ t : List (Event LinuxI), (∀ e ∈ t, LinuxOp.Aimed aim e.op) →
      stepsOf t = [] :=
    fun t ht => stepsOf_of_forall fun e he => reportedStep_of_aimed (ht e he)
  refine wp_of_runs h (fun t e ht he => ?_) fun t r _ ht hR => ?_
  · have hready' : Ready installed request disk aim (sysCalls (past ++ t)) := by
      rw [sysCalls_append]
      exact hready.append ht
    refine obligation_of_aimed hready' ?_ he
    rw [stepsOf_append, hnone t ht, List.append_nil]
    exact hannounced
  · refine hQ r _ hR ?_ ?_
    · rw [sysCalls_append]
      exact hready.append ht
    · rw [stepsOf_append, hnone t ht, List.append_nil]

/-- A part whose calls are aimed at the ready disk may stand in front of what follows. -/
theorem wp_bind_aimed {Q : Except RestoreMessage β → List (Event LinuxI) → Prop}
    {disk : DiskInfo} {aim : Aim} (h : p.Satisfies (LinuxOp.Aimed aim) Explained)
    (hready : Ready installed request disk aim (sysCalls past))
    (hannounced : DestructionAnnounced (stepsOf past))
    (hsteps : (stepsOf past).length < linuxRestorePlan.length)
    (hstop : ∀ message past, Stopped message past → Q (.error message) past)
    (hok : ∀ a past', Ready installed request disk aim (sysCalls past') →
      stepsOf past' = stepsOf past → wp (Obligation installed request) Q (f a) past') :
    wp (Obligation installed request) Q (p >>= f) past := by
  rw [bind_eq, wp_bind]
  refine wp_aimed h hready hannounced fun r past' hR hready' hsteps' => ?_
  cases r with
  | ok a => exact hok a past' hready' hsteps'
  | error message => exact hstop _ _ (.of_explained (hsteps' ▸ hsteps) hR)

end Rules

end UsbRestore
