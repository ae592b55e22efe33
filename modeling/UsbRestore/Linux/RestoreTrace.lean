-- SUMMARY: The weakest precondition proof of the Linux restore, phase by phase.
import UsbRestore.Linux.RestoreRun

/-!
# The Linux restore, phase by phase

Each phase starts where the steps reported so far are the first few of the plan and ends where
they are a few more. Up to the last cancel checkpoint nothing is changed; from there on every
failure has a message.
-/

namespace UsbRestore

open Prog

set_option maxRecDepth 10000

section Histories

variable {past : List (Event LinuxI)}

theorem LinuxOp.Lookup.silent {o : LinuxOp} (h : o.Lookup) : o.Silent := h.query.quiet.silent

/-- The first `n` steps of the plan are not all of it. -/
theorem steps_lt {n : Nat} (h : stepsOf past = linuxRestorePlan.take n)
    (hn : n < linuxRestorePlan.length) :
    (stepsOf past).length < linuxRestorePlan.length := by
  rw [h, List.length_take]
  exact Nat.lt_of_le_of_lt (Nat.min_le_left _ _) hn

/-- The steps from `ClearSignatures` to `Format` announce a change. -/
theorem announced_of_steps {n : Nat} (h : stepsOf past = linuxRestorePlan.take n)
    (hn : n = 5 ∨ n = 6 ∨ n = 7) : DestructionAnnounced (stepsOf past) := by
  rw [h]
  rcases hn with rfl | rfl | rfl
  · exact ⟨by decide, _, rfl, rfl⟩
  · exact ⟨by decide, _, rfl, rfl⟩
  · exact ⟨by decide, _, rfl, rfl⟩

theorem untouched_append {t : List (Event LinuxI)} {past' : List (Event LinuxI)}
    (h : Untouched (sysCalls past)) (hcalls : sysCalls past' = sysCalls past ++ sysCalls t)
    (ht : ∀ e ∈ t, LinuxOp.Silent e.op) : Untouched (sysCalls past') := by
  rw [hcalls]
  exact h.append (untouched_of_silent ht)

end Histories

section Phases

variable [Host] {installed : Catalog} {request : RestoreRequest} {β : Type}
  {past : List (Event LinuxI)}

/-! ## Finding the disk -/

/-- From the start to the first checkpoint: the disk is found, and nothing is touched. -/
theorem wp_bind_identifyDisk {Q : Except RestoreMessage β → List (Event LinuxI) → Prop}
    {f : DiskInfo × QString × RestoreStepCounter → Prog LinuxI RestoreMessage β}
    (hsteps : stepsOf past = linuxRestorePlan.take 0) (huntouched : Untouched (sysCalls past))
    (hstop : ∀ message past, Stopped message past → Q (.error message) past)
    (hok : ∀ disk formatTool past', stepsOf past' = linuxRestorePlan.take 2 →
      Untouched (sysCalls past') → Found installed request disk (sysCalls past') →
      Performed (resolveFormatTool installed request.fileSystem) formatTool (sysCalls past') →
      wp (Obligation installed request) Q (f (disk, formatTool, ⟨linuxRestorePlan, 2⟩)) past') :
    wp (Obligation installed request) Q (identifyDisk installed request >>= f) past := by
  rw [bind_eq, wp_bind]
  unfold identifyDisk
  refine wp_bind_check (isSafeRestoreTarget_hasReason _ _) (steps_lt hsteps (by decide)) hstop
    fun _ => ?_
  refine wp_bind_quietly (fun _ => LinuxOp.Lookup.silent) (resolveFormatTool_lookup _ _)
    (steps_lt hsteps (by decide)) hstop fun t formatTool past' hresolve ht hsteps' hcalls => ?_
  have hresolved : Performed (resolveFormatTool installed request.fileSystem) formatTool
      (sysCalls past') := by
    rw [hcalls]
    exact ⟨sysCalls past, t, [], by simp, hresolve⟩
  replace huntouched := untouched_append huntouched hcalls fun e he => (ht e he).silent
  rw [hsteps] at hsteps'
  clear hcalls ht
  refine wp_bind_reportPlannedStep hsteps' rfl fun past hsteps hcalls => ?_
  rw [← hcalls] at huntouched hresolved
  refine wp_bind_quietly (fun _ => LinuxOp.Lookup.silent) (refreshUsbDisk_lookup _ _)
    (steps_lt hsteps (by decide)) hstop fun t disk past' hrefresh ht hsteps' hcalls' => ?_
  have hperformed : Performed (refreshUsbDisk installed request.disk.deviceId) disk
      (sysCalls past') := by
    rw [hcalls']
    exact ⟨sysCalls past, t, [], by simp, hrefresh⟩
  replace huntouched := untouched_append huntouched hcalls' fun e he => (ht e he).silent
  replace hresolved := hresolved.append (sysCalls t)
  rw [← hcalls'] at hresolved
  rw [hsteps] at hsteps'
  refine wp_bind_check (isSameRestoreTarget_hasReason _ _) (steps_lt hsteps' (by decide)) hstop
    fun hsame => ?_
  refine wp_bind_check (isSafeRestoreTarget_hasReason _ _) (steps_lt hsteps' (by decide)) hstop
    fun hsafe => ?_
  refine wp_bind_check (canCreatePartitionLayout_hasReason _ _) (steps_lt hsteps' (by decide)) hstop
    fun _ => ?_
  have hfound : Found installed request disk (sysCalls past') := ⟨hperformed, hsame, hsafe⟩
  refine wp_bind_quietly (P := LinuxOp.Lookup) (fun _ => LinuxOp.Lookup.silent)
    (.ofExcept (canCreateFileSystemOn_explained installed request.fileSystem disk))
    (steps_lt hsteps' (by decide)) hstop fun t _ past ran ht hsteps hcalls => ?_
  replace hfound := hfound.append (sysCalls t)
  replace hresolved := hresolved.append (sysCalls t)
  replace huntouched := untouched_append huntouched hcalls fun e he => (ht e he).silent
  rw [← hcalls] at hfound hresolved
  rw [hsteps'] at hsteps
  refine wp_bind_reportPlannedStep hsteps rfl fun past' hsteps' hcalls' => ?_
  rw [← hcalls'] at huntouched hfound hresolved
  refine wp_bind_quietly (fun _ => LinuxOp.Quiet.silent) (inspectDevice_quiet _ _)
    (steps_lt hsteps' (by decide)) hstop fun t _ past _ ht hsteps hcalls => ?_
  refine hok disk formatTool past (hsteps.trans hsteps') ?_ ?_ ?_
  · exact untouched_append huntouched hcalls fun e he => (ht e he).silent
  · rw [hcalls]
    exact hfound.append _
  · rw [hcalls]
    exact hresolved.append _

/-! ## Opening the disk -/

theorem unmountAgain_quiet (disk : DiskInfo) (attempt : Nat) :
    (unmountAgain installed disk attempt).Satisfies LinuxOp.Quiet Explained := by
  unfold unmountAgain
  split
  · trivial
  · exact .call trivial fun _ => .explained (unmountDisk_quiet installed disk) fun _ =>
      ⟨⟨rfl, rfl⟩, fun _ => trivial⟩

/-- Opening the disk, with its unmounts in between, leaves it untouched. -/
theorem openExclusively_silent (disk : DiskInfo) (remaining attempt : Nat)
    (openError : RestoreMessage) (h : remaining = 0 → openError.english ≠ []) :
    (openExclusively installed disk remaining attempt openError).Satisfies
      LinuxOp.Silent Explained := by
  induction remaining generalizing attempt openError with
  | zero => exact .fail (h rfl)
  | succ remaining ih =>
    have hopen := BlockDevice.open_silent installed { devicePath := disk.deviceId }
      (ε := RestoreMessage) .exclusive rfl
    refine .explained (unmountAgain_quiet disk attempt).silent fun _ => ?_
    refine .bind (hopen.mono (fun _ h => h.1) fun _ h => h) ?_ (fun _ h => h.elim)
    rintro ⟨opened, device⟩ ⟨hopened, _⟩
    cases opened with
    | ok fd => trivial
    | error openError => exact ih _ _ fun _ => hopened

/-! ## Erasing and writing -/

variable {disk : DiskInfo} {aim : Aim}

/-- The signatures are cleared through the descriptor that is held. -/
theorem clearSignatures_aimed (fuel : LoopFuel) :
    (clearSignatures installed fuel disk (heldDevice disk aim.fd)).Satisfies
      (LinuxOp.Aimed aim) Explained := by
  unfold clearSignatures
  dsimp only
  split
  · exact .fail (restoreText_arg_ne_nil (by decide))
  · exact .explained (BlockDevice.writeZeros_aimed installed rfl _ _ _ _) fun _ =>
      BlockDevice.writeZeros_aimed installed rfl _ _ _ _

/-- The table is written through the descriptor that is held. -/
theorem writePartitionTable_aimed (fuel : LoopFuel) (tableRequest : PartitionTableRequest) :
    (writePartitionTable installed fuel tableRequest (heldDevice disk aim.fd)).Satisfies
      (LinuxOp.Aimed aim) Explained := by
  unfold writePartitionTable
  split
  · exact .explained (BlockDevice.writeAt_aimed installed rfl _ _ _) fun _ =>
      BlockDevice.writeAt_aimed installed rfl _ _ _
  · exact BlockDevice.writeAt_aimed installed rfl _ _ _

/-- What is known while the disk is held as `fd`, before the check that clears it for writing. -/
structure Held (installed : Catalog) (request : RestoreRequest) (disk : DiskInfo) (fd : Fd)
    (formatTool : QString) (since calls : List (Event SysI)) : Prop where
  found : Found installed request disk calls
  resolved : Performed (resolveFormatTool installed request.fileSystem) formatTool calls
  opened : OpenedSince disk fd since calls

/-- What is known of the disk that is held stays known. -/
theorem Held.append {fd : Fd} {formatTool : QString} {since calls more : List (Event SysI)}
    (h : Held installed request disk fd formatTool since calls)
    (hmore : Meanwhile (since ++ more)) :
    Held installed request disk fd formatTool (since ++ more) (calls ++ more) :=
  ⟨h.found.append _, h.resolved.append _, h.opened.append hmore⟩

/-- A check of the identity that succeeds clears a mapped disk for writing. -/
theorem Held.ready {since calls : List (Event SysI)} {check : List (Event LinuxI)}
    (h : Held installed request disk aim.fd aim.tool since calls)
    (hmapped : Mapped aim.path (partitionMapping disk aim.fd) since)
    (hclaimed : ∀ claim, aim.claim = some claim → claim ∈ descriptors.given since)
    (hcheck : Runs ((heldDevice disk aim.fd).verifyIdentity installed disk) check (some (.ok ())))
    (hquery : ∀ e ∈ check, LinuxOp.Query e.op) :
    Ready installed request disk aim (calls ++ sysCalls check) := by
  have hkept : ∀ e ∈ sysCalls check, SysOp.isUnmapping e.op = false :=
    forall_sysCalls (P := fun o => o.isUnmapping = false)
      fun o ans he => query_sysCall (hquery ⟨LinuxOp.sys o, ans⟩ he)
  have hheld := h.append (h.opened.meanwhile.append_idle fun e he => (hquery e he).idle)
  refine ⟨hheld.found, hheld.resolved, since ++ sysCalls check, hheld.opened, ?_,
    hmapped.append hkept, fun claim hclaim => ?_⟩
  · exact ⟨check, since, [], by simp, hcheck, by simp⟩
  · rw [Handles.given_append]
    exact List.mem_append_left _ (hclaimed claim hclaim)

/-- Erasing and writing are permitted by the latest check, which comes first. -/
theorem wp_eraseAndWrite (aim : Aim) {fuel : LoopFuel} {tableRequest : PartitionTableRequest}
    {since : List (Event SysI)}
    {Q : Except RestoreMessage RestoreStepCounter → List (Event LinuxI) → Prop}
    (hsteps : stepsOf past = linuxRestorePlan.take 4) (huntouched : Untouched (sysCalls past))
    (hheld : Held installed request disk aim.fd aim.tool since (sysCalls past))
    (hmapped : Mapped aim.path (partitionMapping disk aim.fd) since)
    (hclaimed : ∀ claim, aim.claim = some claim → claim ∈ descriptors.given since)
    (hstop : ∀ message past, Stopped message past → Q (.error message) past)
    (hok : ∀ past', stepsOf past' = linuxRestorePlan.take 6 →
      Ready installed request disk aim (sysCalls past') →
      Q (.ok ⟨linuxRestorePlan, 6⟩) past') :
    wp (Obligation installed request) Q
      (eraseAndWrite installed fuel request disk tableRequest (heldDevice disk aim.fd)
        ⟨linuxRestorePlan, 4⟩) past := by
  unfold eraseAndWrite
  refine wp_bind_cancelCheckpoint (steps_lt hsteps (by decide)) huntouched hstop
    fun past' hsteps' hcalls => ?_
  rw [← hcalls] at hheld
  rw [hsteps] at hsteps'
  clear hsteps hcalls
  refine wp_bind_quietly (fun _ h => h.quiet.silent)
    (BlockDevice.verifyIdentity_query installed (heldDevice disk aim.fd) disk)
    (steps_lt hsteps' (by decide)) hstop
    fun check _ past hcheck hquery hsteps hcalls => ?_
  have hready : Ready installed request disk aim (sysCalls past) := by
    rw [hcalls]
    exact hheld.ready hmapped hclaimed hcheck hquery
  rw [hsteps'] at hsteps
  refine wp_bind_reportPlannedStep hsteps rfl fun past' hsteps' hcalls' => ?_
  rw [← hcalls'] at hready
  refine wp_bind_aimed (clearSignatures_aimed fuel) hready
    (announced_of_steps hsteps' (by simp))
    (steps_lt hsteps' (by decide)) hstop fun _ past hready hsteps => ?_
  rw [hsteps'] at hsteps
  refine wp_bind_reportPlannedStep hsteps rfl fun past' hsteps' hcalls' => ?_
  rw [← hcalls'] at hready
  refine wp_bind_aimed (writePartitionTable_aimed fuel tableRequest) hready
    (announced_of_steps hsteps' (by simp)) (steps_lt hsteps' (by decide)) hstop
    fun _ past hready hsteps => ?_
  rw [hsteps'] at hsteps
  refine wp_bind_aimed (BlockDevice.flush_aimed installed rfl) hready
    (announced_of_steps hsteps (by simp)) (steps_lt hsteps (by decide)) hstop
    fun _ past' hready hsteps' => ?_
  rw [hsteps] at hsteps'
  exact hok past' hsteps' hready

/-! ## Formatting -/

variable {fd : Fd}

/-- The formatter is started on the mapping that was just made over the descriptor. -/
theorem wp_bind_formatThroughMapping {formatTool : QString} {partitionStartSector : UInt64}
    {formatter : LoopDevice} {Q : Except RestoreMessage β → List (Event LinuxI) → Prop}
    {f : Except RestoreMessage Unit × LoopDevice → Prog LinuxI RestoreMessage β}
    (hready : Ready installed request disk (formatter.aim fd formatTool) (sysCalls past))
    (hannounced : DestructionAnnounced (stepsOf past))
    (hok : ∀ verdict released past', Explained verdict → stepsOf past' = stepsOf past →
      wp (Obligation installed request) Q (f (verdict, released)) past') :
    wp (Obligation installed request) Q
      (formatThroughMapping installed request formatTool partitionStartSector formatter >>= f)
      past := by
  rw [bind_eq, wp_bind]
  unfold formatThroughMapping
  rw [bind_eq, wp_bind]
  refine wp_aimed (LoopDevice.prepareForFormatting_aimed installed formatter fd formatTool)
    hready hannounced fun r past' hprepared hready' hsteps' => ?_
  cases r with
  | error message => exact hprepared.elim
  | ok prepared =>
    obtain ⟨verdict, formatter'⟩ := prepared
    obtain ⟨hverdict, hpath⟩ := hprepared
    cases verdict with
    | error message => exact hok _ _ _ hverdict hsteps'
    | ok _ =>
      dsimp only at hpath ⊢
      rw [bind_eq, wp_bind, wp_attempt, hpath]
      refine wp_aimed (formatLinuxPartition_aimed installed _ (formatter.aim fd formatTool) _ _)
        hready' (hsteps' ▸ hannounced) fun r past'' hformatted _ hsteps'' => ?_
      cases r with
      | error message => exact hok _ _ _ hformatted (hsteps''.trans hsteps')
      | ok _ =>
        refine wp_of_runs (LoopDevice.detach_quiet installed formatter')
          (fun _ _ _ he => obligation_of_silent he.silent) fun t r _ ht hr => ?_
        obtain ⟨verdict, released, rfl, hdetached⟩ := hr
        refine hok verdict released _ hdetached ?_
        rw [stepsOf_append, stepsOf_of_forall fun e he => reportedStep_of_silent (ht e he).silent,
          List.append_nil, hsteps'', hsteps']

/-- The phase of formatting, with the mapping detached at its end. -/
theorem wp_formatAndRereadPartitionTable {formatTool : QString} {partitionStartSector : UInt64}
    {formatter : LoopDevice}
    {Q : Except RestoreMessage (UInt64 × RestoreStepCounter) → List (Event LinuxI) → Prop}
    (hsteps : stepsOf past = linuxRestorePlan.take 6)
    (hready : Ready installed request disk (formatter.aim fd formatTool) (sysCalls past))
    (hstop : ∀ message past, Stopped message past → Q (.error message) past)
    (hok : ∀ diskSequence past', stepsOf past' = linuxRestorePlan.take 8 →
      Q (.ok (diskSequence, ⟨linuxRestorePlan, 8⟩)) past') :
    wp (Obligation installed request) Q
      (formatAndRereadPartitionTable installed request formatTool partitionStartSector
        (heldDevice disk fd) formatter ⟨linuxRestorePlan, 6⟩) past := by
  unfold formatAndRereadPartitionTable
  refine wp_bind_reportPlannedStep hsteps rfl fun past' hsteps' hcalls => ?_
  rw [← hcalls] at hready
  refine wp_bind_formatThroughMapping hready (announced_of_steps hsteps' (by simp))
    fun verdict released past hverdict hsteps => ?_
  rw [hsteps'] at hsteps
  cases verdict with
  | error message =>
    refine wp_gives_up (steps_lt hsteps (by decide)) hverdict ?_ hstop
    have hreread := (BlockDevice.flush_quiet installed (heldDevice disk fd)).explained
      fun _ => BlockDevice.rereadPartitionTable_quiet installed (heldDevice disk fd)
    refine .bind (LoopDevice.detach_quiet installed released) (fun _ _ => ?_) ?_
    · refine .bind hreread.attempt (fun reread _ => ?_) ?_
      · cases reread with
        | ok _ => rfl
        | error rereadError => exact .call trivial fun _ => rfl
      · rintro e ⟨_, h, _⟩
        cases h
    · rintro e ⟨_, _, h, _⟩
      cases h
  | ok _ =>
    refine wp_bind_reportPlannedStep hsteps rfl fun past' hsteps' hcalls => ?_
    refine wp_bind_quietly (fun _ => LinuxOp.Quiet.silent)
      (BlockDevice.flush_quiet installed (heldDevice disk fd)) (steps_lt hsteps' (by decide)) hstop
      fun t _ past _ _ hsteps _ => ?_
    rw [hsteps'] at hsteps
    refine wp_bind_quietly (fun _ => LinuxOp.Quiet.silent)
      (BlockDevice.rereadPartitionTable_quiet installed (heldDevice disk fd))
      (steps_lt hsteps (by decide))
      hstop fun t _ past' _ _ hsteps' _ => ?_
    rw [hsteps] at hsteps'
    refine wp_bind_quietly (P := LinuxOp.Query) (fun _ h => h.quiet.silent)
      ((BlockDevice.diskSequence_query (heldDevice disk fd)).mono (fun _ h => h)
        fun _ => Explained.of_returns) (steps_lt hsteps' (by decide)) hstop
      fun t diskSequence past _ _ hsteps _ => ?_
    rw [hsteps'] at hsteps
    cases diskSequence with
    | none =>
      exact hstop _ _
        (.of_explained (steps_lt hsteps (by decide)) (restoreText_arg_ne_nil (by decide)))
    | some diskSequence => exact hok diskSequence past hsteps

/-! ## The disk held exclusively -/

/-- With the disk open, every change is permitted by what was done before. -/
theorem wp_restoreExclusively {fuel : LoopFuel} {formatTool : QString}
    {Q : Except RestoreMessage (UInt64 × RestoreStepCounter) → List (Event LinuxI) → Prop}
    (hsteps : stepsOf past = linuxRestorePlan.take 4) (huntouched : Untouched (sysCalls past))
    (hheld : Held installed request disk fd formatTool [] (sysCalls past))
    (hstop : ∀ message past, Stopped message past → Q (.error message) past)
    (hok : ∀ diskSequence past', stepsOf past' = linuxRestorePlan.take 8 →
      Q (.ok (diskSequence, ⟨linuxRestorePlan, 8⟩)) past') :
    wp (Obligation installed request) Q
      (restoreExclusively installed fuel request formatTool disk fd ⟨linuxRestorePlan, 4⟩)
      past := by
  -- Idle parts keep all that is known of the history so far.
  have hkeep : ∀ {past past' t : List (Event LinuxI)} {since : List (Event SysI)},
      Untouched (sysCalls past) → Held installed request disk fd formatTool since (sysCalls past) →
      sysCalls past' = sysCalls past ++ sysCalls t → (∀ e ∈ t, LinuxOp.Idle e.op) →
      Untouched (sysCalls past') ∧
        Held installed request disk fd formatTool (since ++ sysCalls t) (sysCalls past') := by
    intro past past' t since huntouched hheld hcalls ht
    refine ⟨untouched_append huntouched hcalls fun e he => (ht e he).quiet.silent, ?_⟩
    rw [hcalls]
    exact hheld.append (hheld.opened.meanwhile.append_idle ht)
  unfold restoreExclusively
  dsimp only
  refine wp_bind_quietly (fun _ h => h.quiet.silent)
    (BlockDevice.verifyIdentity_query installed (heldDevice disk fd) disk)
    (steps_lt hsteps (by decide))
    hstop fun t _ past' _ ht hsteps' hcalls => ?_
  obtain ⟨huntouched, hheld⟩ := hkeep huntouched hheld hcalls fun e he => (ht e he).idle
  rw [hsteps] at hsteps'
  refine wp_bind_cancelCheckpoint (steps_lt hsteps' (by decide)) huntouched hstop
    fun past hsteps hcalls => ?_
  rw [← hcalls] at huntouched hheld
  rw [hsteps'] at hsteps
  refine wp_bind_quietly (fun _ h => h.quiet.silent) (randomGuid_idle.mono (fun _ h => h)
    fun _ ⟨_, h, _⟩ => h ▸ trivial) (steps_lt hsteps (by decide)) hstop
    fun t diskGuid past' _ ht hsteps' hcalls => ?_
  obtain ⟨huntouched, hheld⟩ := hkeep huntouched hheld hcalls ht
  rw [hsteps] at hsteps'
  refine wp_bind_quietly (fun _ h => h.quiet.silent) (randomGuid_idle.mono (fun _ h => h)
    fun _ ⟨_, h, _⟩ => h ▸ trivial) (steps_lt hsteps' (by decide)) hstop
    fun t partitionGuid past _ ht hsteps hcalls => ?_
  obtain ⟨huntouched, hheld⟩ := hkeep huntouched hheld hcalls ht
  rw [hsteps'] at hsteps
  refine wp_bind_check (isWritablePartitionRequest_hasReason _) (steps_lt hsteps (by decide)) hstop
    fun _ => ?_
  refine wp_bind_quietly (fun _ => LinuxOp.Quiet.silent)
    (LoopDevice.configure_quiet installed {} fd _ _ _) (steps_lt hsteps (by decide)) hstop
    fun t formatter past' hrun ht hsteps' hcalls => ?_
  have hconfigured := configure_run hrun
  replace huntouched := untouched_append huntouched hcalls fun e he => (ht e he).silent
  replace hheld := hheld.append (hheld.opened.meanwhile.append hconfigured.meanwhile)
  rw [← hcalls] at hheld
  rw [hsteps] at hsteps'
  rw [bind_eq, wp_bind, wp_attempt]
  refine wp_eraseAndWrite (formatter.aim fd formatTool) hsteps' huntouched hheld
    (hconfigured.mapped.prepend _) (fun claim hclaim => ?_) (fun message past hstopped => ?_)
    fun past hsteps hready => ?_
  · rw [Handles.given_append]
    exact List.mem_append_right _ (hconfigured.claimed claim hclaim)
  · refine wp_of_runs (P := LinuxOp.Quiet) (R := fun r => r = .error message) ?_
      (fun t e _ he => obligation_of_silent he.silent) fun t r _ ht hr => ?_
    · refine .bind (LoopDevice.detach_quiet installed formatter) (fun _ _ => rfl) ?_
      rintro e ⟨_, _, h, _⟩
      cases h
    · cases hr
      exact hstop _ _ (hstopped.append_silent fun e he => (ht e he).silent)
  · exact wp_formatAndRereadPartitionTable hsteps hready hstop hok

/-! ## The whole restore -/

theorem wp_bind_verifyNewPartition {diskName partitionPath : QString} {diskSequence : UInt64}
    {Q : Except RestoreMessage β → List (Event LinuxI) → Prop}
    {f : Unit → Prog LinuxI RestoreMessage β}
    (hsteps : stepsOf past = linuxRestorePlan.take 9)
    (hstop : ∀ message past, Stopped message past → Q (.error message) past)
    (hok : ∀ past', stepsOf past' = linuxRestorePlan →
      wp (Obligation installed request) Q (f ()) past') :
    wp (Obligation installed request) Q
      (verifyNewPartition installed request diskName partitionPath diskSequence
        ⟨linuxRestorePlan, 9⟩ >>= f) past := by
  rw [bind_eq, wp_bind]
  unfold verifyNewPartition
  rw [bind_eq, wp_bind]
  refine wp_of_runs (BlockDevice.open_silent installed { devicePath := partitionPath } .inspect rfl)
    (fun t e _ he => obligation_of_silent he.1) fun t r _ ht hopened => ?_
  have hsteps' : stepsOf (past ++ t) = linuxRestorePlan.take 9 := by
    rw [stepsOf_append, stepsOf_of_forall fun e he => reportedStep_of_silent (ht e he).1,
      List.append_nil, hsteps]
  cases r with
  | error message => exact hopened.elim
  | ok opened =>
    obtain ⟨verdict, partition⟩ := opened
    cases verdict with
    | error message => exact hstop _ _ (.of_explained (steps_lt hsteps' (by decide)) hopened.1)
    | ok _ =>
      refine wp_withCleanup_quiet
        (.seq (BlockDevice.close_quiet partition) fun _ => rfl) ?_
      refine wp_bind_quietly (fun _ h => h.quiet.silent)
        (BlockDevice.verifyPartitionOf_query installed partition _ _) (steps_lt hsteps' (by decide))
        (fun _ _ h t ht => hstop _ _ (h.append_silent ht)) fun t _ past _ _ hsteps _ => ?_
      rw [hsteps'] at hsteps
      refine wp_bind_reportPlannedStep hsteps rfl fun past hsteps _ => ?_
      intro t ht
      refine hok _ ?_
      rw [stepsOf_append, stepsOf_of_forall fun e he => reportedStep_of_silent (ht e he),
        List.append_nil, hsteps]
      rfl

/-- The whole restore meets its obligations from an empty history on. -/
theorem performLinuxRestore_wp (installed : Catalog) (fuel : LoopFuel) (request : RestoreRequest) :
    wp (Obligation installed request) Finished (performLinuxRestore installed fuel request) [] := by
  have hstop : ∀ message past, Stopped message past →
      Finished (.error message : Except RestoreMessage RestoreResult) past := fun _ _ h => h
  unfold performLinuxRestore
  refine wp_bind_identifyDisk rfl (fun _ he => absurd he List.not_mem_nil) hstop
    fun disk formatTool past hsteps huntouched hfound hresolved => ?_
  dsimp only
  refine wp_bind_cancelCheckpoint (steps_lt hsteps (by decide)) huntouched hstop
    fun past' hsteps' hcalls => ?_
  rw [← hcalls] at huntouched hfound hresolved
  rw [hsteps] at hsteps'
  refine wp_bind_reportPlannedStep hsteps' rfl fun past hsteps hcalls => ?_
  rw [← hcalls] at huntouched hfound hresolved
  refine wp_bind_quietly (fun _ => LinuxOp.Quiet.silent) (unmountDisk_quiet installed disk)
    (steps_lt hsteps (by decide)) hstop fun t _ past' _ ht hsteps' hcalls => ?_
  replace huntouched := untouched_append huntouched hcalls fun e he => (ht e he).silent
  replace hfound := hfound.append (sysCalls t)
  replace hresolved := hresolved.append (sysCalls t)
  rw [← hcalls] at hfound hresolved
  rw [hsteps] at hsteps'
  refine wp_bind_reportPlannedStep hsteps' rfl fun past hsteps hcalls => ?_
  rw [← hcalls] at huntouched hfound hresolved
  refine wp_bind_quietly (fun _ h => h) (openExclusively_silent disk 3 0 {} (by decide))
    (steps_lt hsteps (by decide)) hstop fun t fd past' hrun ht hsteps' hcalls => ?_
  replace huntouched := untouched_append huntouched hcalls ht
  have hheld : Held installed request disk fd formatTool [] (sysCalls past') := by
    obtain ⟨before, hopened⟩ := (openExclusively_run hrun).opened
    rw [hcalls]
    exact ⟨hfound.append _, hresolved.append _,
      ⟨⟨sysCalls past ++ before, by rw [hopened, List.append_assoc]⟩, .nil⟩⟩
  rw [hsteps] at hsteps'
  rw [bind_eq, wp_bind]
  refine wp_withCleanup_quiet ⟨⟨rfl, rfl⟩, fun _ => rfl⟩ ?_
  refine wp_restoreExclusively hsteps' huntouched hheld
    (fun _ _ h t ht => h.append_silent ht) fun diskSequence past hsteps t ht => ?_
  have hsteps' : stepsOf (past ++ t) = linuxRestorePlan.take 8 := by
    rw [stepsOf_append, stepsOf_of_forall fun e he => reportedStep_of_silent (ht e he),
      List.append_nil, hsteps]
  refine wp_bind_reportPlannedStep hsteps' rfl fun past hsteps _ => ?_
  refine wp_bind_quietly (fun _ => LinuxOp.Quiet.silent) (waitForNode_quiet _ _ _)
    (steps_lt hsteps (by decide)) hstop fun t _ past' _ _ hsteps' _ => ?_
  rw [hsteps] at hsteps'
  refine wp_bind_quietly (P := LinuxOp.Lookup) (fun _ => LinuxOp.Lookup.silent)
    ⟨rfl, fun _ => trivial⟩ (steps_lt hsteps' (by decide)) hstop
    fun t present past _ _ hsteps _ => ?_
  rw [hsteps'] at hsteps
  split
  · exact hstop _ _
      (.of_explained (steps_lt hsteps (by decide)) (restoreText_arg_ne_nil (by decide)))
  · exact wp_bind_verifyNewPartition hsteps hstop fun _ h => h

end Phases

end UsbRestore
