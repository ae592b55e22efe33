-- SUMMARY: After a failed format the partition table is re-read exactly where the flush before it succeeds.
import UsbRestore.Base.Outcomes
import UsbRestore.Linux.History
import UsbRestore.Linux.UnplugBoundary

/-!
# Failed formats

The clean-up after a failed format joins its two fallible calls by a short circuit, so a failed flush
keeps the table from being re-read. Every failure before that releases the mapping first.
-/

namespace UsbRestore

open Prog

section Order

variable {formatter : LoopDevice} {fd : Fd} {t past : List (Event LinuxI)}

/-- The mapping was cleared, and every descriptor of the object closed. -/
structure Detached (formatter : LoopDevice) (t : List (Event LinuxI)) : Prop where
  cleared : ∀ loop, formatter.fd = some loop → ∃ e ∈ t, e.op = .sys (.loopClrFd loop)
  closed : ∀ loop, formatter.fd = some loop → ∃ e ∈ t, e.op = .sys (.close loop)
  unclaimed : ∀ claim, formatter.claimFd = some claim → ∃ e ∈ t, e.op = .sys (.close claim)

/-- The call comes after the mapping is detached. -/
def AfterDetach (formatter : LoopDevice) (t : List (Event LinuxI)) (e : Event LinuxI) : Prop :=
  ∃ before after, t = before ++ e :: after ∧ Detached formatter before

def isReread (fd : Fd) : Event LinuxI → Bool
  | ⟨LinuxOp.sys (.blkRrPart target), _⟩ => target == fd
  | _ => false

def isFailedFlush (fd : Fd) : Event LinuxI → Bool
  | ⟨LinuxOp.sys (.fsync target), .error _⟩ => target == fd
  | _ => false

/-- The table of the disk is re-read after the mapping is detached. -/
def RereadAfterDetach (formatter : LoopDevice) (fd : Fd) (t : List (Event LinuxI)) : Prop :=
  ∃ e, isReread fd e = true ∧ AfterDetach formatter t e

/-- A flush of the disk fails after the mapping is detached. -/
def FlushFailsAfterDetach (formatter : LoopDevice) (fd : Fd) (t : List (Event LinuxI)) : Prop :=
  ∃ e, isFailedFlush fd e = true ∧ AfterDetach formatter t e

/-- A flush of the disk or a re-read of its table. -/
def IsDiskCall (fd : Fd) (o : LinuxOp) : Prop :=
  o = .sys (.fsync fd) ∨ o = .sys (.blkRrPart fd)

theorem isDiskCall_of_isReread {e : Event LinuxI} (h : isReread fd e = true) :
    IsDiskCall fd e.op := by
  unfold isReread at h
  split at h
  · next target _ => exact .inr (by rw [beq_iff_eq.mp h])
  · cases h

theorem isDiskCall_of_isFailedFlush {e : Event LinuxI} (h : isFailedFlush fd e = true) :
    IsDiskCall fd e.op := by
  unfold isFailedFlush at h
  split at h
  · next target _ => exact .inl (by rw [beq_iff_eq.mp h])
  · cases h

/-- No such call has come after the mapping is detached. -/
def NothingAfterDetach (formatter : LoopDevice) (fd : Fd) (t : List (Event LinuxI)) : Prop :=
  ∀ e, IsDiskCall fd e.op → ¬AfterDetach formatter t e

/-- The mapping of the object has not been cleared yet. -/
def StillMapped (loop : Fd) (t : List (Event LinuxI)) : Prop :=
  ∀ e ∈ t, e.op ≠ .sys (.loopClrFd loop)

theorem Detached.append (h : Detached formatter t) (more : List (Event LinuxI)) :
    Detached formatter (t ++ more) where
  cleared loop hloop := by
    obtain ⟨e, he, hop⟩ := h.cleared loop hloop
    exact ⟨e, List.mem_append_left _ he, hop⟩
  closed loop hloop := by
    obtain ⟨e, he, hop⟩ := h.closed loop hloop
    exact ⟨e, List.mem_append_left _ he, hop⟩
  unclaimed claim hclaim := by
    obtain ⟨e, he, hop⟩ := h.unclaimed claim hclaim
    exact ⟨e, List.mem_append_left _ he, hop⟩

theorem StillMapped.not_detached {loop : Fd} (h : StillMapped loop t) (hloop : formatter.fd = some loop) :
    ¬Detached formatter t := by
  intro hdetached
  obtain ⟨e, he, hop⟩ := hdetached.cleared loop hloop
  exact h e he hop

/-- Nothing comes after a mapping that is still there. -/
theorem StillMapped.nothingAfter {loop : Fd} (h : StillMapped loop t) (hloop : formatter.fd = some loop) :
    NothingAfterDetach formatter fd t := by
  rintro e _ ⟨before, after, rfl, hdetached⟩
  refine StillMapped.not_detached (fun e he => ?_) hloop hdetached
  exact h e (List.mem_append_left _ he)

/-- What comes after the detach in a longer history came after it before, or is one of the new
calls. -/
theorem AfterDetach.of_append {e : Event LinuxI} (h : AfterDetach formatter (past ++ t) e) :
    AfterDetach formatter past e ∨ e ∈ t := by
  obtain ⟨before, after, hsplit, hdetached⟩ := h
  rcases List.append_eq_append_iff.mp hsplit with ⟨extra, rfl, hrest⟩ | ⟨extra, rfl, hrest⟩
  · refine .inr ?_
    rw [hrest]
    exact List.mem_append_right _ List.mem_cons_self
  · cases extra with
    | nil =>
      refine .inr ?_
      rw [List.nil_append] at hrest
      rw [← hrest]
      exact List.mem_cons_self
    | cons first extra =>
      obtain ⟨rfl, _⟩ := List.cons.inj hrest
      exact .inl ⟨before, extra, rfl, hdetached⟩

/-- Calls that are not about the disk add nothing. -/
theorem NothingAfterDetach.append (h : NothingAfterDetach formatter fd past)
    (ht : ∀ e ∈ t, ¬IsDiskCall fd e.op) : NothingAfterDetach formatter fd (past ++ t) := by
  intro e he hafter
  rcases hafter.of_append with hbefore | hmem
  · exact h e he hbefore
  · exact ht e hmem he

/-- Once the mapping is detached, every call comes after it. -/
theorem afterDetach_append_iff (h : NothingAfterDetach formatter fd past)
    (hdetached : Detached formatter past) {e : Event LinuxI} (he : IsDiskCall fd e.op) :
    AfterDetach formatter (past ++ t) e ↔ e ∈ t := by
  constructor
  · intro hafter
    exact hafter.of_append.resolve_left (h e he)
  · intro hmem
    obtain ⟨before, after, rfl⟩ := List.append_of_mem hmem
    exact ⟨past ++ before, after, (List.append_assoc _ _ _).symm, hdetached.append before⟩

/-- What the object `now` no longer holds of `formatter` has been released. -/
structure Released (formatter now : LoopDevice) (fd : Fd) (t : List (Event LinuxI)) : Prop where
  mapping : (now.fd = formatter.fd ∧ ∀ loop, formatter.fd = some loop → StillMapped loop t) ∨
    now.fd = none ∧ ∀ loop, formatter.fd = some loop →
      (∃ e ∈ t, e.op = .sys (.loopClrFd loop)) ∧ ∃ e ∈ t, e.op = .sys (.close loop)
  claim : now.claimFd = formatter.claimFd ∨
    now.claimFd = none ∧ ∀ claim, formatter.claimFd = some claim →
      ∃ e ∈ t, e.op = .sys (.close claim)
  nothing : NothingAfterDetach formatter fd t

/-- Calls that are neither about the disk nor clear a mapping. -/
theorem Released.append {now : LoopDevice} (h : Released formatter now fd past)
    (hdisk : ∀ e ∈ t, ¬IsDiskCall fd e.op) (hclear : ∀ e ∈ t, ∀ loop, e.op ≠ .sys (.loopClrFd loop)) :
    Released formatter now fd (past ++ t) where
  mapping := by
    rcases h.mapping with ⟨hfd, hmapped⟩ | ⟨hfd, hgone⟩
    · refine .inl ⟨hfd, fun loop hloop e he => ?_⟩
      rcases List.mem_append.mp he with he | he
      · exact hmapped loop hloop e he
      · exact hclear e he loop
    · refine .inr ⟨hfd, fun loop hloop => ?_⟩
      obtain ⟨⟨e, he, hop⟩, ⟨e', he', hop'⟩⟩ := hgone loop hloop
      exact ⟨⟨e, List.mem_append_left _ he, hop⟩, ⟨e', List.mem_append_left _ he', hop'⟩⟩
  claim := by
    rcases h.claim with hclaim | ⟨hnone, hclosed⟩
    · exact .inl hclaim
    · refine .inr ⟨hnone, fun claim hclaim => ?_⟩
      obtain ⟨e, he, hop⟩ := hclosed claim hclaim
      exact ⟨e, List.mem_append_left _ he, hop⟩
  nothing := h.nothing.append hdisk

/-- One call more that is neither about the disk nor clears a mapping keeps what is known of the
mapping. -/
theorem Released.concat {now : LoopDevice} {e : Event LinuxI} (h : Released formatter now fd past)
    (hdisk : ¬IsDiskCall fd e.op) (hclear : ∀ loop, e.op ≠ .sys (.loopClrFd loop)) :
    Released formatter now fd (past ++ [e]) := by
  refine h.append (fun e' he' => ?_) fun e' he' => ?_
  · rw [List.mem_singleton.mp he']
    exact hdisk
  · rw [List.mem_singleton.mp he']
    exact hclear

/-- While the mapping is held, nothing comes after it. -/
theorem Released.held {now : LoopDevice} {loop : Fd} (h : Released formatter now fd t)
    (hfd : now.fd = some loop) : formatter.fd = some loop ∧ StillMapped loop t := by
  rcases h.mapping with ⟨hsame, hmapped⟩ | ⟨hnone, _⟩
  · have hloop : formatter.fd = some loop := hsame ▸ hfd
    exact ⟨hloop, hmapped loop hloop⟩
  · rw [hfd] at hnone
    cases hnone

/-- While the mapping is held, the disk may be called as well. -/
theorem Released.concat_held {now : LoopDevice} {loop : Fd} {e : Event LinuxI}
    (h : Released formatter now fd past) (hfd : now.fd = some loop)
    (hclear : ∀ loop, e.op ≠ .sys (.loopClrFd loop)) : Released formatter now fd (past ++ [e]) := by
  obtain ⟨hloop, hmapped⟩ := h.held hfd
  have hmapped' : StillMapped loop (past ++ [e]) := by
    intro e' he'
    rcases List.mem_append.mp he' with he' | he'
    · exact hmapped e' he'
    · rw [List.mem_singleton.mp he']
      exact hclear loop
  refine ⟨.inl ⟨hfd.trans hloop.symm, ?_⟩, ?_, hmapped'.nothingAfter hloop⟩
  · intro loop' hloop'
    rwa [← Option.some.inj (hloop.symm.trans hloop')]
  · rcases h.claim with hsame | ⟨hnone, hclosed⟩
    · exact .inl hsame
    · refine .inr ⟨hnone, fun claim hclaim => ?_⟩
      obtain ⟨e', he', hop⟩ := hclosed claim hclaim
      exact ⟨e', List.mem_append_left _ he', hop⟩

/-- An object that holds nothing has detached its mapping. -/
theorem Released.detached {now : LoopDevice} (h : Released formatter now fd t)
    (hfd : now.fd = none) (hclaim : now.claimFd = none) : Detached formatter t where
  cleared loop hloop := by
    rcases h.mapping with ⟨hsame, _⟩ | ⟨_, hgone⟩
    · rw [hfd, hloop] at hsame
      cases hsame
    · exact (hgone loop hloop).1
  closed loop hloop := by
    rcases h.mapping with ⟨hsame, _⟩ | ⟨_, hgone⟩
    · rw [hfd, hloop] at hsame
      cases hsame
    · exact (hgone loop hloop).2
  unclaimed claim hloop := by
    rcases h.claim with hsame | ⟨_, hclosed⟩
    · rw [hclaim, hloop] at hsame
      cases hsame
    · exact hclosed claim hloop

/-- The mapping is detached, and the table of the disk re-read after it exactly where the disk is open
and no flush of it fails in between. -/
def RereadsUnlessFlushFails (formatter : LoopDevice) (device : BlockDevice)
    (t : List (Event LinuxI)) : Prop :=
  Detached formatter t ∧
    ((∃ fd, device.fd = some fd ∧ RereadAfterDetach formatter fd t) ↔
      ∃ fd, device.fd = some fd ∧ ¬FlushFailsAfterDetach formatter fd t)

end Order

section Formatting

variable [Host] {ε : Type} {installed : Catalog} {formatter now : LoopDevice} {fd : Fd}
  {past : List (Event LinuxI)}

omit [Host] in
/-- The claim is given up, and the mapping is left as it is. -/
theorem releaseClaim_leaves (h : Released formatter now fd past) :
    Leaves (fun r past' => ∃ released, r = .ok released ∧
        (released.fd = now.fd ∧ released.claimFd = none) ∧ Released formatter released fd past')
      (now.releaseClaim : Prog LinuxI ε LoopDevice) past := by
  unfold LoopDevice.releaseClaim
  split
  · next hclaim => exact ⟨now, rfl, ⟨rfl, hclaim⟩, h⟩
  · next claim hclaim =>
    refine leaves_call fun _ => ⟨_, rfl, ⟨rfl, rfl⟩, ?_⟩
    have hkept : Released formatter now fd (past ++ [⟨LinuxOp.sys (.close claim), ()⟩]) :=
      h.concat (e := ⟨LinuxOp.sys (.close claim), ()⟩) (by rintro (⟨⟨⟩⟩ | ⟨⟨⟩⟩)) nofun
    refine { hkept with claim := .inr ⟨rfl, fun held hheld => ?_⟩ }
    rcases hkept.claim with hsame | ⟨hnone, _⟩
    · rw [hclaim, hheld, Option.some.injEq] at hsame
      exact ⟨_, List.mem_append_right _ List.mem_cons_self, by rw [hsame]⟩
    · rw [hclaim] at hnone
      cases hnone

/-- A detach leaves an object that holds nothing, whatever it answers. -/
theorem detach_leaves (h : Released formatter now fd past) :
    Leaves (fun r past' => ∃ outcome : Except RestoreMessage Unit × LoopDevice, r = .ok outcome ∧
        (outcome.2.fd = none ∧ outcome.2.claimFd = none) ∧ Released formatter outcome.2 fd past')
      (now.detach installed : Prog LinuxI ε _) past := by
  unfold LoopDevice.detach
  dsimp only
  split
  · next hfd =>
    refine .seq (releaseClaim_leaves h) fun released past' hreleased => ?_
    obtain ⟨⟨hsame, hclaim⟩, hkept⟩ := hreleased
    exact ⟨_, rfl, ⟨hsame.trans hfd, hclaim⟩, hkept⟩
  · next loop hfd =>
    refine leaves_call fun synced => ?_
    have hsynced := h.concat_held (e := ⟨LinuxOp.sys (.fsync loop), synced⟩) hfd nofun
    refine .seq (releaseClaim_leaves hsynced) fun released past' hreleased => ?_
    obtain ⟨⟨hsame, hclaim⟩, hkept⟩ := hreleased
    refine leaves_call fun cleared => leaves_call fun _ => ⟨_, rfl, ⟨rfl, rfl⟩, ?_⟩
    rw [List.append_assoc]
    have hgone : NothingAfterDetach formatter fd
        (past' ++ [⟨LinuxOp.sys (.loopClrFd loop), cleared⟩, ⟨LinuxOp.sys (.close loop), ()⟩]) := by
      refine hkept.nothing.append fun e he => ?_
      simp only [List.mem_cons, List.not_mem_nil, or_false] at he
      rcases he with rfl | rfl
      · rintro (⟨⟨⟩⟩ | ⟨⟨⟩⟩)
      · rintro (⟨⟨⟩⟩ | ⟨⟨⟩⟩)
    obtain ⟨hloop, _⟩ := h.held hfd
    refine ⟨.inr ⟨rfl, fun loop' hloop' => ?_⟩, .inr ⟨rfl, fun claim hheld => ?_⟩, hgone⟩
    · obtain rfl := Option.some.inj (hloop.symm.trans hloop')
      exact ⟨⟨_, List.mem_append_right _ List.mem_cons_self, rfl⟩,
        ⟨_, List.mem_append_right _ (List.mem_cons_of_mem _ List.mem_cons_self), rfl⟩⟩
    · rcases hkept.claim with hnone | ⟨_, hclosed⟩
      · rw [hclaim, hheld] at hnone
        cases hnone
      · obtain ⟨e, he, hop⟩ := hclosed claim hheld
        exact ⟨e, List.mem_append_left _ he, hop⟩

/-- A prepared mapping is still held. -/
theorem prepareForFormatting_leaves (h : Released formatter now fd past) :
    Leaves (fun r past' => ∃ outcome : Except RestoreMessage Unit × LoopDevice, r = .ok outcome ∧
        (outcome.1 = .ok () → ∃ loop, outcome.2.fd = some loop) ∧
        Released formatter outcome.2 fd past')
      (now.prepareForFormatting installed) past := by
  unfold LoopDevice.prepareForFormatting
  dsimp only
  split
  · exact ⟨_, rfl, nofun, h⟩
  · next loop hfd =>
    refine leaves_call fun answered => ?_
    have hasked := h.concat (e := ⟨LinuxOp.sys (.blkFlsBuf loop), answered⟩)
      (by rintro (⟨⟨⟩⟩ | ⟨⟨⟩⟩)) nofun
    cases answered with
    | error errorNumber => exact ⟨_, rfl, nofun, hasked⟩
    | ok _ =>
      refine .seq (releaseClaim_leaves hasked) fun released past' hreleased => ?_
      obtain ⟨⟨hsame, _⟩, hkept⟩ := hreleased
      exact ⟨_, rfl, fun _ => ⟨loop, hsame.trans hfd⟩, hkept⟩

/-- The formatter's own calls leave the mapping as it is. -/
theorem formatLinuxPartition_leaves (h : Released formatter now fd past)
    (hheld : ∃ loop, now.fd = some loop) (fileSystem : FileSystemType) (tool label : QString)
    (partitionStartSector : UInt64) :
    Leaves (fun _ past' => Released formatter now fd past')
      (formatLinuxPartition installed fileSystem tool now.path label partitionStartSector) past := by
  obtain ⟨loop, hfd⟩ := hheld
  have haimed := formatLinuxPartition_aimed installed fileSystem
    { fd, tool, path := now.path, claim := none } label partitionStartSector
  refine leaves_of_satisfies haimed fun t r ht _ => ?_
  have hclear : ∀ e ∈ t, ∀ loop, e.op ≠ .sys (.loopClrFd loop) := by
    intro e he loop' hop
    have hunmapping := ht e he
    rw [hop] at hunmapping
    exact Bool.noConfusion hunmapping.2.2
  induction t using List.reverseRecOn with
  | nil => rwa [List.append_nil]
  | append_singleton t e ih =>
    rw [← List.append_assoc]
    refine Released.concat_held (ih ?_ ?_) hfd (hclear e (by simp))
    · exact fun e' he' => ht e' (List.mem_append_left _ he')
    · exact fun e' he' => hclear e' (List.mem_append_left _ he')

/-- However the formatting ends, what the object no longer holds has been released. -/
theorem formatThroughMapping_leaves (h : Released formatter formatter fd past)
    (request : RestoreRequest) (formatTool : QString) (partitionStartSector : UInt64) :
    Leaves (fun r past' => ∃ outcome : Except RestoreMessage Unit × LoopDevice, r = .ok outcome ∧
        Released formatter outcome.2 fd past')
      (formatThroughMapping installed request formatTool partitionStartSector formatter) past := by
  unfold formatThroughMapping
  refine .seq (prepareForFormatting_leaves h) fun outcome past' houtcome => ?_
  obtain ⟨prepared, now⟩ := outcome
  obtain ⟨hheld, hkept⟩ := houtcome
  cases prepared with
  | error message => exact ⟨_, rfl, hkept⟩
  | ok _ =>
    refine .seq (Q := fun _ past' => Released formatter now fd past') ?_ fun formatted past'' h => ?_
    · refine leaves_attempt (formatLinuxPartition_leaves hkept (hheld rfl) _ _ _ _) ?_
      exact fun r past'' h => ⟨r, rfl, h⟩
    · cases formatted with
      | error message => exact ⟨_, rfl, h⟩
      | ok _ =>
        refine (detach_leaves h).mono ?_
        rintro r past'' ⟨outcome, rfl, _, hkept⟩
        exact ⟨outcome, rfl, hkept⟩

omit [Host] in
/-- Once the mapping is detached, both are a matter of the calls that follow. -/
theorem rereadsUnlessFlushFails_of_calls {device : BlockDevice} {t : List (Event LinuxI)}
    (hfd : device.fd = some fd) (hnothing : NothingAfterDetach formatter fd past)
    (hdetached : Detached formatter past) (h : t.any (isReread fd) = !t.any (isFailedFlush fd)) :
    RereadsUnlessFlushFails formatter device (past ++ t) := by
  have hreread : RereadAfterDetach formatter fd (past ++ t) ↔ t.any (isReread fd) = true := by
    rw [List.any_eq_true]
    refine exists_congr fun e => ?_
    rw [and_comm, and_congr_left_iff]
    exact fun he => afterDetach_append_iff hnothing hdetached (isDiskCall_of_isReread he)
  have hflush : FlushFailsAfterDetach formatter fd (past ++ t) ↔
      t.any (isFailedFlush fd) = true := by
    rw [List.any_eq_true]
    refine exists_congr fun e => ?_
    rw [and_comm, and_congr_left_iff]
    exact fun he => afterDetach_append_iff hnothing hdetached (isDiskCall_of_isFailedFlush he)
  refine ⟨hdetached.append t, ?_⟩
  simp only [hfd, Option.some.injEq, exists_eq_left', hreread, hflush, h, Bool.not_eq_true',
    Bool.not_eq_true]

/-- The clean-up after a failure, once the mapping is detached: whether the table is re-read is
whether the flush before it succeeds. -/
theorem cleanUp_leaves (device : BlockDevice) {message : RestoreMessage}
    (hnothing : ∀ fd, device.fd = some fd → NothingAfterDetach formatter fd past)
    (hdetached : Detached formatter past) :
    Leaves (fun _ past' => RereadsUnlessFlushFails formatter device past')
      (do
        match ← (device.flush installed >>= fun _ => device.rereadPartitionTable installed).attempt with
        | .ok () => .fail message
        | .error rereadError =>
          Reporter.detail rereadError.english
          .fail message : Prog LinuxI RestoreMessage (UInt64 × RestoreStepCounter)) past := by
  cases hfd : device.fd with
  | none => exact leaves_of_extensions fun t r => ⟨hdetached.append t, by simp [hfd]⟩
  | some fd =>
    have hcalls := fun t =>
      rereadsUnlessFlushFails_of_calls (t := t) hfd (hnothing fd hfd) hdetached
    unfold BlockDevice.flush BlockDevice.rereadPartitionTable
    rw [hfd]
    intro synced
    refine ⟨trivial, ?_⟩
    cases synced with
    | error errorNumber =>
      intro _
      refine ⟨trivial, ?_⟩
      rw [List.append_assoc]
      exact hcalls _ (by simp [isReread, isFailedFlush])
    | ok _ =>
      intro flushed
      refine ⟨trivial, ?_⟩
      intro reread
      refine ⟨trivial, ?_⟩
      cases reread with
      | ok _ =>
        rw [List.append_assoc, List.append_assoc]
        exact hcalls _ (by simp [isReread, isFailedFlush])
      | error errorNumber =>
        intro _
        refine ⟨trivial, ?_⟩
        rw [List.append_assoc, List.append_assoc, List.append_assoc]
        exact hcalls _ (by simp [isReread, isFailedFlush])

omit [Host] in
/-- A step is reported, with a detail before it where it is out of order. -/
theorem reportPlannedStep_leaves (counter : RestoreStepCounter) (step : RestoreStep)
    (request : RestoreRequest) :
    Leaves (fun r past' => ∃ counter', r = .ok counter' ∧
        ∃ t, past' = past ++ t ∧ (∀ e ∈ t, ∃ op, e.op = .reporter op) ∧ step ∈ stepsOf t)
      (reportPlannedStep installed counter step request : Prog LinuxI ε RestoreStepCounter)
      past := by
  unfold reportPlannedStep
  dsimp only
  split
  · refine leaves_call fun _ => leaves_call fun _ => ⟨_, rfl, _, List.append_assoc _ _ _, ?_, ?_⟩
    · exact List.forall_mem_cons.mpr ⟨⟨_, rfl⟩, List.forall_mem_singleton.mpr ⟨_, rfl⟩⟩
    · simp [stepsOf, reportedStep]
  · refine leaves_call fun _ => ⟨_, rfl, _, rfl, ?_, ?_⟩
    · exact List.forall_mem_singleton.mpr ⟨_, rfl⟩
    · simp [stepsOf, reportedStep]

/-- A failed format releases the mapping, and re-reads the table exactly where the flush of the disk
between the two does not fail. -/
theorem formatAndRereadPartitionTable_leaves (request : RestoreRequest) (formatTool : QString)
    (partitionStartSector : UInt64) (device : BlockDevice) (formatter : LoopDevice)
    (steps : RestoreStepCounter) :
    Leaves (fun r past => ∀ message, r = .error message → .rereadPartitionTable ∉ stepsOf past →
        RereadsUnlessFlushFails formatter device past)
      (formatAndRereadPartitionTable installed request formatTool partitionStartSector device
        formatter steps) [] := by
  unfold formatAndRereadPartitionTable
  refine .seq (reportPlannedStep_leaves steps .format request) ?_
  rintro steps' past ⟨t, hpast, hreported, _⟩
  obtain rfl : past = t := hpast
  have hstart : Released formatter formatter (device.fd.getD 0) past := by
    refine ⟨.inl ⟨rfl, fun loop _ e he hop => ?_⟩, .inl rfl, fun e he hafter => ?_⟩
    · obtain ⟨op, hop'⟩ := hreported e he
      cases hop.symm.trans hop'
    · obtain ⟨before, after, hsplit, _⟩ := hafter
      obtain ⟨op, hop⟩ := hreported e (by rw [hsplit]; simp)
      rw [hop] at he
      rcases he with ⟨⟨⟩⟩ | ⟨⟨⟩⟩
  refine .seq (formatThroughMapping_leaves hstart request formatTool partitionStartSector) ?_
  rintro ⟨formatted, now⟩ past hkept
  cases formatted with
  | error message =>
    refine .seq (detach_leaves hkept) ?_
    rintro ⟨verdict, released⟩ past ⟨⟨hfd, hclaim⟩, hkept⟩
    refine (cleanUp_leaves device ?_ (hkept.detached hfd hclaim)).mono fun _ _ h _ _ _ => h
    intro fd hdevice
    have hnothing := hkept.nothing
    rwa [hdevice] at hnothing
  | ok _ =>
    refine .seq (reportPlannedStep_leaves steps' .rereadPartitionTable request) ?_
    rintro steps'' past' ⟨t, rfl, _, hstep⟩
    refine leaves_of_extensions fun t' r message _ hbefore => absurd ?_ hbefore
    simp [hstep]

/-- For every run that fails before the step of the re-read. -/
theorem formatAndRereadPartitionTable_rereads_iff (request : RestoreRequest) (formatTool : QString)
    (partitionStartSector : UInt64) (device : BlockDevice) (formatter : LoopDevice)
    (steps : RestoreStepCounter) (t : List (Event LinuxI)) (message : RestoreMessage)
    (hrun : Runs (formatAndRereadPartitionTable installed request formatTool partitionStartSector
      device formatter steps) t (some (.error message)))
    (hbefore : .rereadPartitionTable ∉ stepsOf t) :
    Detached formatter t ∧
      ((∃ fd, device.fd = some fd ∧ RereadAfterDetach formatter fd t) ↔
        ∃ fd, device.fd = some fd ∧ ¬FlushFailsAfterDetach formatter fd t) :=
  (formatAndRereadPartitionTable_leaves request formatTool partitionStartSector device formatter
    steps).runs hrun message rfl hbefore

end Formatting

namespace RefusedMapping

/-- The mapping does not take up the new sectors, and the disk answers its flush with `flushed`. -/
def answers (flushed : Except Errno Unit) : (o : LinuxOp) → o.Ans
  | .sys (.blkFlsBuf _) => .error Errno.EIO
  | .sys (.fsync fd) => if fd = 3 then flushed else .ok ()
  | o => SmallStick.linuxAnswers 1000 0 o

def device : BlockDevice := { devicePath := SmallStick.diskNode, fd := some 3 }

def formatter : LoopDevice := { fd := some 4, claimFd := some 5 }

variable [Host]

def format : Prog LinuxI RestoreMessage (UInt64 × RestoreStepCounter) :=
  formatAndRereadPartitionTable Catalog.english SmallStick.request [] 2048 device formatter
    { plan := linuxRestorePlan }

def run (flushed : Except Errno Unit) :
    List (Event LinuxI) × Option (Except RestoreMessage (UInt64 × RestoreStepCounter)) :=
  format.execute (I := LinuxI) (fun _ => answers flushed) 0

/-- Whatever the flush answers, the run fails before the step of the re-read. -/
theorem run_fails (flushed : Except Errno Unit) :
    (∃ message, Runs format (run flushed).1 (some (.error message))) ∧
      .rereadPartitionTable ∉ stepsOf (run flushed).1 := by
  have hrun : Runs format (run flushed).1 (run flushed).2 := execute_runs _ _ _
  have hnone : .rereadPartitionTable ∉ [RestoreStep.format] := by decide
  cases flushed with
  | ok _ => exact ⟨⟨_, hrun⟩, hnone⟩
  | error errorNumber => exact ⟨⟨_, hrun⟩, hnone⟩

end RefusedMapping

open RefusedMapping in
open SmallStick in
/-- A mapping that fails, on a disk that takes its flush: the table is re-read. -/
theorem formatAndRereadPartitionTable_rereads_small :
    ∃ fd, device.fd = some fd ∧ RereadAfterDetach formatter fd (run (.ok ())).1 := by
  obtain ⟨⟨message, hrun⟩, hbefore⟩ := run_fails (.ok ())
  have hiff := formatAndRereadPartitionTable_rereads_iff SmallStick.request [] 2048 device formatter
    { plan := linuxRestorePlan } _ message hrun hbefore
  refine hiff.2.mpr ⟨3, rfl, ?_⟩
  rintro ⟨e, hfailed, before, after, hsplit, _⟩
  have hnone : (run (.ok ())).1.any (isFailedFlush 3) = false := by decide
  rw [List.any_eq_false] at hnone
  exact hnone e (by rw [hsplit]; simp) hfailed

open RefusedMapping in
open SmallStick in
/-- A mapping that fails on a disk whose flush fails: the table is not re-read. -/
theorem formatAndRereadPartitionTable_skips_reread :
    ¬∀ (installed : Catalog) (request : RestoreRequest) (formatTool : QString)
      (partitionStartSector : UInt64) (device : BlockDevice) (formatter : LoopDevice)
      (steps : RestoreStepCounter) (t : List (Event LinuxI)) (message : RestoreMessage),
      Runs (formatAndRereadPartitionTable installed request formatTool partitionStartSector device
        formatter steps) t (some (.error message)) →
      .rereadPartitionTable ∉ stepsOf t → device.fd.isSome →
      Detached formatter t ∧ ∃ fd, device.fd = some fd ∧ RereadAfterDetach formatter fd t := by
  intro hclaim
  obtain ⟨⟨message, hrun⟩, hbefore⟩ := run_fails (.error Errno.EIO)
  obtain ⟨_, fd, hfd, e, hreread, before, after, hsplit, _⟩ :=
    hclaim _ _ _ _ _ _ _ _ message hrun hbefore rfl
  obtain rfl := Option.some.inj hfd
  have hnone : (run (.error Errno.EIO)).1.any (isReread 3) = false := by decide
  rw [List.any_eq_false] at hnone
  exact hnone e (by rw [hsplit]; simp) hreread

end UsbRestore
