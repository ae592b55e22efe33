-- SUMMARY: What a history of the Windows restore says, a monitor that notes it, and a rule for each call.
import UsbRestore.Base.Monitor
import UsbRestore.Win.DeviceFacts
import UsbRestore.Win.Restore

/-!
# The watch over the Windows restore

A monitor notes the reported steps, the handle that was opened, whether the handle was asked who it is
since the last change, and whether anything was changed. Here stands what its notes mean of a history,
what it asks of each call, and for every kind of call the rule by which a program is followed with it.
-/

namespace UsbRestore

namespace WindowsDiskService

open Prog RawDisk

/-! ## Messages -/

@[simp] theorem english_stepFailure (failure : RestoreMessage) :
    (stepFailure failure).english = failure.english := by
  unfold stepFailure
  split
  · rfl
  · rfl

/-- The message of a failed operation is never empty, with or without details and advice. -/
theorem windowsRestoreErrorMessage_ne_nil (installed : Catalog) (context detail advice : RestoreMessage) :
    (windowsRestoreErrorMessage installed context detail advice).english ≠ [] := by
  unfold windowsRestoreErrorMessage
  dsimp only
  split
  · exact arg_ne_nil_of_space (space_mem_literal (by decide)) _
  · exact arg_ne_nil_of_space (space_mem_literal (by decide)) _

/-! ## Calls -/

/-- A call that changes what is stored on the disk. -/
def changesDisk : ServiceOp → Bool
  | .deletePartitionsForDisk _ | .replaceLayoutWithEmptyGpt _ | .clearPartitionSignatures _ _ _
  | .setRaw _ | .createSinglePartition _ _ _ _ _ | .formatVolume _ _ _ _ _ _ => true
  | _ => false

def mounts : ServiceOp → Bool
  | .mountVolume _ => true
  | _ => false

/-- A call before which the handle has to be asked who it is. -/
def needsIdentity : ServiceOp → Bool
  | .deletePartitionsForDisk _ | .clearPartitionSignatures _ _ _ | .mountVolume _
  | .formatVolume _ _ _ _ _ _ => true
  | _ => false

def closes : ServiceOp → Bool
  | .closeRawDisk _ => true
  | _ => false

section

variable [Host] [SerialCharacters] {installed : Catalog} {fuel : Nat}

/-! ## Histories -/

def reportedStep : Event (ServiceI installed fuel) → Option RestoreStep
  | ⟨ServiceOp.reporter (.step step _), _⟩ => some step
  | _ => none

def stepsOf (t : List (Event (ServiceI installed fuel))) : List RestoreStep :=
  t.filterMap reportedStep

/-- The handle that was opened. -/
def openedHandle : Event (ServiceI installed fuel) → Option Handle
  | ⟨ServiceOp.openRawDisk _, opened⟩ => (method opened).toOption.map RawDisk.handle
  | _ => none

/-- The handle that has passed for the selected disk. -/
def verifiedHandle : Event (ServiceI installed fuel) → Option Handle
  | ⟨ServiceOp.verifyIdentity disk _, verified⟩ => (method verified).toOption.map fun _ => disk.handle
  | _ => none

def sawCancel : Event (ServiceI installed fuel) → Bool
  | ⟨ServiceOp.reporter .cancelRequested, cancelled⟩ => cancelled
  | _ => false

/-- Nothing was changed. -/
def Untouched (t : List (Event (ServiceI installed fuel))) : Prop :=
  ∀ e ∈ t, changesDisk e.op = false

/-- An open handle has passed for the selected disk, and since then nothing was changed or mounted. -/
def Confirmed (t : List (Event (ServiceI installed fuel))) : Prop :=
  ∃ before e after handle, t = before ++ e :: after ∧ verifiedHandle e = some handle ∧
    (∃ e ∈ before, openedHandle e = some handle) ∧
    ∀ e ∈ after, changesDisk e.op = false ∧ mounts e.op = false

/-- The restore was told to stop at a checkpoint, and has only closed the disk since. -/
def StoppedAtCheckpoint (t : List (Event (ServiceI installed fuel))) : Prop :=
  ∃ before e after, t = before ++ e :: after ∧ sawCancel e = true ∧ ∀ e ∈ after, closes e.op = true

/-! ## The monitor -/

/-- What is noted of a history. -/
structure Watch where
  steps : List RestoreStep := []
  handle : Option Handle := none
  confirmed : Bool := false
  untouched : Bool := true
  stopped : Bool := false
  closed : Bool := false

def Watch.after (w : Watch) (e : Event (ServiceI installed fuel)) : Watch :=
  { steps := w.steps ++ (reportedStep e).toList
    handle := w.handle.or (openedHandle e)
    confirmed := (w.confirmed && !changesDisk e.op && !mounts e.op) ||
      ((verifiedHandle e).isSome && verifiedHandle e == w.handle)
    untouched := w.untouched && !changesDisk e.op
    stopped := sawCancel e || (w.stopped && closes e.op)
    closed := w.closed || closes e.op }

def watch (t : List (Event (ServiceI installed fuel))) : Watch := t.foldl Watch.after {}

theorem watch_concat (t : List (Event (ServiceI installed fuel)))
    (e : Event (ServiceI installed fuel)) : watch (t ++ [e]) = (watch t).after e := by
  rw [watch, List.foldl_append]
  rfl

theorem stepsOf_concat (t : List (Event (ServiceI installed fuel)))
    (e : Event (ServiceI installed fuel)) :
    stepsOf (t ++ [e]) = stepsOf t ++ (reportedStep e).toList := by
  rw [stepsOf, List.filterMap_append]
  cases hstep : reportedStep e <;> simp [stepsOf, hstep]

theorem watch_steps (t : List (Event (ServiceI installed fuel))) : (watch t).steps = stepsOf t := by
  induction t using List.reverseRecOn with
  | nil => rfl
  | append_singleton t e ih =>
    rw [watch_concat, stepsOf_concat, Watch.after, ih]

/-- The steps of a run are those of the plan when each that is reported is the next. -/
theorem stepsOf_isPrefix {t : List (Event (ServiceI installed fuel))}
    (h : ∀ before e after, t = before ++ e :: after →
      ∀ step, reportedStep e = some step → stepsOf before ++ [step] <+: windowsRestorePlan) :
    stepsOf t <+: windowsRestorePlan := by
  induction t using List.reverseRecOn with
  | nil => exact List.nil_prefix
  | append_singleton t e ih =>
    rw [stepsOf_concat]
    cases hstep : reportedStep e with
    | some step => exact h t e [] rfl step hstep
    | none =>
      rw [Option.toList_none, List.append_nil]
      refine ih fun before e' after ht => h before e' (after ++ [e]) ?_
      rw [ht, List.append_assoc, List.cons_append]

/-- The handle that is noted is one that was opened in the run. -/
theorem watch_handle (t : List (Event (ServiceI installed fuel))) {handle : Handle}
    (h : (watch t).handle = some handle) : ∃ e ∈ t, openedHandle e = some handle := by
  induction t using List.reverseRecOn with
  | nil => cases h
  | append_singleton t e ih =>
    rw [watch_concat] at h
    replace h : (watch t).handle.or (openedHandle e) = some handle := h
    rcases Option.or_eq_some_iff.mp h with hearlier | ⟨_, hopened⟩
    · obtain ⟨e', he', hopened⟩ := ih hearlier
      exact ⟨e', List.mem_append_left _ he', hopened⟩
    · exact ⟨e, by simp, hopened⟩

theorem watch_handle_none (t : List (Event (ServiceI installed fuel)))
    (h : (watch t).handle = none) : ∀ e ∈ t, openedHandle e = none := by
  induction t using List.reverseRecOn with
  | nil => exact List.forall_mem_nil _
  | append_singleton t e ih =>
    rw [watch_concat] at h
    replace h : (watch t).handle.or (openedHandle e) = none := h
    obtain ⟨hearlier, hopened⟩ := Option.or_eq_none_iff.mp h
    intro e' he'
    rcases List.mem_append.mp he' with he' | he'
    · exact ih hearlier e' he'
    · rw [List.mem_singleton.mp he']
      exact hopened

theorem watch_closed (t : List (Event (ServiceI installed fuel))) (h : (watch t).closed = false) :
    ∀ e ∈ t, closes e.op = false := by
  induction t using List.reverseRecOn with
  | nil => exact List.forall_mem_nil _
  | append_singleton t e ih =>
    rw [watch_concat] at h
    replace h : ((watch t).closed || closes e.op) = false := h
    rw [Bool.or_eq_false_iff] at h
    intro e' he'
    rcases List.mem_append.mp he' with he' | he'
    · exact ih h.1 e' he'
    · rw [List.mem_singleton.mp he']
      exact h.2

theorem watch_untouched (t : List (Event (ServiceI installed fuel)))
    (h : (watch t).untouched = true) : Untouched t := by
  induction t using List.reverseRecOn with
  | nil => exact List.forall_mem_nil _
  | append_singleton t e ih =>
    rw [watch_concat] at h
    replace h : ((watch t).untouched && !changesDisk e.op) = true := h
    rw [Bool.and_eq_true, Bool.not_eq_true'] at h
    intro e' he'
    rcases List.mem_append.mp he' with he' | he'
    · exact ih h.1 e' he'
    · rw [List.mem_singleton.mp he']
      exact h.2

/-- Where a check of the identity is noted, nothing was changed since it passed. -/
theorem watch_confirmed (t : List (Event (ServiceI installed fuel)))
    (h : (watch t).confirmed = true) : Confirmed t := by
  induction t using List.reverseRecOn with
  | nil => cases h
  | append_singleton t e ih =>
    rw [watch_concat] at h
    replace h : ((watch t).confirmed && !changesDisk e.op && !mounts e.op ||
      ((verifiedHandle e).isSome && verifiedHandle e == (watch t).handle)) = true := h
    rw [Bool.or_eq_true, Bool.and_eq_true, Bool.and_eq_true, Bool.and_eq_true, Bool.not_eq_true',
      Bool.not_eq_true', beq_iff_eq, Option.isSome_iff_exists] at h
    rcases h with ⟨⟨hearlier, hkept⟩, hunmounted⟩ | ⟨⟨handle, hverified⟩, hsame⟩
    · obtain ⟨before, e', after, handle, rfl, hverified, hopened, hafter⟩ := ih hearlier
      refine ⟨before, e', after ++ [e], handle, by simp, hverified, hopened, ?_⟩
      intro e'' he''
      rcases List.mem_append.mp he'' with he'' | he''
      · exact hafter e'' he''
      · rw [List.mem_singleton.mp he'']
        exact ⟨hkept, hunmounted⟩
    · rw [hverified] at hsame
      exact ⟨t, e, [], handle, rfl, hverified, watch_handle t hsame.symm, List.forall_mem_nil _⟩

/-- Where a stop is noted, the restore was told to stop at a checkpoint and has only closed the disk
since. -/
theorem watch_stopped (t : List (Event (ServiceI installed fuel)))
    (h : (watch t).stopped = true) : StoppedAtCheckpoint t := by
  induction t using List.reverseRecOn with
  | nil => cases h
  | append_singleton t e ih =>
    rw [watch_concat] at h
    replace h : (sawCancel e || (watch t).stopped && closes e.op) = true := h
    rw [Bool.or_eq_true, Bool.and_eq_true] at h
    rcases h with hcancel | ⟨hearlier, hcloses⟩
    · exact ⟨t, e, [], rfl, hcancel, List.forall_mem_nil _⟩
    · obtain ⟨before, e', after, rfl, hcancel, hafter⟩ := ih hearlier
      refine ⟨before, e', after ++ [e], by simp, hcancel, ?_⟩
      intro e'' he''
      rcases List.mem_append.mp he'' with he'' | he''
      · exact hafter e'' he''
      · rw [List.mem_singleton.mp he'']
        exact hcloses

/-! ## What is asked of a run -/

/-- What is asked of a call. -/
structure Allowed (w : Watch) (e : Event (ServiceI installed fuel)) : Prop where
  step : ∀ step, reportedStep e = some step → w.steps ++ [step] <+: windowsRestorePlan
  announced : changesDisk e.op = true → firstDestructiveStepOf windowsRestorePlan ≤ w.steps.length
  confirmed : needsIdentity e.op = true → w.confirmed = true
  oneHandle : (openedHandle e).isSome = true → w.handle = none
  unclosed : w.closed = false

/-- What a failure means: the plan is unfinished, and an empty message stands for a stop at a
checkpoint before anything was changed. -/
structure Stopped (message : RestoreMessage) (w : Watch) : Prop where
  unfinished : w.steps.length < windowsRestorePlan.length
  explained : message.english = [] → w.stopped = true ∧ w.untouched = true
  unclosed : w.closed = false

/-- What the end of a part of the restore means. -/
def Reaches {α : Type} (next : α → Watch → Prop) : Except RestoreMessage α → Watch → Prop
  | .ok a, w => next a w
  | .error message, w => Stopped message w

/-- A part of the restore that asks what is allowed, and ends so. -/
abbrev Follows {α : Type} (p : Prog (ServiceI installed fuel) RestoreMessage α)
    (next : α → Watch → Prop) (w : Watch) : Prop :=
  p.Surely (monitor Watch.after) (fun w o ans _ => Allowed w ⟨o, ans⟩) (Reaches next) w

/-- The notes after `n` steps of the plan. -/
def noted (n : Nat) (handle : Option Handle) (confirmed untouched : Bool) : Watch :=
  { steps := windowsRestorePlan.take n, handle, confirmed, untouched }

section

variable {α β : Type} {n : Nat} {handle : Option Handle} {confirmed untouched : Bool}
  {next : α → Watch → Prop}

omit [Host] [SerialCharacters] in
theorem length_windowsRestorePlan : windowsRestorePlan.length = 14 := rfl

omit [Host] [SerialCharacters] in
theorem length_take_windowsRestorePlan (hn : n < 14) :
    (windowsRestorePlan.take n).length < windowsRestorePlan.length := by
  rw [List.length_take, length_windowsRestorePlan]
  omega

omit [Host] [SerialCharacters] in
/-- A failure before the end of the plan, with a message, is a stop. -/
theorem stopped_of_explained {message : RestoreMessage} (hn : n < 14) (h : message.english ≠ []) :
    Stopped message (noted n handle confirmed untouched) :=
  ⟨length_take_windowsRestorePlan hn, fun hnil => absurd hnil h, rfl⟩

/-- Two parts of a restore follow the plan one after the other, the second from what is noted after
the first. -/
theorem Follows.seq {p : Prog (ServiceI installed fuel) RestoreMessage β}
    {f : β → Prog (ServiceI installed fuel) RestoreMessage α} {middle : β → Watch → Prop} {w : Watch}
    (h : Follows p middle w) (hf : ∀ b w', middle b w' → Follows (f b) next w') :
    Follows (p >>= f) next w :=
  Surely.bind h hf fun _ _ he => he

/-! ## Rules -/

/-- A call that is neither a step nor a checkpoint, opens and closes nothing, asks nothing of the
handle, and neither changes nor mounts anything. -/
def isPlain : ServiceOp → Bool
  | .openRawDisk _ | .verifyIdentity _ _ | .closeRawDisk _ | .reporter (.step _ _)
  | .reporter .cancelRequested => false
  | o => !changesDisk o && !mounts o

/-- Neither a step nor a checkpoint that stops, and nothing is opened or closed. -/
structure Silent (e : Event (ServiceI installed fuel)) : Prop where
  step : reportedStep e = none
  opens : openedHandle e = none
  stops : sawCancel e = false
  closes : closes e.op = false

/-- No handle passes either. -/
structure Unnoted (e : Event (ServiceI installed fuel)) : Prop extends Silent e where
  verifies : verifiedHandle e = none

theorem unnoted_of_plain {e : Event (ServiceI installed fuel)} (h : isPlain e.op = true) :
    Unnoted e := by
  obtain ⟨o, ans⟩ := e
  cases o with
  | openRawDisk diskNumber => cases h
  | verifyIdentity disk expected => cases h
  | closeRawDisk handle => cases h
  | reporter op =>
    cases op with
    | detail message => exact ⟨⟨rfl, rfl, rfl, rfl⟩, rfl⟩
    | step step message => cases h
    | cancelRequested => cases h
  | _ => exact ⟨⟨rfl, rfl, rfl, rfl⟩, rfl⟩

theorem unnoted_of_changes {e : Event (ServiceI installed fuel)}
    (h : changesDisk e.op = true ∨ mounts e.op = true) : Unnoted e := by
  obtain ⟨o, ans⟩ := e
  cases o with
  | openRawDisk diskNumber => simp [changesDisk, mounts] at h
  | verifyIdentity disk expected => simp [changesDisk, mounts] at h
  | closeRawDisk handle => simp [changesDisk, mounts] at h
  | reporter op => simp [changesDisk, mounts] at h
  | _ => exact ⟨⟨rfl, rfl, rfl, rfl⟩, rfl⟩

/-- What is left of the notes after a call that may ask the handle, change or mount. -/
theorem after_of_silent {e : Event (ServiceI installed fuel)} (h : Silent e) :
    (noted n handle confirmed untouched).after e =
      noted n handle (confirmed && !changesDisk e.op && !mounts e.op ||
        ((verifiedHandle e).isSome && verifiedHandle e == handle))
        (untouched && !changesDisk e.op) := by
  simp only [Watch.after, noted, h.step, h.opens, h.stops, h.closes, Option.toList_none,
    List.append_nil, Option.or_none, Bool.false_and, Bool.or_false]

/-- A call that no note is made of can only cost the check of the identity and the claim that
nothing was changed. -/
theorem after_of_unnoted {e : Event (ServiceI installed fuel)} (h : Unnoted e) :
    (noted n handle confirmed untouched).after e =
      noted n handle (confirmed && !changesDisk e.op && !mounts e.op)
        (untouched && !changesDisk e.op) := by
  rw [after_of_silent h.toSilent, h.verifies, Option.isSome_none, Bool.false_and, Bool.or_false]

/-- What is left of the notes after a call of the reporter. -/
theorem after_reporter {e : Event (ServiceI installed fuel)} (hopens : openedHandle e = none)
    (hverifies : verifiedHandle e = none) (hkept : changesDisk e.op = false ∧ mounts e.op = false)
    (hcloses : closes e.op = false) :
    (noted n handle confirmed untouched).after e =
      { noted n handle confirmed untouched with
        steps := windowsRestorePlan.take n ++ (reportedStep e).toList
        stopped := sawCancel e } := by
  simp only [Watch.after, noted, hopens, hverifies, hkept, hcloses, Option.or_none,
    Option.isSome_none, Bool.not_false, Bool.and_true, Bool.false_and, Bool.or_false]

/-- Such a call is allowed between the announcement and the end, with a fresh check of the identity
where it needs one. -/
theorem allowed_of_unnoted {e : Event (ServiceI installed fuel)} (h : Unnoted e)
    (hannounced : changesDisk e.op = true → 5 ≤ n ∧ n ≤ 14)
    (hconfirmed : needsIdentity e.op = true → confirmed = true) :
    Allowed (noted n handle confirmed untouched) e where
  step step hstep := by
    rw [h.step] at hstep
    cases hstep
  announced hchanges := by
    obtain ⟨hfive, hend⟩ := hannounced hchanges
    change _ ≤ (windowsRestorePlan.take n).length
    rw [List.length_take, length_windowsRestorePlan, firstDestructiveStepOf_windowsRestorePlan]
    omega
  confirmed := hconfirmed
  oneHandle hopens := by
    rw [h.opens] at hopens
    cases hopens
  unclosed := rfl

omit [Host] [SerialCharacters] in
theorem needsIdentity_changes {o : ServiceOp} (h : needsIdentity o = true) :
    changesDisk o = true ∨ mounts o = true := by
  cases o with
  | deletePartitionsForDisk diskNumber => exact .inl rfl
  | clearPartitionSignatures disk diskSize sectorSize => exact .inl rfl
  | formatVolume volumeName driveRoot diskNumber fileSystem allocationUnitSize label => exact .inl rfl
  | mountVolume volumeName => exact .inr rfl
  | _ => cases h

/-- A plain call. -/
theorem follows_plain {o : ServiceOp} {f : o.Ans installed fuel → Prog _ RestoreMessage α}
    (h : isPlain o = true)
    (hf : ∀ ans, Follows (f ans) next (noted n handle confirmed untouched)) :
    Follows (service installed fuel o >>= f) next (noted n handle confirmed untouched) := by
  have hneither : changesDisk o = false ∧ mounts o = false := by
    cases o with
    | reporter op => exact ⟨rfl, rfl⟩
    | _ => first | exact ⟨rfl, rfl⟩ | cases h
  refine Surely.watch fun ans => ?_
  have hunnoted := unnoted_of_plain (e := ⟨o, ans⟩) h
  refine ⟨allowed_of_unnoted hunnoted ?_ ?_, ?_⟩
  · intro hchanges
    rw [hneither.1] at hchanges
    cases hchanges
  · intro hneeds
    rcases needsIdentity_changes hneeds with hchanges | hmounts
    · rw [hneither.1] at hchanges
      cases hchanges
    · rw [hneither.2] at hmounts
      cases hmounts
  · rw [after_of_unnoted hunnoted, hneither.1, hneither.2]
    simpa using hf ans

/-- A change of the disk. -/
theorem follows_change {o : ServiceOp} {f : o.Ans installed fuel → Prog _ RestoreMessage α}
    (h : changesDisk o = true) (hn : 5 ≤ n ∧ n ≤ 14)
    (hconfirmed : needsIdentity o = true → confirmed = true)
    (hf : ∀ ans, Follows (f ans) next (noted n handle false false)) :
    Follows (service installed fuel o >>= f) next (noted n handle confirmed untouched) := by
  refine Surely.watch fun ans => ?_
  have hunnoted := unnoted_of_changes (e := ⟨o, ans⟩) (.inl h)
  refine ⟨allowed_of_unnoted hunnoted (fun _ => hn) hconfirmed, ?_⟩
  rw [after_of_unnoted hunnoted, h]
  simpa using hf ans

/-- A volume is mounted after a check of the identity, which it uses up. -/
theorem follows_mount {volumeName : QString}
    {f : Reply QString → Prog (ServiceI installed fuel) RestoreMessage α}
    (hf : ∀ ans, Follows (f ans) next (noted n handle false untouched)) :
    Follows (service installed fuel (.mountVolume volumeName) >>= f) next
      (noted n handle true untouched) := by
  refine Surely.watch fun ans => ?_
  have hunnoted := unnoted_of_changes (e := ⟨.mountVolume volumeName, ans⟩) (.inr rfl)
  refine ⟨allowed_of_unnoted hunnoted nofun fun _ => rfl, ?_⟩
  rw [after_of_unnoted hunnoted]
  simpa [changesDisk, mounts] using hf ans

omit [Host] [SerialCharacters] in
theorem explained_method {p : Prog DeviceI RestoreMessage β} (h : Explains p) (r : p.Outcome) :
    Explained (method r) :=
  Outcome.satisfies h r

/-- What is left of the notes after the handle was asked who it is. -/
theorem after_verifyIdentity {rawDisk : RawDisk} {disk : DiskInfo}
    (verified : (rawDisk.verifyIdentity installed disk).Outcome) :
    (noted n (some rawDisk.handle) confirmed untouched).after
        (⟨ServiceOp.verifyIdentity rawDisk disk, verified⟩ : Event (ServiceI installed fuel)) =
      noted n (some rawDisk.handle) (confirmed || (method verified).toOption.isSome) untouched := by
  have hverified : verifiedHandle (⟨ServiceOp.verifyIdentity rawDisk disk, verified⟩ :
      Event (ServiceI installed fuel)) =
        (method verified).toOption.map fun _ => rawDisk.handle := rfl
  rw [after_of_silent ⟨rfl, rfl, rfl, rfl⟩, hverified]
  cases (method verified).toOption with
  | some _ => simp [changesDisk]
  | none => simp [changesDisk, mounts]

/-- The handle is asked who it is. -/
theorem follows_identity {rawDisk : RawDisk} {disk : DiskInfo}
    {f : (rawDisk.verifyIdentity installed disk).Outcome →
      Prog (ServiceI installed fuel) RestoreMessage α}
    (hok : ∀ verified, method verified = .ok () →
      Follows (f verified) next (noted n (some rawDisk.handle) true untouched))
    (herror : ∀ verified message, method verified = .error message → message.english ≠ [] →
      Follows (f verified) next (noted n (some rawDisk.handle) confirmed untouched)) :
    Follows (service installed fuel (.verifyIdentity rawDisk disk) >>= f) next
      (noted n (some rawDisk.handle) confirmed untouched) := by
  refine Surely.watch fun (verified : (rawDisk.verifyIdentity installed disk).Outcome) =>
    ⟨⟨nofun, nofun, nofun, nofun, rfl⟩, ?_⟩
  have hexplained := explained_method (verifyIdentity_explains rawDisk disk) verified
  rw [after_verifyIdentity]
  cases hverified : method verified with
  | ok _ =>
    rw [Except.toOption, Option.isSome_some, Bool.or_true]
    exact hok verified hverified
  | error message =>
    rw [hverified] at hexplained
    rw [Except.toOption, Option.isSome_none, Bool.or_false]
    exact herror verified message hverified hexplained

theorem follows_detail {message : QString} {f : Unit → Prog (ServiceI installed fuel) RestoreMessage α}
    (hf : Follows (f ()) next (noted n handle confirmed untouched)) :
    Follows (detail message >>= f) next (noted n handle confirmed untouched) :=
  follows_plain (o := .reporter (.detail message)) rfl fun _ => hf

/-- The step that is next in the plan. -/
theorem follows_beginStep {step : RestoreStep} {request : RestoreRequest}
    {f : RestoreStepCounter → Prog (ServiceI installed fuel) RestoreMessage α}
    (hplan : windowsRestorePlan[n]? = some step)
    (hf : Follows (f ⟨windowsRestorePlan, n + 1⟩) next (noted (n + 1) handle confirmed untouched)) :
    Follows (beginStep ⟨windowsRestorePlan, n⟩ step request >>= f) next
      (noted n handle confirmed untouched) := by
  have htake : windowsRestorePlan.take (n + 1) = windowsRestorePlan.take n ++ [step] := by
    rw [List.take_add_one, hplan]
    rfl
  have hadvance : RestoreStepCounter.advance ⟨windowsRestorePlan, n⟩ step =
      (n + 1, ⟨windowsRestorePlan, n + 1⟩) := RestoreStepCounter.advance_next hplan
  unfold beginStep
  simp only [hadvance, Nat.add_eq_zero_iff, one_ne_zero, and_false, if_false]
  refine Surely.watch fun answer => ⟨⟨fun reported hreported => ?_, nofun, nofun, nofun, rfl⟩, ?_⟩
  · cases hreported
    change windowsRestorePlan.take n ++ [step] <+: _
    rw [← htake]
    exact List.take_prefix _ _
  · rw [after_reporter rfl rfl ⟨rfl, rfl⟩ rfl]
    change Follows _ next { noted n handle confirmed untouched with
      steps := windowsRestorePlan.take n ++ [step] }
    rw [← htake]
    exact hf

/-- A checkpoint goes on, or stops with the disk untouched. -/
theorem follows_cancelCheckpoint {f : Unit → Prog (ServiceI installed fuel) RestoreMessage α}
    (hn : n < 14) (hf : Follows (f ()) next (noted n handle confirmed true)) :
    Follows (cancelCheckpoint >>= f) next (noted n handle confirmed true) := by
  refine Surely.watch fun (cancelled : Bool) => ⟨⟨nofun, nofun, nofun, nofun, rfl⟩, ?_⟩
  rw [after_reporter rfl rfl ⟨rfl, rfl⟩ rfl]
  change Follows _ next { noted n handle confirmed true with
    steps := windowsRestorePlan.take n ++ []
    stopped := cancelled }
  rw [List.append_nil]
  cases cancelled with
  | true => exact ⟨length_take_windowsRestorePlan hn, fun _ => ⟨rfl, rfl⟩, rfl⟩
  | false => exact hf

/-- A failure that says why. -/
theorem follows_fail {message : RestoreMessage} (hn : n < 14) (h : message.english ≠ []) :
    Follows (.fail message : Prog (ServiceI installed fuel) RestoreMessage α) next
      (noted n handle confirmed untouched) :=
  stopped_of_explained hn h

theorem follows_failOperation {disk : DiskInfo} {operation advice : RestoreMessage}
    {failure : Option RestoreMessage} (hn : n < 14) :
    Follows (failOperation disk operation failure advice :
      Prog (ServiceI installed fuel) RestoreMessage α) next
      (noted n handle confirmed untouched) :=
  stopped_of_explained hn (windowsRestoreErrorMessage_ne_nil installed _ _ _)

/-- A verdict that says why it is a failure. -/
theorem follows_ofExcept {verdict : Except RestoreMessage β}
    {f : β → Prog (ServiceI installed fuel) RestoreMessage α} (hn : n < 14)
    (hverdict : Explained verdict)
    (hf : ∀ b, verdict = .ok b → Follows (f b) next (noted n handle confirmed untouched)) :
    Follows (Prog.ofExcept verdict >>= f) next (noted n handle confirmed untouched) := by
  cases verdict with
  | ok b => exact hf b rfl
  | error message => exact stopped_of_explained hn hverdict

theorem follows_require {check : TextMode → Except QString Unit}
    {f : Unit → Prog (ServiceI installed fuel) RestoreMessage α} (hn : n < 14)
    (hreason : HasReason (check .english))
    (hf : Follows (f ()) next (noted n handle confirmed untouched)) :
    Follows (require check >>= f) next (noted n handle confirmed untouched) := by
  unfold require
  cases hcheck : checkRestoreError installed check with
  | ok _ => exact hf
  | error failure =>
    refine stopped_of_explained hn ?_
    rw [english_stepFailure]
    exact hreason _ (checkRestoreError_error hcheck)

end

end

end WindowsDiskService

end UsbRestore
