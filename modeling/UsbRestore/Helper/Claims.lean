-- SUMMARY: The claims in a helper's arguments can refuse a restore, and do nothing else.
import UsbRestore.Core.ArgumentGrammar
import UsbRestore.Helper.Untranslated

/-!
# Claims

The helper compares what its caller claims of the disk with what it finds, once, before anything is
changed. Two helpers that differ in their claims and their language alone make the same calls until
that comparison, and from there on unless one of them refuses.
-/

namespace UsbRestore

open Prog

/-! ## Harmless parts -/

/-- A call that changes no disk. -/
def HelperOp.Harmless : HelperOp → Prop
  | .sys o => o.isDestructive = false
  | _ => True

section

variable {ε α β : Type}

def IsHarmless (p : Prog HelperI ε α) : Prop := p.Satisfies HelperOp.Harmless fun _ => True

theorem IsHarmless.bind {p : Prog HelperI ε α} {f : α → Prog HelperI ε β} (hp : IsHarmless p)
    (hf : ∀ a, IsHarmless (f a)) : IsHarmless (p >>= f) :=
  Satisfies.bind hp (fun a _ => hf a) fun _ _ => trivial

theorem IsHarmless.aside {Q : Except ε α → Prop} {p : Prog HelperI ε α}
    (h : p.Satisfies HelperOp.Aside Q) : IsHarmless p := by
  refine h.mono (fun o ho => ?_) fun _ _ => trivial
  cases o with
  | sys o => cases ho
  | _ => trivial

theorem writeLine_isHarmless (line : QString) :
    IsHarmless (writeLine line : Prog HelperI ε Unit) :=
  ⟨trivial, fun _ => trivial⟩

theorem writeError_isHarmless (message : QString) :
    IsHarmless (writeError message : Prog HelperI ε Unit) :=
  ⟨trivial, fun _ => trivial⟩

theorem geteuid_isHarmless : IsHarmless (geteuid : Prog HelperI ε UInt32) :=
  ⟨trivial, fun _ => trivial⟩

theorem writeFailure_isHarmless (english display : QString) :
    IsHarmless (writeFailure english display : Prog HelperI ε Unit) := by
  unfold writeFailure
  refine IsHarmless.bind (writeError_isHarmless english) fun _ => ?_
  split_ifs
  · exact writeLine_isHarmless _
  · trivial

theorem runInHelper_isHarmless {Q : Except RestoreMessage α → Prop}
    {p : Prog LinuxI RestoreMessage α} (h : p.Satisfies LinuxOp.Lookup Q)
    (reporter : HelperReporter) : IsHarmless (runInHelper p reporter : Prog HelperI ε _) := by
  refine (Satisfies.handle (fun o reporter ho => ?_) h).mono (fun _ ho => ho) fun _ _ => trivial
  cases o with
  | sys o => exact ⟨ho.query.quiet.silent, fun ans => ⟨_, rfl⟩⟩
  | reporter o => cases ho

end

/-! ## Claims about a disk -/

/-- Claims that are among those of another list of arguments. -/
structure FewerClaims (fewer claims : DiskInfo) : Prop where
  size : fewer.size = claims.size
  sectorSize : fewer.sectorSize = claims.sectorSize
  sequence : fewer.deviceSequence = none ∨ fewer.deviceSequence = claims.deviceSequence
  serialNumber : fewer.serialNumber = [] ∨ fewer.serialNumber = claims.serialNumber
  uniqueId : fewer.uniqueId = [] ∨ fewer.uniqueId = claims.uniqueId
  path : fewer.path = [] ∨ fewer.path = claims.path
  name : fewer.name = [] ∨ fewer.name = claims.name

section

variable [Host] {fewer claims disk : DiskInfo}

/-- A claim that is left out differs from nothing, and one that is kept from nothing more than
before. -/
theorem bothKnownAndDifferent_fewer {claim other found : QString} (h : claim = [] ∨ claim = other)
    (hother : bothKnownAndDifferent other found = false) :
    bothKnownAndDifferent claim found = false := by
  rcases h with rfl | rfl
  · have hnone : normalizedIdentity [] = [] := Host.toCaseFolded_eq_nil.mpr rfl
    unfold bothKnownAndDifferent
    rw [hnone]
    rfl
  · exact hother

/-- Fewer claims are met by every disk that meets them all. -/
theorem SameTarget.of_fewer (h : SameTarget claims disk) (hdevice : claims.deviceId = fewer.deviceId)
    (hfewer : FewerClaims fewer claims) : SameTarget fewer disk where
  deviceId := hdevice ▸ h.deviceId
  size := hfewer.size.trans h.size
  sequence := by
    intro sequence hsequence
    rcases hfewer.sequence with hnone | hsame
    · cases hnone.symm.trans hsequence
    · exact h.sequence sequence (hsame.symm.trans hsequence)
  sectorSize := by
    rw [hfewer.sectorSize]
    exact h.sectorSize
  serialNumber := bothKnownAndDifferent_fewer hfewer.serialNumber h.serialNumber
  uniqueId := bothKnownAndDifferent_fewer hfewer.uniqueId h.uniqueId
  path := bothKnownAndDifferent_fewer hfewer.path h.path
  name := bothKnownAndDifferent_fewer hfewer.name h.name

end

/-! ## The comparison -/

/-- Both searches found the same, or the first one refused, or either of them did if `either`. -/
inductive FoundUnless {γ : Type} (either : Prop) :
    Except RestoreMessage γ → Except RestoreMessage γ → Prop where
  | same (found : γ) : FoundUnless either (.ok found) (.ok found)
  | left (message : RestoreMessage) (y : Except RestoreMessage γ) :
    FoundUnless either (.error message) y
  | right (h : either) (x : Except RestoreMessage γ) (message : RestoreMessage) :
    FoundUnless either x (.error message)

/-- Searches for a target under two catalogs. -/
abbrev SearchUnless {γ : Type} (either : Prop) (p q : Prog LinuxI RestoreMessage γ) : Prop :=
  Alike (I := LinuxI) (fun _ => true) SameInEnglish (FoundUnless either) p q

section

variable {α γ : Type} {either : Prop}

theorem SearchUnless.andThen {p q : Prog LinuxI RestoreMessage α}
    {f g : α → Prog LinuxI RestoreMessage γ} (hp : InEnglish (· = ·) p q)
    (h : ∀ a, SearchUnless either (f a) (g a)) : SearchUnless either (p >>= f) (q >>= g) := by
  refine Alike.bindWith hp ?_
  rintro x y (hvalue | _)
  · obtain rfl := hvalue
    exact h _
  · exact .done (.error _) (.error _) (.left _ _)

variable [Host]

/-- Searches for the same device find the same target unless it is refused: to the first claims, or
to either where that is allowed. -/
theorem findTarget_searchUnless {c d : Catalog} {expected expected' : DiskInfo}
    (hdevice : expected.deviceId = expected'.deviceId)
    (hmono : ¬either → ∀ disk, SameTarget expected disk → SameTarget expected' disk) :
    SearchUnless either (findTarget c expected) (findTarget d expected') := by
  unfold findTarget
  rw [hdevice]
  refine SearchUnless.andThen (InEnglish.same _) fun guard => ?_
  refine SearchUnless.andThen (refreshUsbDisk_inEnglish _) fun disk => ?_
  refine SearchUnless.andThen (check_inEnglish _) fun _ => ?_
  cases hleft : checkRestoreError c (isSameRestoreTarget expected disk) with
  | error message =>
    cases checkRestoreError d (isSameRestoreTarget expected' disk) with
    | error message' => exact .done (.error _) (.error _) (.left _ _)
    | ok _ => exact .done (.error _) (.ok _) (.left _ _)
  | ok _ =>
    cases hright : checkRestoreError d (isSameRestoreTarget expected' disk) with
    | ok _ => exact .done (.ok _) (.ok _) (.same _)
    | error message =>
      refine .done (.ok _) (.error _) (.right (not_not.mp fun hnot => ?_) _ _)
      have hsame := isSameRestoreTarget_ok_iff.mp (checkRestoreError_ok_iff.mp hleft)
      have haccepted : checkRestoreError d (isSameRestoreTarget expected' disk) = .ok () :=
        checkRestoreError_ok_iff.mpr (isSameRestoreTarget_ok_iff.mpr (hmono hnot disk hsame))
      cases haccepted.symm.trans hright

end

/-! ## The helper -/

section

variable [Host] {ε : Type} {either : Prop}

/-- Helpers that do the same unless the first one gives up, or either of them if `either`. -/
abbrev InUnisonUnless (either : Prop) (p q : Prog HelperI ε Int) : Prop :=
  AlikeUnless (I := HelperI) (fun p q => IsHarmless p ∨ either ∧ IsHarmless q) HelperOp.Harmless
    HelperOp.audible SameAudible (Outcomes (· = ·) (· = ·)) p q

omit [Host] in
/-- What both do in unison, and harmlessly, before they part. -/
theorem InUnisonUnless.bind {α β : Type} {V : α → β → Prop} {p : Prog HelperI ε α}
    {q : Prog HelperI ε β} {f : α → Prog HelperI ε Int} {g : β → Prog HelperI ε Int}
    (h : InUnison V p q) (hp : IsHarmless p) (hq : IsHarmless q)
    (hf : ∀ a b, V a b → InUnisonUnless either (f a) (g b)) :
    InUnisonUnless either (p >>= f) (q >>= g) := by
  refine AlikeUnless.bindWith h hp hq ?_
  rintro x y (hvalue | hcause)
  · exact hf _ _ hvalue
  · exact .alike (Alike.fail hcause)

omit [Host] in
theorem InUnisonUnless.after {α : Type} {p : Prog HelperI ε α} {f g : α → Prog HelperI ε Int}
    (haudible : IsAudible p) (hharmless : IsHarmless p)
    (h : ∀ a, InUnisonUnless either (f a) (g a)) :
    InUnisonUnless either (p >>= f) (p >>= g) := by
  refine InUnisonUnless.bind (InUnison.self haudible) hharmless hharmless ?_
  rintro a _ rfl
  exact h a

/-- From the accepted arguments on the same is done, unless the target is refused to one of the
claims. -/
theorem restoreInHelper_unless {c d : Catalog} {parsed parsed' : RestoreArguments}
    (fuel : LoopFuel) (hdevice : parsed.expected.deviceId = parsed'.expected.deviceId)
    (hmono : ¬either → ∀ disk,
      SameTarget parsed.expected disk → SameTarget parsed'.expected disk)
    (hrequest : ∀ guard disk, helperRequest parsed guard disk = helperRequest parsed' guard disk) :
    InUnisonUnless either (restoreInHelper fuel c parsed : Prog HelperI ε Int)
      (restoreInHelper fuel d parsed') := by
  have hrefused : ∀ message : RestoreMessage,
      IsHarmless (writeFailure message.english message.display >>=
        fun _ => pure RestoreExitFailed : Prog HelperI ε Int) :=
    fun message => IsHarmless.bind (writeFailure_isHarmless _ _) fun _ => trivial
  unfold restoreInHelper
  refine InUnisonUnless.bind
    (runInHelper_inUnison (findTarget_searchUnless hdevice hmono) {})
    (runInHelper_isHarmless (findTarget_lookup _ _) {})
    (runInHelper_isHarmless (findTarget_lookup _ _) {}) ?_
  rintro ⟨target, reporter⟩ ⟨target', reporter'⟩ ⟨htarget, _⟩
  cases htarget with
  | same found => exact .alike (restoreTarget_inUnison fuel _ _ (hrequest _ _))
  | left message => exact .apart (.inl (hrefused message))
  | right heither x message => exact .apart (.inr ⟨heither, hrefused message⟩)

omit [Host] in
/-- Arguments of a restore are neither of the helper's other two uses. -/
theorem restoreArguments_head {arguments : List QString} {parsed : RestoreArguments}
    (h : parseRestoreArguments arguments = .ok parsed) :
    arguments ≠ [ProtocolVersionFlag] ∧ arguments.head? ≠ some ShowTranslationFlag := by
  have hformed := (parseRestoreArguments_eq_ok.mp h).1
  refine ⟨?_, ?_⟩
  · rintro rfl
    exact absurd hformed.even (by decide)
  · intro hhead
    have hflag : ShowTranslationFlag ∈ argumentFlags arguments := by
      obtain ⟨rest, rfl⟩ := List.head?_eq_some_iff.mp hhead
      cases rest with
      | nil => exact List.mem_singleton_self _
      | cons value rest => exact List.mem_cons_self
    exact absurd (hformed.known _ hflag) (by decide +kernel)

theorem helperMain_restores {arguments : List QString} {parsed : RestoreArguments}
    (fuel : LoopFuel) (appVersion : QString) (h : parseRestoreArguments arguments = .ok parsed) :
    (helperMain fuel appVersion arguments : Prog HelperI ε Int) =
      announceVersion appVersion >>= fun _ => servePrivileged fuel arguments := by
  obtain ⟨hversion, hprobe⟩ := restoreArguments_head h
  unfold helperMain
  rw [if_neg hversion, catalogProbe_notRequested hprobe]
  rfl

/-- The helper as a whole does the same on two lists of arguments of which one claims less, unless
one of them refuses. -/
theorem helperMain_unless (either : Prop) {A B : List QString} {a b : RestoreArguments} (fuel : LoopFuel)
    (appVersion : QString) (hA : parseRestoreArguments A = .ok a)
    (hB : parseRestoreArguments B = .ok b) (hdevice : a.expected.deviceId = b.expected.deviceId)
    (hmono : ¬either → ∀ disk, SameTarget a.expected disk → SameTarget b.expected disk)
    (hrequest : ∀ guard disk, helperRequest a guard disk = helperRequest b guard disk) :
    InUnisonUnless either (helperMain fuel appVersion A : Prog HelperI ε Int)
      (helperMain fuel appVersion B) := by
  rw [helperMain_restores fuel appVersion hA, helperMain_restores fuel appVersion hB]
  refine InUnisonUnless.after (announceVersion_isAudible appVersion) (writeLine_isHarmless _)
    fun _ => ?_
  unfold servePrivileged
  refine InUnisonUnless.after geteuid_isAudible geteuid_isHarmless fun uid => ?_
  by_cases hroot : uid ≠ 0
  · rw [if_pos hroot, if_pos hroot]
    exact .alike (InUnison.after (writeError_isAudible _) fun _ => Alike.ret rfl)
  rw [if_neg hroot, if_neg hroot, hA, hB]
  refine InUnisonUnless.bind (activateInterfaceLanguage_inUnison _ _)
    (.aside (activateInterfaceLanguage_aside _)) (.aside (activateInterfaceLanguage_aside _)) ?_
  intro _ _ _
  exact restoreInHelper_unless fuel hdevice hmono hrequest

/-! ## Runs -/

/-- The run has a call that changes the disk. -/
def ReachesChange (t : List (Event HelperI)) : Prop := ∃ e ∈ t, helperChangesDisk e = true

omit [Host] in
theorem helperSysCalls_audible (t : List (Event HelperI)) :
    helperSysCalls (Alike.audibleEvents (I := HelperI) HelperOp.audible t) = helperSysCalls t := by
  unfold helperSysCalls Alike.audibleEvents
  rw [List.filterMap_filter]
  refine List.filterMap_congr fun e _ => ?_
  obtain ⟨o, ans⟩ := e
  cases o with
  | sys o => rfl
  | _ => exact ite_self _

omit [Host] in
theorem ReachesChange.of_sysCalls {t u : List (Event HelperI)} (h : ReachesChange t)
    (hcalls : helperSysCalls t = helperSysCalls u) : ReachesChange u := by
  obtain ⟨e, he, hchanges⟩ := h
  by_contra hnone
  have hquiet : Untouched (helperSysCalls t) := by
    rw [hcalls]
    intro call hcall
    obtain ⟨e, he, hasked⟩ := List.mem_filterMap.mp hcall
    by_contra hdestructive
    refine hnone ⟨e, he, ?_⟩
    unfold helperChangesDisk
    rw [hasked]
    exact Bool.eq_true_of_not_eq_false hdestructive
  exact absurd hchanges (by rw [helperChangesDisk_of_untouched hquiet e he]; exact Bool.false_ne_true)

omit [Host] in
theorem helperChangesDisk_of_harmless {e : Event HelperI} (h : HelperOp.Harmless e.op) :
    helperChangesDisk e = false := by
  obtain ⟨o, ans⟩ := e
  cases o with
  | sys o => exact h
  | _ => rfl

omit [Host] in
/-- A helper that came harmlessly to where it gives up has changed nothing. -/
theorem not_reachesChange_of_leadsTo {p p' : Prog HelperI ε Int} {env : HelperEnvironment}
    (hleads : AlikeUnless.LeadsTo (I := HelperI) HelperOp.Harmless env p [] p')
    (h : IsHarmless p') : ¬ReachesChange (p.against env []).1 := by
  obtain ⟨first, hfirst, hrun⟩ := hleads
  rintro ⟨e, he, hchanges⟩
  have hharmless : HelperOp.Harmless e.op := by
    rw [hrun] at he
    rcases List.mem_append.mp he with he | he
    · exact hfirst e he
    · exact (h.runs (against_runs env p' _)).1 e he
  exact Bool.false_ne_true ((helperChangesDisk_of_harmless hharmless).symm.trans hchanges)

omit [Host] in
/-- Against the same answers: the same system calls, or one of them has changed nothing. -/
theorem InUnisonUnless.against {p q : Prog HelperI ε Int} (h : InUnisonUnless either p q)
    {env env' : HelperEnvironment}
    (henv : Alike.SameAnswers (I := HelperI) HelperOp.audible SameAudible env env') :
    helperSysCalls (p.against env []).1 = helperSysCalls (q.against env' []).1 ∨
      ¬ReachesChange (p.against env []).1 ∨ either ∧ ¬ReachesChange (q.against env' []).1 := by
  have hnothing : List.Forall₂ (Alike.LikeEvents SameAudible)
      (Alike.audibleEvents (I := HelperI) HelperOp.audible [])
      (Alike.audibleEvents HelperOp.audible []) := .nil
  rcases AlikeUnless.against_from audible_both henv h hnothing with
    hevents | ⟨p', q', hover, hp, hq⟩
  · have hsame := List.forall₂_eq_eq_eq ▸ List.Forall₂.imp (fun _ _ => eq_of_likeEvents) hevents
    refine .inl ?_
    rw [← helperSysCalls_audible, hsame, helperSysCalls_audible]
  · rcases hover with hharmless | ⟨heither, hharmless⟩
    · exact .inr (.inl (not_reachesChange_of_leadsTo hp hharmless))
    · exact .inr (.inr ⟨heither, not_reachesChange_of_leadsTo hq hharmless⟩)

/-- Claims can only refuse. Two helpers that are asked for the same restore of the same device and
are given the same answers make the same system calls if both of them change the disk; and if the
claims of the second are among those of the first, it changes the disk where the first does. -/
theorem helperMain_claims_only_refuse {A B : List QString} {a b : RestoreArguments}
    (fuel : LoopFuel) (appVersion : QString) (hA : parseRestoreArguments A = .ok a)
    (hB : parseRestoreArguments B = .ok b) (hdevice : a.expected.deviceId = b.expected.deviceId)
    (hstyle : a.style = b.style) (hfileSystem : a.fileSystem = b.fileSystem)
    (hlabel : a.volumeLabel = b.volumeLabel) {env env' : HelperEnvironment}
    (henv : Alike.SameAnswers (I := HelperI) HelperOp.audible SameAudible env env') :
    let run := fun arguments env =>
      ((helperMain fuel appVersion arguments : Prog HelperI Empty Int).against env []).1
    (ReachesChange (run A env) → ReachesChange (run B env') →
        helperSysCalls (run A env) = helperSysCalls (run B env')) ∧
      (FewerClaims b.expected a.expected → ReachesChange (run A env) →
        ReachesChange (run B env')) := by
  intro run
  have hrequest : ∀ guard disk, helperRequest a guard disk = helperRequest b guard disk := by
    intro guard disk
    unfold helperRequest
    rw [hstyle, hfileSystem, hlabel]
  refine ⟨fun hreachesA hreachesB => ?_, fun hfewer hreaches => ?_⟩
  · have h := helperMain_unless True (ε := Empty) fuel appVersion hA hB hdevice
      (fun hnot => absurd trivial hnot) hrequest
    rcases h.against henv with hsame | hquiet | ⟨-, hquiet⟩
    · exact hsame
    · exact absurd hreachesA hquiet
    · exact absurd hreachesB hquiet
  · have h := helperMain_unless False (ε := Empty) fuel appVersion hA hB hdevice
      (fun _ disk hsame => hsame.of_fewer hdevice hfewer) hrequest
    rcases h.against henv with hsame | hquiet | ⟨hnever, -⟩
    · exact hreaches.of_sysCalls hsame
    · exact absurd hreaches hquiet
    · exact hnever.elim

end

/-! ### On the small stick -/

namespace SmallStick

/-- What is asked of a helper by a caller that claims no identity of the stick. -/
def anonymousArguments : List QString :=
  buildRestoreArguments
    { disk with deviceSequence := none, serialNumber := [], uniqueId := [], path := [], name := [] }
    .gpt .exFat (QStringLiteral "USB") .german []

theorem arguments_accepted (arguments : List QString)
    (h : (parseRestoreArguments arguments).isOk = true) :
    parseRestoreArguments arguments =
      .ok (argumentsMeant (claimOf (argumentPairs arguments))) := by
  cases hparsed : parseRestoreArguments arguments with
  | ok parsed => exact congrArg Except.ok (parseRestoreArguments_eq_ok.mp hparsed).2
  | error message =>
    rw [hparsed] at h
    cases h

def callsOf (arguments : List QString) (german : Option Catalog) : List (Event HelperI) :=
  ((helperMain 9 (QStringLiteral "1.0") arguments : Prog HelperI Empty Int).against
    (environment german) []).1

end SmallStick

open SmallStick in
/-- Without its identity claims, and in another language, the same restore. -/
theorem helperMain_claims_only_refuse_small :
    ReachesChange (callsOf anonymousArguments (some emptyCatalog)) ∧
      helperSysCalls (callsOf SmallStick.arguments none) =
        helperSysCalls (callsOf anonymousArguments (some emptyCatalog)) := by
  have hclaims : ReachesChange (callsOf SmallStick.arguments none) := by
    have hany : (callsOf SmallStick.arguments none).any helperChangesDisk = true := by
      decide +kernel
    exact List.any_eq_true.mp hany
  have h := helperMain_claims_only_refuse 9 (QStringLiteral "1.0")
    (arguments_accepted SmallStick.arguments (by decide +kernel))
    (arguments_accepted anonymousArguments (by decide +kernel))
    (by decide +kernel) (by decide +kernel) (by decide +kernel) (by decide +kernel)
    (environment_sameAnswers none (some emptyCatalog))
  dsimp only at h
  have hreaches : ReachesChange (callsOf anonymousArguments (some emptyCatalog)) :=
    h.2 ⟨by decide +kernel, by decide +kernel, by decide +kernel, by decide +kernel,
      by decide +kernel, by decide +kernel, by decide +kernel⟩ hclaims
  exact ⟨hreaches, h.1 hclaims hreaches⟩

end UsbRestore
