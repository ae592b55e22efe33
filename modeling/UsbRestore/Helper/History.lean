-- SUMMARY: What a history of the helper says, and how the backend's histories carry over to it.
import UsbRestore.Core.ProtocolRoundTrip
import UsbRestore.Helper.Main
import UsbRestore.Linux.RestoreTrace

/-!
# Histories of the helper

The helper answers the backend's system calls with its own and its reporter calls by writing and
polling. What was proved of every run of the backend is carried over along that relation.
-/

namespace UsbRestore

open Prog

def helperSysCall : Event HelperI → Option (Event SysI)
  | ⟨HelperOp.sys o, ans⟩ => some ⟨o, ans⟩
  | _ => none

def helperSysCalls (t : List (Event HelperI)) : List (Event SysI) := t.filterMap helperSysCall

def writtenBytes : Event HelperI → Option (List UInt8)
  | ⟨HelperOp.writeStdout bytes, _⟩ => some bytes
  | _ => none

/-- The writes to stdout. -/
def writesOf (t : List (Event HelperI)) : List (List UInt8) := t.filterMap writtenBytes

@[simp] theorem helperSysCalls_append (s t : List (Event HelperI)) :
    helperSysCalls (s ++ t) = helperSysCalls s ++ helperSysCalls t :=
  List.filterMap_append

@[simp] theorem writesOf_append (s t : List (Event HelperI)) :
    writesOf (s ++ t) = writesOf s ++ writesOf t :=
  List.filterMap_append

/-! ## What the helper has said -/

/-- A message that leaves the outcome open. -/
def HelperMessage.IsReport : HelperMessage → Prop
  | .step done total _ => QString.FitsInt done ∧ QString.FitsInt total
  | .detail _ | .failure _ => True
  | .version _ _ _ | .result _ => False

/-- The first line of every restore. -/
def versionMessage (appVersion : QString) : HelperMessage :=
  .version RestoreProtocolVersion appVersion linuxRestorePlan

/-- The helper has announced its version and has since said nothing but reports. -/
def Announced (appVersion : QString) (t : List (Event HelperI)) : Prop :=
  ∃ reports : List HelperMessage, (∀ message ∈ reports, message.IsReport) ∧
    writesOf t = (versionMessage appVersion :: reports).map fun message => lineBytes message.encode

/-- The result was the last thing it said. -/
def AnnouncedResult (appVersion : QString) (location : QString) (t : List (Event HelperI)) : Prop :=
  ∃ before event after, t = before ++ event :: after ∧ Announced appVersion before ∧
    writtenBytes event = some (lineBytes (HelperMessage.result location).encode) ∧
    writesOf after = []

theorem Announced.quiet {appVersion : QString} {t more : List (Event HelperI)}
    (h : Announced appVersion t) (hmore : writesOf more = []) : Announced appVersion (t ++ more) := by
  obtain ⟨reports, hreports, hwrites⟩ := h
  exact ⟨reports, hreports, by rw [writesOf_append, hmore, List.append_nil, hwrites]⟩

theorem Announced.report {appVersion : QString} {t : List (Event HelperI)}
    (h : Announced appVersion t) {message : HelperMessage} (hmessage : message.IsReport) {ans : Unit} :
    Announced appVersion
      (t ++ [(⟨HelperOp.writeStdout (lineBytes message.encode), ans⟩ : Event HelperI)]) := by
  obtain ⟨reports, hreports, hwrites⟩ := h
  refine ⟨reports ++ [message], fun other hother => ?_, ?_⟩
  · rcases List.mem_append.mp hother with hother | hother
    · exact hreports other hother
    · rw [List.mem_singleton.mp hother]
      exact hmessage
  · rw [writesOf_append, hwrites]
    simp [writesOf, writtenBytes]

/-! ## Obligations -/

section

variable [Host]

/-- What must have happened in the helper before a call that changes the disk: the arguments were
parsed, the helper has determined its guard, and the restore it was permitted to was asked for a
disk that it had found itself, safe under the guard and the same as the one claimed. -/
def HelperPermitted (arguments : List QString) (calls : List (Event SysI)) (o : SysOp) : Prop :=
  ∃ parsed installed guard disk, parseRestoreArguments arguments = .ok parsed ∧
    Performed (linuxRestoreGuard : Prog LinuxI RestoreMessage RestoreGuard) guard calls ∧
    Performed (refreshUsbDisk installed parsed.expected.deviceId) disk calls ∧
    isSafeRestoreTarget disk guard .english = .ok () ∧
    isSameRestoreTarget parsed.expected disk .english = .ok () ∧
    Permitted installed (helperRequest parsed guard disk) calls o

/-- The arguments ask for a restore, not for a version or a catalog line. -/
def RequestsRestore (arguments : List QString) : Prop :=
  arguments ≠ [ProtocolVersionFlag] ∧ arguments.head? ≠ some ShowTranslationFlag

/-- The obligation on a call of the helper: a system call comes after the announcement, a change
to the disk was permitted, and a write is the announcement, a report or the result. -/
def HelperObligation (appVersion : QString) (arguments : List QString)
    (past : List (Event HelperI)) (e : Event HelperI) : Prop :=
  (∀ call, helperSysCall e = some call → Announced appVersion past) ∧
  (∀ call, helperSysCall e = some call → SysOp.isDestructive call.op = true →
    HelperPermitted arguments (helperSysCalls past) call.op) ∧
  ∀ bytes, writtenBytes e = some bytes → RequestsRestore arguments →
    (writesOf past = [] ∧ bytes = lineBytes (versionMessage appVersion).encode) ∨
    (Announced appVersion past ∧ ∃ message : HelperMessage,
      (message.IsReport ∨ ∃ location, message = .result location) ∧
      bytes = lineBytes message.encode)

variable {appVersion : QString} {arguments : List QString} {past : List (Event HelperI)}

/-- A call to anything but the system and stdout. -/
theorem helperObligation_of_silent {e : Event HelperI} (hsys : helperSysCall e = none)
    (hwrite : writtenBytes e = none) : HelperObligation appVersion arguments past e := by
  refine ⟨fun call hcall => ?_, fun call hcall => ?_, fun bytes hbytes => ?_⟩
  · rw [hsys] at hcall
    cases hcall
  · rw [hsys] at hcall
    cases hcall
  · rw [hwrite] at hbytes
    cases hbytes

theorem helperObligation_of_write {message : HelperMessage} {ans : Unit}
    (h : Announced appVersion past)
    (hmessage : message.IsReport ∨ ∃ location, message = .result location) :
    HelperObligation appVersion arguments past
      ⟨HelperOp.writeStdout (lineBytes message.encode), ans⟩ := by
  refine ⟨fun call hcall => ?_, fun call hcall => ?_, fun bytes hbytes _ => ?_⟩
  · cases hcall
  · cases hcall
  · cases hbytes
    exact .inr ⟨h, message, hmessage, rfl⟩

/-! ## Rules -/

/-- A call to anything but the system and stdout. -/
def HelperOp.Aside : HelperOp → Prop
  | .sys _ | .writeStdout _ => False
  | _ => True

omit [Host] in
theorem not_heard_of_aside {e : Event HelperI} (h : HelperOp.Aside e.op) :
    helperSysCall e = none ∧ writtenBytes e = none := by
  obtain ⟨o, ans⟩ := e
  cases o <;> first | exact ⟨rfl, rfl⟩ | exact h.elim

omit [Host] in
theorem asides_not_heard {t : List (Event HelperI)} (h : ∀ e ∈ t, HelperOp.Aside e.op) :
    helperSysCalls t = [] ∧ writesOf t = [] :=
  ⟨List.filterMap_eq_nil_iff.mpr fun e he => (not_heard_of_aside (h e he)).1,
    List.filterMap_eq_nil_iff.mpr fun e he => (not_heard_of_aside (h e he)).2⟩

variable {ε α : Type} {Q : Except ε α → List (Event HelperI) → Prop}

/-- A part that neither asks the system nor writes to stdout. -/
theorem wp_aside {p : Prog HelperI ε α} {R : Except ε α → Prop}
    (h : p.Satisfies HelperOp.Aside R)
    (hok : ∀ r t, R r → helperSysCalls t = [] → writesOf t = [] → Q r (past ++ t)) :
    wp (HelperObligation appVersion arguments) Q p past := by
  refine wp_of_runs h (fun t e _ he => ?_) fun t r _ ht hr => ?_
  · exact helperObligation_of_silent (not_heard_of_aside he).1 (not_heard_of_aside he).2
  · exact hok r t hr (asides_not_heard ht).1 (asides_not_heard ht).2

/-- The history after a part that the system and the client do not notice. -/
structure Unnoticed (appVersion : QString) (past past' : List (Event HelperI)) : Prop where
  announced : Announced appVersion past'
  calls : helperSysCalls past' = helperSysCalls past

omit [Host] in
theorem Unnoticed.trans {first second third : List (Event HelperI)}
    (h : Unnoticed appVersion first second) (h' : Unnoticed appVersion second third) :
    Unnoticed appVersion first third :=
  ⟨h'.announced, h'.calls.trans h.calls⟩

/-- A report goes out. -/
theorem wp_writeReport {Q : Except ε Unit → List (Event HelperI) → Prop} {line : QString}
    (message : HelperMessage) (hline : line = message.encode) (h : Announced appVersion past)
    (hmessage : message.IsReport)
    (hok : ∀ past', Unnoticed appVersion past past' → Q (.ok ()) past') :
    wp (HelperObligation appVersion arguments) Q (writeLine line) past := by
  subst hline
  intro ans
  refine ⟨helperObligation_of_write h (.inl hmessage), hok _ ⟨h.report hmessage, ?_⟩⟩
  rw [helperSysCalls_append]
  exact List.append_nil _

omit [Host] in
theorem writeError_aside (message : QString) :
    (writeError message : Prog HelperI ε Unit).Satisfies HelperOp.Aside (fun r => r = .ok ()) :=
  ⟨trivial, fun _ => rfl⟩

theorem wp_writeFailure {Q : Except ε Unit → List (Event HelperI) → Prop}
    {english display : QString} (h : Announced appVersion past)
    (hok : ∀ past', Unnoticed appVersion past past' → Q (.ok ()) past') :
    wp (HelperObligation appVersion arguments) Q (writeFailure english display) past := by
  unfold writeFailure
  rw [bind_eq, wp_bind]
  refine wp_aside (writeError_aside english) fun r t hr hcalls hwrites => ?_
  subst hr
  have hpast : Unnoticed appVersion past (past ++ t) :=
    ⟨h.quiet hwrites, by rw [helperSysCalls_append, hcalls, List.append_nil]⟩
  dsimp only
  split_ifs
  · exact wp_writeReport (.failure display) rfl hpast.announced trivial
      fun past' h' => hok _ (hpast.trans h')
  · exact hok _ hpast

/-! ## The reporter -/

omit [Host] in
theorem cancelRequested_aside (reporter : HelperReporter) :
    (reporter.cancelRequested : Prog HelperI ε (Bool × HelperReporter)).Satisfies HelperOp.Aside
      Returns := by
  unfold HelperReporter.cancelRequested
  split_ifs
  · exact .returns _
  · refine .call trivial fun terminal => ?_
    split_ifs
    · exact .returns _
    · refine .call trivial fun readable => ?_
      split_ifs
      · exact .returns _
      · refine .call trivial fun bytes => ?_
        split_ifs
        · exact .returns _
        · exact .returns _

/-- A handler's answer that is not noticed. -/
def AnswersUnnoticed {γ : Type} (appVersion : QString) (past : List (Event HelperI)) :
    Except ε (γ × HelperReporter) → List (Event HelperI) → Prop :=
  fun r past' => (∃ ans reporter, r = .ok (ans, reporter)) ∧ Unnoticed appVersion past past'

theorem cancelRequested_wp {reporter : HelperReporter} (h : Announced appVersion past) :
    wp (HelperObligation appVersion arguments) (AnswersUnnoticed appVersion past)
      (reporter.cancelRequested : Prog HelperI ε (Bool × HelperReporter)) past := by
  refine wp_aside (cancelRequested_aside reporter) fun r t hr hcalls hwrites => ?_
  obtain ⟨⟨ans, reporter'⟩, rfl⟩ := hr
  exact ⟨⟨ans, reporter', rfl⟩, h.quiet hwrites,
    by rw [helperSysCalls_append, hcalls, List.append_nil]⟩

theorem writeStep_wp {reporter : HelperReporter} {message : RestoreMessage}
    (h : Announced appVersion past) :
    wp (HelperObligation appVersion arguments) (AnswersUnnoticed appVersion past)
      (reporter.writeStep message : Prog HelperI ε (Unit × HelperReporter)) past := by
  have hfits : ∀ n : Nat, n ≤ 10 → QString.FitsInt n := by
    intro n hn
    unfold QString.FitsInt
    omega
  unfold HelperReporter.writeStep
  dsimp only
  rw [bind_eq, wp_bind]
  refine wp_writeReport (.step _ _ message.english) rfl h
    ⟨hfits _ (Nat.min_le_right _ _), hfits _ (Nat.le_refl _)⟩ fun past' h' => ?_
  exact ⟨⟨_, _, rfl⟩, h'⟩

theorem writeDetails_wp (lines : List QString) (h : Announced appVersion past) :
    wp (HelperObligation appVersion arguments)
      (fun r past' => r = .ok () ∧ Unnoticed appVersion past past')
      (HelperReporter.writeDetails lines : Prog HelperI ε Unit) past := by
  induction lines generalizing past with
  | nil => exact ⟨rfl, h, rfl⟩
  | cons line lines ih =>
    unfold HelperReporter.writeDetails
    dsimp only
    split_ifs
    · rw [bind_eq, wp_bind]
      refine wp_writeReport (.detail _) rfl h trivial fun past' h' => ?_
      exact wp_mono (ih h'.announced) (fun _ _ h => h)
        fun r past'' ⟨hr, h''⟩ => ⟨hr, h'.trans h''⟩
    · exact ih h

theorem detail_wp {reporter : HelperReporter} {message : QString}
    (h : Announced appVersion past) :
    wp (HelperObligation appVersion arguments) (AnswersUnnoticed appVersion past)
      (HelperReporter.detail message >>= fun _ => pure ((), reporter) :
        Prog HelperI ε (Unit × HelperReporter)) past := by
  rw [bind_eq, wp_bind]
  refine wp_mono (writeDetails_wp _ h) (fun _ _ h => h) fun r past' ⟨hr, h'⟩ => ?_
  subst hr
  exact ⟨⟨_, _, rfl⟩, h'⟩

/-! ## Carrying runs of the backend over -/

/-- The helper's history goes on from `base` as the backend's history says. -/
structure Carries (appVersion : QString) (base : List (Event SysI)) (past : List (Event LinuxI))
    (pastJ : List (Event HelperI)) : Prop where
  announced : Announced appVersion pastJ
  calls : helperSysCalls pastJ = base ++ sysCalls past

omit [Host] in
theorem Carries.unnoticed {base : List (Event SysI)} {pastL : List (Event LinuxI)}
    {pastJ pastJ' : List (Event HelperI)} (h : Carries appVersion base pastL pastJ)
    (h' : Unnoticed appVersion pastJ pastJ') {e : Event LinuxI} (he : sysCall e = none) :
    Carries appVersion base (pastL ++ [e]) pastJ' where
  announced := h'.announced
  calls := by
    rw [h'.calls, h.calls, sysCalls_append]
    simp [sysCalls, he]

/-- The permission to change the disk carries over from a backend's history to the helper's. -/
def CarriesPermission (arguments : List QString) (base : List (Event SysI))
    (ok : List (Event LinuxI) → Event LinuxI → Prop) : Prop :=
  ∀ past e call, ok past e → sysCall e = some call → SysOp.isDestructive call.op = true →
    HelperPermitted arguments (base ++ sysCalls past) call.op

theorem answer_wp {base : List (Event SysI)} {ok : List (Event LinuxI) → Event LinuxI → Prop}
    (hpermission : CarriesPermission arguments base ok) (o : LinuxOp) (reporter : HelperReporter)
    (pastL : List (Event LinuxI)) (pastJ : List (Event HelperI))
    (h : Carries appVersion base pastL pastJ) (hok : ∀ ans, ok pastL ⟨o, ans⟩) :
    wp (HelperObligation appVersion arguments)
      (fun r pastJ' => ∃ ans reporter', r = .ok (ans, reporter') ∧
        Carries appVersion base (pastL ++ [⟨o, ans⟩]) pastJ')
      (HelperReporter.answer o reporter : Prog HelperI ε (o.Ans × HelperReporter)) pastJ := by
  have hquiet : ∀ {p : Prog HelperI ε (o.Ans × HelperReporter)},
      (∀ ans, sysCall (⟨o, ans⟩ : Event LinuxI) = none) →
      wp (HelperObligation appVersion arguments) (AnswersUnnoticed appVersion pastJ) p pastJ →
      wp (HelperObligation appVersion arguments)
        (fun r pastJ' => ∃ ans reporter', r = .ok (ans, reporter') ∧
          Carries appVersion base (pastL ++ [⟨o, ans⟩]) pastJ') p pastJ := by
    intro p hnone hp
    refine wp_mono hp (fun _ _ h => h) fun r pastJ' ⟨⟨ans, reporter', hr⟩, h'⟩ => ?_
    exact ⟨ans, reporter', hr, h.unnoticed h' (hnone ans)⟩
  cases o with
  | sys o =>
    intro ans
    refine ⟨⟨fun _ _ => h.announced, fun call hcall hdestructive => ?_, nofun⟩, ans, reporter, rfl, ?_⟩
    · cases hcall
      rw [h.calls]
      exact hpermission pastL ⟨.sys o, ans⟩ _ (hok ans) rfl hdestructive
    · refine ⟨h.announced.quiet rfl, ?_⟩
      rw [helperSysCalls_append, sysCalls_append, h.calls, List.append_assoc]
      rfl
  | reporter o =>
    cases o with
    | step step message => exact hquiet (fun _ => rfl) (writeStep_wp h.announced)
    | detail message => exact hquiet (fun _ => rfl) (detail_wp h.announced)
    | cancelRequested => exact hquiet (fun _ => rfl) (cancelRequested_wp h.announced)

/-- Where every run of the backend's program meets its obligations, so does the helper that runs
it, and what the program ended with holds of a history that the helper's goes on with. -/
theorem wp_runInHelper {δ : Type} {ok : List (Event LinuxI) → Event LinuxI → Prop}
    {Q : Except ε α → List (Event LinuxI) → Prop} {base : List (Event SysI)}
    {p : Prog LinuxI ε α} (hpermission : CarriesPermission arguments base ok)
    (h : wp ok Q p []) (hpast : Announced appVersion past) (hbase : helperSysCalls past = base) :
    wp (HelperObligation appVersion arguments)
      (fun r past' => ∃ outcome reporter t, r = .ok (outcome, reporter) ∧ Q outcome t ∧
        Runs p t (some outcome) ∧ Carries appVersion base t past')
      (runInHelper p {} : Prog HelperI δ (Except ε α × HelperReporter)) past := by
  let Related : HelperReporter → List (Event LinuxI) → List (Event HelperI) → Prop :=
    fun _ => Carries appVersion base
  have hrelated : Related {} [] past :=
    ⟨hpast, by rw [hbase]; exact (List.append_nil _).symm⟩
  have hstep := @answer_wp _ appVersion arguments δ base ok hpermission
  refine wp_mono (wp_handle hstep (wp_with_runs h) hrelated) (fun _ _ h => h) fun r past' hr => ?_
  obtain ⟨outcome, reporter, t, hr, ⟨hQ, t', ht, hrun⟩, hcarries⟩ := hr
  rw [List.nil_append] at ht
  subst ht
  exact ⟨outcome, reporter, t, hr, hQ, hrun, hcarries⟩

end

end UsbRestore
