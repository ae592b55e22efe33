-- SUMMARY: The helper does and says the same whatever catalog is installed, but for its failure line.
import UsbRestore.Helper.WriteSafety
import UsbRestore.Linux.Untranslated

/-!
# The helper under two catalogs

Everything that the helper does or writes is audible, but for the loading of a catalog and for the
failure line, which is there for the user to read. Two runs of the helper against the same answers
are the same as far as they are audible, whatever catalog each of them was given.
-/

namespace UsbRestore

open Prog

/-! ## Failure lines -/

/-- A line that starts with the keyword of a failure line. -/
def isFailureLine (bytes : List UInt8) : Bool :=
  (QString.toUtf8 (QStringLiteral "failure ")).isPrefixOf bytes

/-- The line of a failure, which alone is translated, is known by its first letter. -/
theorem isFailureLine_encode (text : QString) :
    isFailureLine (lineBytes (encodeFailureLine text)) = true := by
  have hjoin : QStringLiteral "failure" ++ space :: sanitizeProtocolText text =
      QStringLiteral "failure " ++ sanitizeProtocolText text := rfl
  unfold isFailureLine lineBytes
  rw [encodeFailureLine_eq, hjoin, Utf8.toUtf8_append (by decide), List.append_assoc]
  exact List.isPrefixOf_iff_prefix.mpr (List.prefix_append _ _)

theorem not_isFailureLine {c : QChar} (hc : c.toNat < 0x80) (hne : UInt8.ofNat c.toNat ≠ 102)
    (text : QString) : isFailureLine (lineBytes (c :: text)) = false := by
  unfold isFailureLine lineBytes
  rw [Utf8.toUtf8_cons hc, List.cons_append]
  have hkeyword : QString.toUtf8 (QStringLiteral "failure ") =
      102 :: QString.toUtf8 (QStringLiteral "ailure ") := rfl
  rw [hkeyword, List.isPrefixOf, Bool.and_eq_false_iff]
  exact .inl (beq_false_of_ne hne.symm)

/-! ## What is audible -/

namespace HelperOp

/-- Everything but the loading of a catalog and a failure line. -/
def audible : HelperOp → Bool
  | .installGerman => false
  | .writeStdout bytes => !isFailureLine bytes
  | _ => true

end HelperOp

/-- An audible call of both. -/
def SameAudible (o o' : HelperOp) : Prop := o = o' ∧ o.audible = true

/-- Programs of the helper that cannot be told apart by what is audible of them. -/
abbrev InUnison {ε α β : Type} (V : α → β → Prop) (p : Prog HelperI ε α) (q : Prog HelperI ε β) :
    Prop :=
  Alike (I := HelperI) HelperOp.audible SameAudible (Outcomes (· = ·) V) p q

section

variable {ε α β γ : Type}

/-- A part of the helper whose calls are all audible. -/
def IsAudible (p : Prog HelperI ε α) : Prop :=
  p.Satisfies (fun o => HelperOp.audible o = true) fun _ => True

theorem InUnison.self {p : Prog HelperI ε α} (h : IsAudible p) : InUnison (· = ·) p p := by
  refine Alike.self h (fun o ho => ⟨rfl, ho⟩) fun x _ => ?_
  cases x with
  | ok a => exact .ok rfl
  | error e => exact .error rfl

/-- What both do in the same way before they differ. -/
theorem InUnison.after {V : β → γ → Prop} {p : Prog HelperI ε α} (hp : IsAudible p)
    {f : α → Prog HelperI ε β} {g : α → Prog HelperI ε γ} (h : ∀ a, InUnison V (f a) (g a)) :
    InUnison V (p >>= f) (p >>= g) := by
  refine Alike.bind (self hp) ?_
  rintro a _ rfl
  exact h a

/-- A call that is not audible, and says nothing, may be left out. -/
theorem InUnison.aside {V : β → γ → Prop} {o : HelperOp} (quiet : o.audible = false)
    {f : o.Ans → Prog HelperI ε β} {q : Prog HelperI ε γ} (h : ∀ ans, InUnison V (f ans) q) :
    InUnison V (helperCall o >>= f) q :=
  Alike.left quiet h

theorem InUnison.aside' {V : β → γ → Prop} {o : HelperOp} (quiet : o.audible = false)
    {p : Prog HelperI ε β} {g : o.Ans → Prog HelperI ε γ} (h : ∀ ans, InUnison V p (g ans)) :
    InUnison V p (helperCall o >>= g) :=
  Alike.right quiet h

theorem IsAudible.bind {p : Prog HelperI ε α} {f : α → Prog HelperI ε β} (hp : IsAudible p)
    (hf : ∀ a, IsAudible (f a)) : IsAudible (p >>= f) :=
  Satisfies.bind hp (fun a _ => hf a) fun _ _ => trivial

theorem writeLine_isAudible {line : QString} (h : isFailureLine (lineBytes line) = false) :
    IsAudible (writeLine line : Prog HelperI ε Unit) :=
  ⟨by simp [HelperOp.audible, h], fun _ => trivial⟩

theorem writeError_isAudible (message : QString) :
    IsAudible (writeError message : Prog HelperI ε Unit) :=
  ⟨rfl, fun _ => trivial⟩

theorem geteuid_isAudible : IsAudible (geteuid : Prog HelperI ε UInt32) := ⟨rfl, fun _ => trivial⟩

theorem announceVersion_isAudible (appVersion : QString) :
    IsAudible (announceVersion appVersion : Prog HelperI ε Unit) := by
  refine writeLine_isAudible ?_
  rw [encodeVersionLine_eq]
  exact not_isFailureLine (c := QChar.ofChar 'v') (by decide) (by decide) _

/-! ## The reporter -/

theorem writeStep_isAudible (reporter : HelperReporter) (message : RestoreMessage) :
    IsAudible (reporter.writeStep message : Prog HelperI ε (Unit × HelperReporter)) := by
  refine IsAudible.bind (writeLine_isAudible ?_) fun _ => trivial
  rw [encodeStepLine_eq]
  exact not_isFailureLine (c := QChar.ofChar 's') (by decide) (by decide) _

theorem writeDetails_isAudible (lines : List QString) :
    IsAudible (HelperReporter.writeDetails lines : Prog HelperI ε Unit) := by
  induction lines with
  | nil => trivial
  | cons line lines ih =>
    unfold HelperReporter.writeDetails
    dsimp only
    split_ifs
    · refine IsAudible.bind (writeLine_isAudible ?_) fun _ => ih
      rw [encodeDetailLine_eq]
      exact not_isFailureLine (c := QChar.ofChar 'd') (by decide) (by decide) _
    · exact ih

theorem cancelRequested_isAudible (reporter : HelperReporter) :
    IsAudible (reporter.cancelRequested : Prog HelperI ε (Bool × HelperReporter)) := by
  unfold HelperReporter.cancelRequested
  split_ifs
  · trivial
  refine .call rfl fun terminal => ?_
  split_ifs
  · trivial
  refine .call rfl fun readable => ?_
  split_ifs
  · trivial
  refine .call rfl fun bytes => ?_
  split_ifs
  · trivial
  · trivial

/-- Answers that are the same, with the reporter as it is now. -/
abbrev AnswersAlike (o o' : LinuxOp) (p : Prog HelperI ε (o.Ans × HelperReporter))
    (q : Prog HelperI ε (o'.Ans × HelperReporter)) : Prop :=
  Alike (I := HelperI) HelperOp.audible SameAudible
    (Outcomes (· = ·) fun x y => HEq x.1 y.1 ∧ x.2 = y.2) p q

theorem AnswersAlike.self {o : LinuxOp} {p : Prog HelperI ε (o.Ans × HelperReporter)}
    (h : IsAudible p) : AnswersAlike o o p p := by
  refine Alike.mono (InUnison.self h) ?_
  rintro x y (heq | heq)
  · obtain rfl := heq
    exact .ok ⟨HEq.rfl, rfl⟩
  · exact .error heq

/-- The line of a step holds the English text alone. -/
theorem writeStep_english {message message' : RestoreMessage} (reporter : HelperReporter)
    (h : message.english = message'.english) :
    (reporter.writeStep message : Prog HelperI ε (Unit × HelperReporter)) =
      reporter.writeStep message' := by
  unfold HelperReporter.writeStep
  rw [h]

/-- The reporter's answers to calls that are the same in English. -/
theorem answer_alike {o o' : LinuxOp} (reporter : HelperReporter) (h : SameInEnglish o o') :
    AnswersAlike o o' (HelperReporter.answer o reporter : Prog HelperI ε _)
      (HelperReporter.answer o' reporter) := by
  cases h with
  | @step planned message message' htext =>
    have hself := AnswersAlike.self (o := .reporter (.step planned message))
      (writeStep_isAudible (ε := ε) reporter message)
    have hwritten : (HelperReporter.answer (.reporter (.step planned message')) reporter :
        Prog HelperI ε _) = reporter.writeStep message := (writeStep_english reporter htext).symm
    rw [hwritten]
    exact hself
  | refl =>
    cases o with
    | sys o => exact AnswersAlike.self (o := .sys o) ⟨rfl, fun _ => trivial⟩
    | reporter o =>
      cases o with
      | step planned message =>
        exact AnswersAlike.self (o := .reporter (.step planned message))
          (writeStep_isAudible reporter message)
      | detail message =>
        exact AnswersAlike.self (o := .reporter (.detail message))
          (IsAudible.bind (writeDetails_isAudible _) fun _ => trivial)
      | cancelRequested =>
        exact AnswersAlike.self (o := .reporter .cancelRequested)
          (cancelRequested_isAudible reporter)

/-- A part of the backend under two catalogs, as the helper runs it. -/
theorem runInHelper_inUnison {R : Except RestoreMessage α → Except RestoreMessage β → Prop}
    {p : Prog LinuxI RestoreMessage α} {q : Prog LinuxI RestoreMessage β}
    (h : Alike (I := LinuxI) (fun _ => true) SameInEnglish R p q) (reporter : HelperReporter) :
    InUnison (fun x y => R x.1 y.1 ∧ x.2 = y.2) (runInHelper p reporter : Prog HelperI ε _)
      (runInHelper q reporter) :=
  Alike.handle (fun _ _ reporter h => answer_alike reporter h) (fun _ => rfl) h reporter

/-! ## Failures -/

/-- The diagnostic is heard; the explanation is not, whether there is one or not. -/
theorem writeFailure_inUnison {V : α → β → Prop} {english display display' : QString}
    {f : Prog HelperI ε α} {g : Prog HelperI ε β} (h : InUnison V f g) :
    InUnison V (writeFailure english display >>= fun _ => f)
      (writeFailure english display' >>= fun _ => g) := by
  have hquiet : ∀ text, HelperOp.audible (.writeStdout (lineBytes (encodeFailureLine text))) =
      false := by
    intro text
    rw [HelperOp.audible, isFailureLine_encode]
    rfl
  unfold writeFailure
  refine InUnison.after (writeError_isAudible english) fun _ => ?_
  split_ifs
  · exact .aside (hquiet _) fun _ => .aside' (hquiet _) fun _ => h
  · exact .aside (hquiet _) fun _ => h
  · exact .aside' (hquiet _) fun _ => h
  · exact h

/-- In any two languages a failure exits with the same code, whatever its line says. -/
theorem reportFailure_inUnison {c d : Catalog} (reporter : HelperReporter)
    {error error' : RestoreMessage} (h : SameText error error') :
    InUnison (· = ·) (reportFailure c reporter error : Prog HelperI ε Int)
      (reportFailure d reporter error') := by
  unfold SameText at h
  unfold reportFailure
  refine InUnison.after (cancelRequested_isAudible reporter) fun asked => ?_
  dsimp only
  rw [h]
  split_ifs
  · exact Alike.ret rfl
  · exact writeFailure_inUnison (Alike.ret rfl)
  · rw [h]
    exact writeFailure_inUnison (Alike.ret rfl)

/-! ## The main function -/

variable [Host]

theorem findTarget_inEnglish {c d : Catalog} (expected : DiskInfo) :
    InEnglish (· = ·) (findTarget c expected) (findTarget d expected) := by
  unfold findTarget
  refine InEnglish.after _ fun guard => ?_
  refine InEnglish.andThen (refreshUsbDisk_inEnglish expected.deviceId) fun disk => ?_
  refine InEnglish.andThen (check_inEnglish _) fun _ => ?_
  exact InEnglish.andThen (check_inEnglish _) fun _ => Alike.ret rfl

/-- The restore of one target, and what is written of its outcome. -/
def restoreTarget (fuel : LoopFuel) (installed : Catalog) (parsed : RestoreArguments)
    (guard : RestoreGuard) (disk : DiskInfo) : Prog HelperI ε Int := do
  let (outcome, reporter) ←
    runInHelper (performLinuxRestore installed fuel (helperRequest parsed guard disk)) {}
  match outcome with
  | .error error => reportFailure installed reporter error
  | .ok result =>
    writeLine (encodeResultLine result.location)
    return RestoreExitSuccess

/-- The restore of one target makes the same audible calls in any two languages. -/
theorem restoreTarget_inUnison {c d : Catalog} {parsed parsed' : RestoreArguments}
    (fuel : LoopFuel) (guard : RestoreGuard) (disk : DiskInfo)
    (h : helperRequest parsed guard disk = helperRequest parsed' guard disk) :
    InUnison (· = ·) (restoreTarget fuel c parsed guard disk : Prog HelperI ε Int)
      (restoreTarget fuel d parsed' guard disk) := by
  unfold restoreTarget
  rw [h]
  refine Alike.bind (runInHelper_inUnison (performLinuxRestore_inEnglish fuel _) {}) ?_
  rintro ⟨outcome, reporter⟩ ⟨outcome', _⟩ ⟨houtcome, hreporter⟩
  obtain rfl : reporter = _ := hreporter
  cases houtcome with
  | error htext => exact reportFailure_inUnison reporter htext
  | ok hresult =>
    obtain rfl := hresult
    refine InUnison.after (writeLine_isAudible ?_) fun _ => Alike.ret rfl
    rw [encodeResultLine_eq]
    exact not_isFailureLine (c := QChar.ofChar 'r') (by decide) (by decide) _

/-- So does the helper from its arguments on. -/
theorem restoreInHelper_inUnison {c d : Catalog} (fuel : LoopFuel) (parsed : RestoreArguments) :
    InUnison (· = ·) (restoreInHelper fuel c parsed : Prog HelperI ε Int)
      (restoreInHelper fuel d parsed) := by
  unfold restoreInHelper
  refine Alike.bind (runInHelper_inUnison (findTarget_inEnglish parsed.expected) {}) ?_
  rintro ⟨target, reporter⟩ ⟨target', _⟩ ⟨htarget, _⟩
  cases htarget with
  | @error error error' htext =>
    dsimp only
    rw [show error.english = error'.english from htext]
    exact writeFailure_inUnison (Alike.ret rfl)
  | ok hfound =>
    obtain rfl := hfound
    exact restoreTarget_inUnison fuel _ _ rfl

/-- What an activation makes of the catalog it loaded or did not find. -/
def answerInstalled : Option Catalog → Prog HelperI ε (Bool × Catalog)
  | some installed => .ret (true, installed)
  | none => .ret (false, Catalog.english)

omit [Host] in
/-- Loading a catalog is not heard, whether it is done or not. -/
theorem activateInterfaceLanguage_inUnison (preference preference' : Language) :
    InUnison (fun _ _ => True) (activateInterfaceLanguage preference : Prog HelperI ε _)
      (activateInterfaceLanguage preference') := by
  have hdone : ∀ (x : Bool × Catalog) (q : Prog HelperI ε (Bool × Catalog)),
      (q = .ret (true, Catalog.english) ∨ q = installGerman >>= answerInstalled) →
      InUnison (fun _ _ => True) (.ret x) q := by
    rintro x q (rfl | rfl)
    · exact Alike.ret trivial
    · refine .aside' rfl fun german => ?_
      cases german with
      | some installed => exact Alike.ret trivial
      | none => exact Alike.ret trivial
  have hkind : ∀ language, (activateInterfaceLanguage language : Prog HelperI ε _) =
        .ret (true, Catalog.english) ∨
      (activateInterfaceLanguage language : Prog HelperI ε _) =
        installGerman >>= answerInstalled := by
    intro language
    by_cases hgerman : language = .german
    · exact .inr (if_pos hgerman)
    · exact .inl (if_neg hgerman)
  rcases hkind preference with hquiet | hloads
  · rw [hquiet]
    exact hdone _ _ (hkind preference')
  · rw [hloads]
    refine .aside rfl fun german => ?_
    cases german with
    | some installed => exact hdone _ _ (hkind preference')
    | none => exact hdone _ _ (hkind preference')

omit [Host] in
theorem catalogProbe_notRequested {arguments : List QString}
    (h : arguments.head? ≠ some ShowTranslationFlag) :
    (catalogProbe arguments : Prog HelperI ε CatalogProbe) = pure .notRequested :=
  if_pos h

/-- Whoever asks for no text of a catalog gets nothing that depends on one. -/
theorem helperMain_inUnison (fuel : LoopFuel) (appVersion : QString) {arguments : List QString}
    (h : arguments.head? ≠ some ShowTranslationFlag) :
    InUnison (· = ·) (helperMain fuel appVersion arguments : Prog HelperI ε Int)
      (helperMain fuel appVersion arguments) := by
  unfold helperMain
  split_ifs
  · exact InUnison.after (announceVersion_isAudible appVersion) fun _ => Alike.ret rfl
  rw [catalogProbe_notRequested h]
  refine InUnison.after (announceVersion_isAudible appVersion) fun _ => ?_
  unfold servePrivileged
  refine InUnison.after geteuid_isAudible fun uid => ?_
  split_ifs
  · exact InUnison.after (writeError_isAudible _) fun _ => Alike.ret rfl
  cases parseRestoreArguments arguments with
  | error error => exact InUnison.after (writeError_isAudible error) fun _ => Alike.ret rfl
  | ok parsed =>
    exact Alike.bind (activateInterfaceLanguage_inUnison _ _)
      fun _ _ _ => restoreInHelper_inUnison fuel parsed

/-! ## Runs -/

/-- What answers the calls of a helper, as far as it was asked before. -/
abbrev HelperEnvironment := List (Event HelperI) → (o : HelperOp) → o.Ans

abbrev LinuxEnvironment := List (Event LinuxI) → (o : LinuxOp) → o.Ans

omit [Host] in
theorem audible_both (o o' : HelperOp) (h : SameAudible o o') :
    o.audible = true ∧ o'.audible = true := by
  obtain ⟨rfl, haudible⟩ := h
  exact ⟨haudible, haudible⟩

omit [Host] in
/-- Audible events that are alike are the same. -/
theorem eq_of_likeEvents {e e' : Event HelperI} (h : Alike.LikeEvents SameAudible e e') :
    e = e' := by
  obtain ⟨o, ans⟩ := e
  obtain ⟨o', ans'⟩ := e'
  obtain ⟨⟨hop, -⟩, hans⟩ := h
  obtain rfl : o = o' := hop
  obtain rfl := eq_of_heq hans
  rfl

omit [Host] in
/-- Against the same answers, programs in unison have one audible run and one result. -/
theorem InUnison.against {p q : Prog HelperI ε α} (h : InUnison (· = ·) p q)
    {env env' : HelperEnvironment}
    (henv : Alike.SameAnswers (I := HelperI) HelperOp.audible SameAudible env env') :
    Alike.audibleEvents HelperOp.audible (p.against env []).1 =
        Alike.audibleEvents HelperOp.audible (q.against env' []).1 ∧
      (p.against env []).2 = (q.against env' []).2 := by
  obtain ⟨hevents, hresult⟩ := Alike.against audible_both henv h
  refine ⟨?_, ?_⟩
  · exact List.forall₂_eq_eq_eq ▸ List.Forall₂.imp (fun _ _ => eq_of_likeEvents) hevents
  · exact Outcomes.eq_of_rel hresult

/-- The language never decides: against the same answers, a helper that is not asked for a text of
a catalog does and says the same under any two catalogs, but for the failure line; and the backend
makes the same calls, its messages the same in English. -/
theorem helperMain_language_never_decides (fuel : LoopFuel) (appVersion : QString)
    {arguments : List QString} (hprobe : arguments.head? ≠ some ShowTranslationFlag)
    {env env' : HelperEnvironment}
    (henv : Alike.SameAnswers (I := HelperI) HelperOp.audible SameAudible env env')
    (c d : Catalog) (request : RestoreRequest) {linux linux' : LinuxEnvironment}
    (hlinux : Alike.SameAnswers (I := LinuxI) (fun _ => true) SameInEnglish linux linux') :
    let helper : Prog HelperI Empty Int := helperMain fuel appVersion arguments
    let restore := fun installed => performLinuxRestore installed fuel request
    (Alike.audibleEvents HelperOp.audible (helper.against env []).1 =
          Alike.audibleEvents HelperOp.audible (helper.against env' []).1 ∧
        (helper.against env []).2 = (helper.against env' []).2) ∧
      List.Forall₂ (Alike.LikeEvents SameInEnglish) ((restore c).against linux []).1
          ((restore d).against linux' []).1 ∧
        Option.Rel SameVerdict ((restore c).against linux []).2
          ((restore d).against linux' []).2 := by
  intro helper restore
  obtain ⟨hevents, hresult⟩ := Alike.against (fun _ _ _ => ⟨rfl, rfl⟩) hlinux
    (performLinuxRestore_inEnglish (c := c) (d := d) fuel request)
  refine ⟨(helperMain_inUnison fuel appVersion hprobe).against henv, ?_, hresult⟩
  unfold Alike.audibleEvents at hevents
  rw [List.filter_true, List.filter_true] at hevents
  exact hevents

end

/-! ### On the small stick -/

namespace SmallStick

/-- A helper's environment with the given catalog. -/
def environment (german : Option Catalog) : HelperEnvironment
  | _, .installGerman => german
  | _, o => helperAnswers (fun _ => answers) 0 o

theorem environment_sameAnswers (german german' : Option Catalog) :
    Alike.SameAnswers (I := HelperI) HelperOp.audible SameAudible (environment german)
      (environment german') := by
  rintro past past' o o' - ⟨rfl, haudible⟩
  cases o with
  | installGerman => cases haudible
  | _ => rfl

def linuxEnvironment : LinuxEnvironment := fun _ o => linuxAnswers 1000 0 o

theorem linuxEnvironment_sameAnswers :
    Alike.SameAnswers (I := LinuxI) (fun _ => true) SameInEnglish linuxEnvironment
      linuxEnvironment := by
  intro past past' o o' _ hsame
  cases hsame with
  | refl => rfl
  | step => rfl

def germanArguments : List QString :=
  buildRestoreArguments disk .gpt .exFat (QStringLiteral "USB") .german []

/-- A catalog in which every text is empty. -/
def emptyCatalog : Catalog := fun _ _ => []

/-- What can be heard of a helper that is given a catalog. -/
def heardWith (german : Option Catalog) (arguments : List QString) :
    List (Event HelperI) × Option (Except Empty Int) :=
  let run := (helperMain 9 (QStringLiteral "1.0") arguments).against (environment german) []
  (Alike.audibleEvents HelperOp.audible run.1, run.2)

end SmallStick

open SmallStick in
/-- A catalog without a word in it, and none. -/
theorem helperMain_language_never_decides_small :
    (heardWith (some emptyCatalog) germanArguments).1 = (heardWith none germanArguments).1 ∧
      (heardWith (some emptyCatalog) germanArguments).2 = (heardWith none germanArguments).2 := by
  have hprobe : germanArguments.head? ≠ some ShowTranslationFlag := by decide +kernel
  have h := helperMain_language_never_decides 9 (QStringLiteral "1.0") hprobe
    (environment_sameAnswers (some emptyCatalog) none) emptyCatalog Catalog.english
    SmallStick.request linuxEnvironment_sameAnswers
  dsimp only at h
  unfold heardWith
  dsimp only
  exact h.1

open SmallStick in
/-- A helper that is asked for a text of its catalog writes it. -/
theorem helperMain_shows_translation :
    ¬∀ (arguments : List QString) (german german' : Option Catalog),
      (heardWith german arguments).1 = (heardWith german' arguments).1 := by
  intro h
  have hshown := h [ShowTranslationFlag, QStringLiteral "de"] (some emptyCatalog)
    (some Catalog.english)
  have hwritten := congrArg (fun events => (writesOf events).map List.length) hshown
  exact absurd hwritten (by decide +kernel)

end UsbRestore
