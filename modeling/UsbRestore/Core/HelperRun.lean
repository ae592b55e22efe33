-- SUMMARY: How the client judges a helper run: its announcement, its exit and the verdict over both.
import UsbRestore.Core.ProtocolLine
import UsbRestore.Core.Reasons

/-!
# Judging a helper run

What the client has observed of a helper is folded into one of three verdicts. Only the failed one
carries a text, and its English text is never empty: that is how a failure is told from a
cancellation.
-/

namespace UsbRestore

/-- `describeRestoreExit` -/
def describeRestoreExit (exitCode : Int) (helperStderr : QString) (mode : TextMode) : QString :=
  let reported := sanitizeProtocolText helperStderr
  if exitCode = RestoreExitSuccess ∨ exitCode = RestoreExitCancelled then []
  else if exitCode = RestoreExitFailed then
    match mode with
    | .english =>
      if reported.isEmpty then coreText (QStringLiteral "The restore failed.") mode else reported
    | .display _ =>
      if reported.isEmpty then coreText (QStringLiteral "The restore failed.") mode
      else
        let source := QStringLiteral "The restore failed.\n\nDetails: %1"
        let explanation := coreText source mode
        if explanation = source then reported else explanation.arg [reported]
  else if exitCode = RestoreExitUsage then
    (coreText (QStringLiteral "USB Restoration Tool and its restore helper do not agree on how to talk to each other, which usually means a partly upgraded installation. Reinstall the application.%1") mode).arg
      [if reported.isEmpty then []
       else (coreText (QStringLiteral "\n\nThe helper said: %1") mode).arg [reported]]
  else if exitCode = 126 then
    coreText (QStringLiteral "Authentication was cancelled, so nothing on the drive was changed.") mode
  else if exitCode = 127 then
    coreText (QStringLiteral "The restore helper could not be started. Check that USB Restoration Tool is installed rather than run from a build directory.") mode
  else if reported.isEmpty then
    (coreText (QStringLiteral "The restore helper stopped unexpectedly (exit code %1).") mode).arg
      [.numberInt exitCode]
  else
    (coreText (QStringLiteral "The restore helper stopped unexpectedly (exit code %1): %2") mode).arg
      [.numberInt exitCode, reported]

/-- `killRequested` means that a SIGKILL was sent, not that it worked. -/
structure HelperRunObservation where
  crashed : Bool := false
  exitCode : Int := 0
  sawVersion : Bool := false
  versionAccepted : Bool := false
  versionError : QString := []
  killRequested : Bool := false
  location : QString := []
  helperStderr : QString := []
  displayFailure : QString := []

inductive HelperRunVerdict where
  | succeeded
  | cancelled
  | failed (error : QString)
  deriving DecidableEq

/-- `judgeHelperRun` -/
def judgeHelperRun (run : HelperRunObservation) (mode : TextMode) : HelperRunVerdict :=
  if run.killRequested ∧ !run.sawVersion ∧ (run.crashed ∨ run.exitCode = 126) then .cancelled
  else if run.crashed then
    .failed (coreText (QStringLiteral "The restore helper stopped unexpectedly. Check the drive with a partition tool before using it.") mode)
  else if run.sawVersion ∧ !run.versionAccepted then
    .failed
      (if run.versionError.isEmpty then describeRestoreExit RestoreExitUsage run.helperStderr mode
       else run.versionError)
  else if !run.sawVersion then
    -- the exit code is that of pkexec or of a stranger
    let claimsFinished :=
      run.exitCode = RestoreExitSuccess ∨ run.exitCode = RestoreExitCancelled
    .failed
      (describeRestoreExit (if claimsFinished then RestoreExitUsage else run.exitCode)
        run.helperStderr mode)
  else if run.exitCode = RestoreExitCancelled then .cancelled
  else if run.exitCode ≠ RestoreExitSuccess then
    match mode with
    | .display _ =>
      if run.versionAccepted ∧ !run.displayFailure.isEmpty then .failed run.displayFailure
      else .failed (describeRestoreExit run.exitCode run.helperStderr mode)
    | .english => .failed (describeRestoreExit run.exitCode run.helperStderr mode)
  else if run.location.isEmpty then
    .failed (coreText (QStringLiteral "The restore helper finished without reporting where the volume ended up. Check the drive with a partition tool before using it.") mode)
  else .succeeded

/-- `acceptHelperAnnouncement` -/
def acceptHelperAnnouncement (announcement : ProtocolLine) (ourAppVersion : QString)
    (plan : List RestoreStep) (mode : TextMode) : Except QString Unit :=
  if announcement.kind ≠ .version then .error (describeRestoreExit RestoreExitUsage [] mode)
  else
    let samePlan :=
      announcement.totalSteps = plan.length ∧
        announcement.firstDestructiveStep = firstDestructiveStepOf plan
    if announcement.version = RestoreProtocolVersion ∧ samePlan then .ok ()
    else
      let theirs :=
        if announcement.appVersion.isEmpty then coreText (QStringLiteral "an older version") mode
        else if announcement.appVersion = ourAppVersion then
          (coreText (QStringLiteral "a different build of version %1") mode).arg
            [announcement.appVersion]
        else (coreText (QStringLiteral "version %1") mode).arg [announcement.appVersion]
      .error
        ((coreText (QStringLiteral "USB Restoration Tool is version %1, but its restore helper is from %2, so the two disagree about how a restore proceeds. This usually means a partly upgraded installation. Reinstall the application so both come from the same release.") mode).arg
          [ourAppVersion, theirs])

/-! ## Texts -/

-- A literal is long for the elaborator, which compares it with its list of characters.
set_option maxRecDepth 10000

/-- Every exit but success and cancellation is described in English. -/
theorem describeRestoreExit_ne_nil {exitCode : Int} (helperStderr : QString)
    (hsuccess : exitCode ≠ RestoreExitSuccess) (hcancelled : exitCode ≠ RestoreExitCancelled) :
    describeRestoreExit exitCode helperStderr .english ≠ [] := by
  unfold describeRestoreExit
  dsimp only
  rw [if_neg (not_or.mpr ⟨hsuccess, hcancelled⟩)]
  by_cases hfailed : exitCode = RestoreExitFailed
  · rw [if_pos hfailed]
    split
    · exact coreText_ne_nil (by decide)
    · next hreported => exact fun hnil => hreported (List.isEmpty_iff.mpr hnil)
  rw [if_neg hfailed]
  by_cases husage : exitCode = RestoreExitUsage
  · rw [if_pos husage]
    exact coreText_arg_ne_nil (by decide)
  rw [if_neg husage]
  by_cases hauth : exitCode = 126
  · rw [if_pos hauth]
    exact coreText_ne_nil (by decide)
  rw [if_neg hauth]
  by_cases hstart : exitCode = 127
  · rw [if_pos hstart]
    exact coreText_ne_nil (by decide)
  rw [if_neg hstart]
  split
  · exact coreText_arg_ne_nil (by decide)
  · exact coreText_arg_ne_nil (by decide)

theorem acceptHelperAnnouncement_error {announcement : ProtocolLine} {ourAppVersion : QString}
    {plan : List RestoreStep} {error : QString}
    (h : acceptHelperAnnouncement announcement ourAppVersion plan .english = .error error) :
    error ≠ [] := by
  unfold acceptHelperAnnouncement at h
  dsimp only at h
  split at h
  · obtain rfl := Except.error.inj h
    exact describeRestoreExit_ne_nil _ (by decide) (by decide)
  · split at h
    · cases h
    · obtain rfl := Except.error.inj h
      exact coreText_arg_ne_nil (by decide)

/-- What an accepted announcement says. -/
theorem acceptHelperAnnouncement_ok_iff {announcement : ProtocolLine} {ourAppVersion : QString}
    {plan : List RestoreStep} {mode : TextMode} :
    acceptHelperAnnouncement announcement ourAppVersion plan mode = .ok () ↔
      announcement.kind = .version ∧ announcement.version = RestoreProtocolVersion ∧
        announcement.totalSteps = plan.length ∧
        announcement.firstDestructiveStep = firstDestructiveStepOf plan := by
  unfold acceptHelperAnnouncement
  dsimp only
  by_cases hkind : announcement.kind = .version
  · by_cases hsame : announcement.version = RestoreProtocolVersion ∧
        announcement.totalSteps = plan.length ∧
        announcement.firstDestructiveStep = firstDestructiveStepOf plan
    · simp [hkind, hsame]
    · simp [hkind, hsame]
  · simp [hkind]

/-! ## Verdicts -/

/-- When the English verdict is a success. -/
structure TrustedSuccess (run : HelperRunObservation) : Prop where
  normal : run.crashed = false
  exitCode : run.exitCode = RestoreExitSuccess
  sawVersion : run.sawVersion = true
  versionAccepted : run.versionAccepted = true
  location : run.location ≠ []

/-- When it is a cancellation: the helper said so, or it died without a word. -/
def TrustedCancellation (run : HelperRunObservation) : Prop :=
  (run.crashed = false ∧ run.exitCode = RestoreExitCancelled ∧ run.sawVersion = true ∧
    run.versionAccepted = true) ∨
  (run.killRequested = true ∧ run.sawVersion = false ∧
    (run.crashed = true ∨ run.exitCode = 126))

/-- What a failed verdict says is never empty. -/
def FailsWithReason (verdict : HelperRunVerdict) : Prop :=
  ∃ error, verdict = .failed error ∧ error ≠ []

/-- The three verdicts, each with its condition. -/
theorem judgeHelperRun_cases (run : HelperRunObservation) :
    (TrustedSuccess run ∧ judgeHelperRun run .english = .succeeded) ∨
    (TrustedCancellation run ∧ judgeHelperRun run .english = .cancelled) ∨
    FailsWithReason (judgeHelperRun run .english) := by
  unfold judgeHelperRun
  dsimp only
  by_cases hkill : run.killRequested ∧ !run.sawVersion ∧ (run.crashed ∨ run.exitCode = 126)
  · rw [if_pos hkill]
    obtain ⟨hrequested, hsilent, hdied⟩ := hkill
    exact .inr (.inl ⟨.inr ⟨hrequested, by simpa using hsilent, hdied⟩, rfl⟩)
  rw [if_neg hkill]
  by_cases hcrashed : run.crashed = true
  · rw [if_pos hcrashed]
    exact .inr (.inr ⟨_, rfl, (coreText_ne_nil (by decide))⟩)
  rw [if_neg hcrashed]
  by_cases hrefused : run.sawVersion ∧ !run.versionAccepted
  · rw [if_pos hrefused]
    refine .inr (.inr ⟨_, rfl, ?_⟩)
    split
    · exact describeRestoreExit_ne_nil _ (by decide) (by decide)
    · next hsome => exact fun hnil => hsome (List.isEmpty_iff.mpr hnil)
  rw [if_neg hrefused]
  by_cases hsilent : run.sawVersion = false
  · rw [if_pos (by simp [hsilent])]
    refine .inr (.inr ⟨_, rfl, ?_⟩)
    split
    · exact describeRestoreExit_ne_nil _ (by decide) (by decide)
    · next hclaims =>
      exact describeRestoreExit_ne_nil _ (fun h => hclaims (.inl h)) (fun h => hclaims (.inr h))
  have hsaw : run.sawVersion = true := by simpa using hsilent
  have haccepted : run.versionAccepted = true := by simpa [hsaw] using hrefused
  have hnormal : run.crashed = false := by simpa using hcrashed
  rw [if_neg (by simp [hsaw])]
  by_cases hcancelled : run.exitCode = RestoreExitCancelled
  · rw [if_pos hcancelled]
    exact .inr (.inl ⟨.inl ⟨hnormal, hcancelled, hsaw, haccepted⟩, rfl⟩)
  rw [if_neg hcancelled]
  by_cases hsuccess : run.exitCode = RestoreExitSuccess
  · rw [if_neg (not_not.mpr hsuccess)]
    by_cases hlocation : run.location.isEmpty = true
    · rw [if_pos hlocation]
      exact .inr (.inr ⟨_, rfl, (coreText_ne_nil (by decide))⟩)
    · rw [if_neg hlocation]
      exact .inl ⟨⟨hnormal, hsuccess, hsaw, haccepted,
        fun hnil => hlocation (List.isEmpty_iff.mpr hnil)⟩, rfl⟩
  · rw [if_pos hsuccess]
    exact .inr (.inr ⟨_, rfl, describeRestoreExit_ne_nil _ hsuccess hcancelled⟩)

end UsbRestore
