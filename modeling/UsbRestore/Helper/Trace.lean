-- SUMMARY: Every run of the helper announces itself, writes only where it may, and ends with a meaning.
import UsbRestore.Helper.History

/-!
# Runs of the helper

One weakest precondition proof covers `main`, on top of the one that covers the restore.
-/

namespace UsbRestore

open Prog

section

variable [Host] {appVersion : QString} {arguments : List QString} {past : List (Event HelperI)}

/-! ## What an exit code means -/

/-- The restore that was asked for has run to its end and has returned `result`. -/
def Restored (arguments : List QString) (result : RestoreResult) (calls : List (Event SysI)) :
    Prop :=
  ∃ parsed installed fuel guard disk, parseRestoreArguments arguments = .ok parsed ∧
    Performed (refreshUsbDisk installed parsed.expected.deviceId) disk calls ∧
    Performed (performLinuxRestore installed fuel (helperRequest parsed guard disk)) result calls

/-- A cancelled run has changed nothing; a successful one was told so by the restore and has
said where; any other has said nothing of a result. -/
structure ExitMeans (appVersion : QString) (arguments : List QString) (code : Int)
    (past : List (Event HelperI)) : Prop where
  range : 0 ≤ code ∧ code ≤ 3
  cancelled : code = RestoreExitCancelled → Untouched (helperSysCalls past)
  failed : RequestsRestore arguments → code ≠ RestoreExitSuccess → Announced appVersion past
  succeeded : RequestsRestore arguments → code = RestoreExitSuccess →
    ∃ result, Restored arguments result (helperSysCalls past) ∧
      AnnouncedResult appVersion result.location past

/-- What the end of `main` means. -/
def HelperFinished {ε : Type} (appVersion : QString) (arguments : List QString) :
    Except ε Int → List (Event HelperI) → Prop
  | .ok code, past => ExitMeans appVersion arguments code past
  | .error _, _ => False

theorem exitMeans_failed {code : Int} (hcode : code = RestoreExitFailed ∨ code = RestoreExitUsage)
    (h : Announced appVersion past) : ExitMeans appVersion arguments code past := by
  rcases hcode with rfl | rfl
  · exact ⟨by decide, nofun, fun _ _ => h, nofun⟩
  · exact ⟨by decide, nofun, fun _ _ => h, nofun⟩

/-- The code of a cancelled restore promises an untouched disk. -/
theorem exitMeans_cancelled (h : Announced appVersion past)
    (huntouched : Untouched (helperSysCalls past)) :
    ExitMeans appVersion arguments RestoreExitCancelled past :=
  ⟨by decide, fun _ => huntouched, fun _ _ => h, nofun⟩

/-- Without a restore there is no change and no claim to make. -/
theorem exitMeans_unrequested {code : Int} (hcode : 0 ≤ code ∧ code ≤ 2)
    (h : ¬RequestsRestore arguments) : ExitMeans appVersion arguments code past where
  range := by omega
  cancelled := by
    rintro rfl
    exact absurd hcode.2 (by decide)
  failed hrequests := absurd hrequests h
  succeeded hrequests := absurd hrequests h

/-! ## Finding the target -/

theorem findTarget_lookup (installed : Catalog) (expected : DiskInfo) :
    (findTarget installed expected).Satisfies LinuxOp.Lookup Explained := by
  unfold findTarget
  refine .seq linuxRestoreGuard_lookup fun guard => ?_
  refine .explained (refreshUsbDisk_lookup installed expected.deviceId) fun disk => ?_
  refine .explained (satisfies_checkRestoreError (isSafeRestoreTarget_hasReason disk guard))
    fun _ => ?_
  exact .explained (satisfies_checkRestoreError (isSameRestoreTarget_hasReason expected disk))
    fun _ => trivial

/-- What `findTarget` returns was found and accepted. -/
structure TargetFound (installed : Catalog) (expected : DiskInfo) (guard : RestoreGuard)
    (disk : DiskInfo) (calls : List (Event SysI)) : Prop where
  guarded : Performed (linuxRestoreGuard : Prog LinuxI RestoreMessage RestoreGuard) guard calls
  refreshed : Performed (refreshUsbDisk installed expected.deviceId) disk calls
  safe : isSafeRestoreTarget disk guard .english = .ok ()
  same : isSameRestoreTarget expected disk .english = .ok ()

/-- A target that was found was enumerated afresh, is safe under the helper's own guard and agrees
with what the arguments claim of it. -/
theorem findTarget_run {installed : Catalog} {expected : DiskInfo} {guard : RestoreGuard}
    {disk : DiskInfo} {t : List (Event LinuxI)}
    (h : Runs (findTarget installed expected) t (some (.ok (guard, disk)))) :
    TargetFound installed expected guard disk (sysCalls t) := by
  unfold findTarget at h
  obtain ⟨guarded, rest, guard', rfl, hguard, hrefreshing⟩ := Runs.bind_ok h
  obtain ⟨refreshed, rest, disk', rfl, hrefresh, hchecking⟩ := Runs.bind_ok hrefreshing
  obtain ⟨checked, rest, _, rfl, hchecked, hcomparing⟩ := Runs.bind_ok hchecking
  obtain ⟨compared, rest, _, rfl, hcompared, hreturning⟩ := Runs.bind_ok hcomparing
  obtain ⟨rfl, hsafe⟩ := Runs.ofExcept_ok hchecked
  obtain ⟨rfl, hsame⟩ := Runs.ofExcept_ok hcompared
  obtain ⟨rfl, hret⟩ := Runs.ret_ok hreturning
  cases hret
  refine
    { guarded := ⟨[], guarded, sysCalls refreshed, by simp [sysCalls], hguard⟩
      refreshed := ⟨sysCalls guarded, refreshed, [], by simp [sysCalls], hrefresh⟩
      safe := checkRestoreError_ok_iff.mp hsafe
      same := checkRestoreError_ok_iff.mp hsame }

/-! ## Carrying permissions over -/

theorem Found.prepend {installed : Catalog} {request : RestoreRequest} {disk : DiskInfo}
    {calls : List (Event SysI)} (h : Found installed request disk calls)
    (earlier : List (Event SysI)) : Found installed request disk (earlier ++ calls) :=
  { h with refreshed := h.refreshed.prepend earlier }

omit [Host] in
theorem OpenedSince.prepend {disk : DiskInfo} {fd : Fd} {since calls : List (Event SysI)}
    (h : OpenedSince disk fd since calls) (earlier : List (Event SysI)) :
    OpenedSince disk fd since (earlier ++ calls) := by
  obtain ⟨before, rfl⟩ := h.opened
  exact ⟨⟨earlier ++ before, by simp⟩, h.meanwhile⟩

theorem ReachesOnly.prepend {installed : Catalog} {fileSystem : FileSystemType} {disk : DiskInfo}
    {fd : Fd} {since calls : List (Event SysI)} {o : SysOp}
    (h : ReachesOnly installed fileSystem disk fd since calls o) (earlier : List (Event SysI)) :
    ReachesOnly installed fileSystem disk fd since (earlier ++ calls) o := by
  cases o with
  | startProcess program arguments =>
    obtain ⟨hresolved, path, hlast, hmapped⟩ := h
    exact ⟨hresolved.prepend earlier, path, hlast, hmapped⟩
  | _ => exact h

theorem Permitted.prepend {installed : Catalog} {request : RestoreRequest}
    {calls : List (Event SysI)} {o : SysOp} (h : Permitted installed request calls o)
    (earlier : List (Event SysI)) : Permitted installed request (earlier ++ calls) o := by
  obtain ⟨disk, fd, since, hfound, hopened, hidentified, hreaches⟩ := h
  exact ⟨disk, fd, since, hfound.prepend earlier, hopened.prepend earlier, hidentified,
    hreaches.prepend earlier⟩

/-- What is permitted to the restore of the target that was found is permitted to the helper. -/
theorem TargetFound.carriesPermission {installed : Catalog} {parsed : RestoreArguments}
    {guard : RestoreGuard} {disk : DiskInfo} {base : List (Event SysI)}
    (hparsed : parseRestoreArguments arguments = .ok parsed)
    (h : TargetFound installed parsed.expected guard disk base) :
    CarriesPermission arguments base
      (Obligation installed (helperRequest parsed guard disk)) := by
  intro past e call hobligation hcall hdestructive
  exact ⟨parsed, installed, guard, disk, hparsed, h.guarded.append _, h.refreshed.append _,
    h.safe, h.same, (hobligation.2 call hcall hdestructive).2.prepend base⟩

/-! ## The main function -/

variable {ε : Type}

/-- A failure is reported with the code that belongs to it: that of a cancelled restore only where
nothing was touched. -/
theorem reportFailure_wp {installed : Catalog} {reporter : HelperReporter}
    {error : RestoreMessage} (h : Announced appVersion past)
    (huntouched : error.english = [] → Untouched (helperSysCalls past)) :
    wp (HelperObligation appVersion arguments) (HelperFinished appVersion arguments)
      (reportFailure installed reporter error : Prog HelperI ε Int) past := by
  unfold reportFailure
  rw [bind_eq, wp_bind]
  refine wp_mono (cancelRequested_wp h) (fun _ _ h => h) ?_
  rintro _ past' ⟨⟨cancelled, reporter', rfl⟩, hpast⟩
  dsimp only
  split_ifs with hcancelled
  · rw [Bool.and_eq_true, List.isEmpty_iff] at hcancelled
    refine exitMeans_cancelled hpast.announced ?_
    rw [hpast.calls]
    exact huntouched hcancelled.2
  all_goals
    rw [bind_eq, wp_bind]
    refine wp_writeFailure hpast.announced fun past'' hpast' => ?_
    exact exitMeans_failed (.inl rfl) hpast'.announced

/-- From the accepted arguments on, the helper meets its obligations. -/
theorem restoreInHelper_wp {fuel : LoopFuel} {installed : Catalog} {parsed : RestoreArguments}
    (hparsed : parseRestoreArguments arguments = .ok parsed) (h : Announced appVersion past)
    (hnothing : helperSysCalls past = []) :
    wp (HelperObligation appVersion arguments) (HelperFinished appVersion arguments)
      (restoreInHelper fuel installed parsed : Prog HelperI ε Int) past := by
  unfold restoreInHelper
  rw [bind_eq, wp_bind]
  have hlookup : wp (fun _ e => LinuxOp.Silent e.op)
      (fun _ t => ∀ e ∈ t, LinuxOp.Silent e.op) (findTarget installed parsed.expected) [] := by
    refine wp_of_runs (findTarget_lookup installed parsed.expected)
      (fun _ _ _ he => LinuxOp.Lookup.silent he) fun t _ _ ht _ => ?_
    exact fun e he => LinuxOp.Lookup.silent (ht e he)
  have hsilent : CarriesPermission arguments ([] : List (Event SysI))
      (fun _ e => LinuxOp.Silent e.op) := by
    intro past e call hkept hcall hdestructive
    obtain ⟨o, ans⟩ := e
    cases o with
    | reporter o => cases hcall
    | sys o =>
      cases hcall
      exact absurd hdestructive (by rw [show SysOp.isDestructive o = false from hkept]; decide)
  refine wp_mono (wp_runInHelper hsilent hlookup h hnothing) (fun _ _ h => h) ?_
  rintro _ past' ⟨target, reporter, t, rfl, ht, hrun, hcarries⟩
  dsimp only
  cases target with
  | error error =>
    dsimp only
    rw [bind_eq, wp_bind]
    refine wp_writeFailure hcarries.announced fun past'' hpast' => ?_
    exact exitMeans_failed (.inl rfl) hpast'.announced
  | ok target =>
    obtain ⟨guard, disk⟩ := target
    have hbase : helperSysCalls past' = sysCalls t := hcarries.calls
    have hfound := findTarget_run hrun
    have huntouched := untouched_of_silent ht
    dsimp only
    rw [bind_eq, wp_bind]
    refine wp_mono (wp_runInHelper (hfound.carriesPermission hparsed)
      (performLinuxRestore_wp installed fuel _) hcarries.announced hbase) (fun _ _ h => h) ?_
    rintro _ past'' ⟨outcome, reporter', t', rfl, hfinished, hrun', hcarries'⟩
    dsimp only
    cases outcome with
    | error error =>
      refine reportFailure_wp hcarries'.announced fun hempty => ?_
      rw [hcarries'.calls]
      exact huntouched.append (hfinished.2 hempty).2
    | ok result =>
      dsimp only
      intro ans
      have hwrite : Announced appVersion past'' := hcarries'.announced
      refine ⟨helperObligation_of_write hwrite (.inr ⟨result.location, rfl⟩), ?_⟩
      refine
        { range := by decide
          cancelled := nofun
          failed := fun _ hne => absurd rfl hne
          succeeded := fun _ _ => ⟨result, ?_, ?_⟩ }
      · refine ⟨parsed, installed, fuel, guard, disk, hparsed, ?_, ?_⟩
        · rw [helperSysCalls_append, hcarries'.calls]
          exact (hfound.refreshed.append _).append _
        · rw [helperSysCalls_append, hcarries'.calls]
          exact ⟨sysCalls t, t', [], by simp [helperSysCalls, helperSysCall], hrun'⟩
      · exact ⟨past'', _, [], rfl, hwrite, rfl, rfl⟩

omit [Host] in
theorem activateInterfaceLanguage_aside (preference : Language) :
    (activateInterfaceLanguage preference : Prog HelperI ε (Bool × Catalog)).Satisfies
      HelperOp.Aside Returns := by
  unfold activateInterfaceLanguage
  split_ifs
  · refine .call trivial fun installed => ?_
    split
    · exact .returns _
    · exact .returns _
  · exact .returns _

/-- With the privileges, the helper parses and restores. -/
theorem servePrivileged_wp {fuel : LoopFuel} (h : Announced appVersion past)
    (hnothing : helperSysCalls past = []) :
    wp (HelperObligation appVersion arguments) (HelperFinished appVersion arguments)
      (servePrivileged fuel arguments : Prog HelperI ε Int) past := by
  have hrefuse : ∀ {past' : List (Event HelperI)} (message : QString),
      Announced appVersion past' →
      wp (HelperObligation appVersion arguments) (HelperFinished appVersion arguments)
        (do writeError message; return RestoreExitUsage : Prog HelperI ε Int) past' := by
    intro past' message h'
    rw [bind_eq, wp_bind]
    refine wp_aside (writeError_aside message) fun r t hr _ hwrites => ?_
    subst hr
    exact exitMeans_failed (.inr rfl) (h'.quiet hwrites)
  unfold servePrivileged
  refine wp_bind_op.mpr fun euid => ⟨helperObligation_of_silent rfl rfl, ?_⟩
  have hrooted : Announced appVersion (past ++ [⟨HelperOp.geteuid, euid⟩]) := h.quiet rfl
  dsimp only
  split_ifs with hroot
  · exact hrefuse _ hrooted
  · cases hparsed : parseRestoreArguments arguments with
    | error error => exact hrefuse _ hrooted
    | ok parsed =>
      dsimp only
      rw [bind_eq, wp_bind]
      refine wp_aside (activateInterfaceLanguage_aside parsed.displayLanguage)
        fun r t hr hcalls hwrites => ?_
      obtain ⟨⟨loaded, installed⟩, rfl⟩ := hr
      refine restoreInHelper_wp hparsed (hrooted.quiet hwrites) ?_
      rw [helperSysCalls_append, helperSysCalls_append, hcalls, hnothing]
      rfl

omit [Host] in
theorem catalogProbe_aside (arguments : List QString) :
    (catalogProbe arguments : Prog HelperI ε CatalogProbe).Satisfies HelperOp.Aside
      (fun r => ∃ probe, r = .ok probe ∧ (RequestsRestore arguments → probe = .notRequested)) := by
  unfold catalogProbe
  dsimp only
  split_ifs with hflag
  · exact ⟨_, rfl, fun _ => rfl⟩
  · have hunrequested : ¬RequestsRestore arguments := fun h => hflag h.2
    have hprobe : ∀ probe, ∃ probe', (Except.ok probe : Except ε CatalogProbe) = .ok probe' ∧
        (RequestsRestore arguments → probe' = .notRequested) :=
      fun probe => ⟨probe, rfl, fun h => absurd h hunrequested⟩
    have hloaded : ∀ language,
        (do
          let answer ← activateInterfaceLanguage language
          if !answer.1 then return .missingCatalog
          else return .ready (answer.2 .startup (QStringLiteral "Elevated permission required")) :
            Prog HelperI ε CatalogProbe).Satisfies HelperOp.Aside
          (fun r => ∃ probe, r = .ok probe ∧
            (RequestsRestore arguments → probe = .notRequested)) := by
      intro language
      refine .seq (activateInterfaceLanguage_aside language) fun loaded => ?_
      split_ifs
      · exact hprobe _
      · exact hprobe _
    split
    · split_ifs
      · exact hloaded .english
      · exact hloaded .german
      · exact hprobe _
    · exact hprobe _

omit [Host] in
/-- The first line. -/
theorem announced_first {t : List (Event HelperI)} (ht : writesOf t = []) (ans : Unit) :
    Announced appVersion
      (t ++ [(⟨HelperOp.writeStdout (lineBytes (versionMessage appVersion).encode), ans⟩ :
        Event HelperI)]) :=
  ⟨[], nofun, by rw [writesOf_append, ht]; rfl⟩

/-- The whole helper meets its obligations from an empty history on. -/
theorem helperMain_wp (fuel : LoopFuel) (appVersion : QString) (arguments : List QString) :
    wp (HelperObligation appVersion arguments) (HelperFinished appVersion arguments)
      (helperMain fuel appVersion arguments : Prog HelperI ε Int) [] := by
  have hannounce : ∀ {t : List (Event HelperI)} (ans : Unit), writesOf t = [] →
      HelperObligation appVersion arguments t
        ⟨HelperOp.writeStdout (lineBytes (versionMessage appVersion).encode), ans⟩ := by
    intro t ans ht
    refine ⟨nofun, nofun, fun bytes hbytes _ => ?_⟩
    cases hbytes
    exact .inl ⟨ht, rfl⟩
  unfold helperMain
  split_ifs with hversion
  · intro ans
    exact ⟨hannounce ans rfl, exitMeans_unrequested (by decide) fun h => h.1 hversion⟩
  · rw [bind_eq, wp_bind]
    refine wp_aside (catalogProbe_aside arguments) fun r t hr hcalls hwrites => ?_
    obtain ⟨probe, rfl, hrequested⟩ := hr
    rw [List.nil_append]
    dsimp only
    cases probe with
    | ready line =>
      have hunrequested : ¬RequestsRestore arguments := fun h => nomatch hrequested h
      intro ans
      refine ⟨⟨nofun, nofun, fun _ _ h => absurd h hunrequested⟩, ?_⟩
      exact exitMeans_unrequested (by decide) hunrequested
    | missingCatalog => exact exitMeans_unrequested (by decide) fun h => nomatch hrequested h
    | usage => exact exitMeans_unrequested (by decide) fun h => nomatch hrequested h
    | notRequested =>
      intro ans
      refine ⟨hannounce ans hwrites, servePrivileged_wp (announced_first hwrites ans) ?_⟩
      rw [helperSysCalls_append, hcalls]
      rfl

end

/-! ## Every run -/

section

variable [Host] {fuel : LoopFuel} {appVersion : QString} {arguments : List QString}
  {t : List (Event HelperI)} {r : Option (Except Empty Int)}

/-- Every call of every run meets its obligation, and the exit code of a run that ended means what
it says. -/
theorem helperMain_obligations (h : Runs (helperMain fuel appVersion arguments) t r) :
    (∀ before e after, t = before ++ e :: after →
      HelperObligation appVersion arguments before e) ∧
      ∀ code, r = some (.ok code) → ExitMeans appVersion arguments code t := by
  obtain ⟨hcalls, hfinished⟩ := wp_sound (helperMain_wp fuel appVersion arguments) h
  refine ⟨fun before e after ht => by simpa using hcalls before e after ht, ?_⟩
  rintro code rfl
  exact hfinished _ rfl

end

end UsbRestore
