-- SUMMARY: The client and the helper never disagree on how a restore has ended.
import UsbRestore.Helper.Cancellation
import UsbRestore.Linux.HeardMessages
import UsbRestore.Linux.ProcessRun

/-!
# How a restore has ended

The client judges a run by the lines it has read and by how the process has ended. Once it has waited for
the end it has read all that the helper ever wrote, so that its verdict is about what the helper did.
-/

namespace UsbRestore

open Prog

/-! ## What the client hears -/

theorem versionMessage_isSayable {appVersion : QString} (h : Utf8.IsWellFormed appVersion) :
    (versionMessage appVersion).IsSayable :=
  ⟨by decide, h, by decide⟩

theorem HelperMessage.IsReport.isSayable {message : HelperMessage} (h : message.IsReport) :
    message.IsSayable := by
  cases message with
  | version number appVersion plan => exact h.elim
  | step done total message => exact h
  | detail message => trivial
  | failure message => trivial
  | result location => exact h.elim

/-- No report is taken for a result. -/
theorem HelperMessage.IsReport.heard_kind {message : HelperMessage} (h : message.IsReport) :
    message.heard.kind ≠ .result := by
  cases message with
  | version number appVersion plan => exact h.elim
  | step done total message => exact fun hkind => by cases hkind
  | detail message => exact fun hkind => by cases hkind
  | failure message => exact fun hkind => by cases hkind
  | result location => exact h.elim

section

variable {inputs : List SessionInput} {reads : List (List UInt8)}

/-- The lines of a kind that the client reads are those of the messages of that kind that were
written, however the bytes of the pipe were cut. -/
theorem linesOfKind_heard (hlines : inputLines inputs = readHelperLines [] reads)
    {messages : List HelperMessage} (hsayable : ∀ message ∈ messages, message.IsSayable)
    (hreads : reads.flatten = messages.flatMap fun message => lineBytes message.encode)
    (kind : ProtocolLineKind) :
    linesOfKind kind inputs =
      (messages.map HelperMessage.heard).filter fun parsed => parsed.kind = kind := by
  unfold linesOfKind
  rw [hlines, readHelperLines_heard messages reads hsayable hreads]

/-- From a helper that has written nothing there is no announcement. -/
theorem versionLines_of_silence (hlines : inputLines inputs = readHelperLines [] reads)
    (hreads : reads.flatten = []) : versionLines inputs = [] :=
  linesOfKind_heard hlines (fun _ h => absurd h List.not_mem_nil) hreads .version

/-- An announcement is heard, whatever comes after it and however it breaks off. -/
theorem versionLines_of_announced {appVersion : QString} (hversion : Utf8.IsWellFormed appVersion)
    (hlines : inputLines inputs = readHelperLines [] reads)
    (hreads : lineBytes (versionMessage appVersion).encode <+: reads.flatten) :
    versionLines inputs ≠ [] := by
  have hvalid : (versionMessage appVersion).IsValid := versionMessage_isSayable hversion
  obtain ⟨more, hmore⟩ := hreads
  have hstream : [] ++ reads.flatten = messageBytes (versionMessage appVersion) ++ newline :: more := by
    rw [List.nil_append, ← hmore]
    simp [lineBytes, messageBytes]
  obtain ⟨rest, hrest⟩ := readHelperLines_first (messageBytes_isBufferedLine hvalid) List.not_mem_nil hstream
  unfold versionLines linesOfKind
  rw [hlines, hrest, List.map_cons, parseProtocolLine_messageBytes hvalid, List.filter_cons_of_pos rfl]
  exact List.cons_ne_nil _ _

/-- The result of a helper that says nothing after it. -/
theorem lastResult_of_announcedResult {appVersion location : QString}
    (hversion : Utf8.IsWellFormed appVersion) {calls : List (Event HelperI)}
    (hannounced : AnnouncedResult appVersion location calls)
    (hlines : inputLines inputs = readHelperLines [] reads)
    (hreads : reads.flatten = (writesOf calls).flatten) :
    lastResult inputs = some (heardText location) := by
  obtain ⟨before, event, after, rfl, ⟨reports, hreports, hbefore⟩, hresult, hafter⟩ := hannounced
  have hwrites : writesOf (before ++ event :: after) =
      (versionMessage appVersion :: reports ++ [HelperMessage.result location]).map
        fun message => lineBytes message.encode := by
    have hevent : writesOf (event :: after) = [lineBytes (HelperMessage.result location).encode] := by
      unfold writesOf at hafter ⊢
      rw [List.filterMap_cons_some hresult, hafter]
    rw [writesOf_append, hbefore, hevent, List.map_append]
    rfl
  have hsayable : ∀ message ∈ versionMessage appVersion :: reports ++ [HelperMessage.result location],
      message.IsSayable := by
    intro message hmessage
    rcases List.mem_append.mp hmessage with hmessage | hmessage
    · rcases List.mem_cons.mp hmessage with rfl | hreport
      · exact versionMessage_isSayable hversion
      · exact (hreports message hreport).isSayable
    · rw [List.mem_singleton.mp hmessage]
      trivial
  have hheard := linesOfKind_heard hlines hsayable
    (hreads.trans (by rw [hwrites, ← List.flatMap_def])) .result
  have hnone : ((versionMessage appVersion :: reports).map HelperMessage.heard).filter
      (fun parsed => parsed.kind = .result) = [] := by
    rw [List.filter_eq_nil_iff]
    intro parsed hparsed
    obtain ⟨message, hmessage, rfl⟩ := List.mem_map.mp hparsed
    rcases List.mem_cons.mp hmessage with rfl | hreport
    · exact fun hkind => by cases of_decide_eq_true hkind
    · exact fun hkind => (hreports message hreport).heard_kind (of_decide_eq_true hkind)
  unfold lastResult
  rw [hheard, List.map_append, List.filter_append, hnone, List.nil_append]
  exact congrArg some (sanitizeProtocolText_heardText location)

end

/-! ## Levers -/

section

open HelperSession

variable {installed : Catalog} {appVersion : QString} {inputs : List SessionInput}

/-- Announcements that are not the sole and right one compromise the helper. -/
theorem compromised_of_refused (hsome : versionLines inputs ≠ [])
    (hrefused : ¬SoleAnnouncement appVersion inputs) : Compromised appVersion inputs := by
  cases hlines : versionLines inputs with
  | nil => exact absurd hlines hsome
  | cons first rest =>
    cases rest with
    | nil =>
      refine .inl ⟨first, ?_, fun haccepted => hrefused ⟨first, hlines, haccepted⟩⟩
      rw [hlines]
      exact List.mem_singleton_self first
    | cons second rest =>
      refine .inr ?_
      rw [hlines]
      simp

/-- The client pulls a lever for the user, or because the helper is not the one it expects. -/
structure LeversAsked (appVersion : QString) (inputs : List SessionInput) (session : HelperSession) :
    Prop where
  token : session.cancelTokenWritten = true →
    true ∈ inputPolls inputs ∨ Compromised appVersion inputs
  kill : session.killRequested = true → true ∈ inputPolls inputs

/-- A line that touches neither lever leaves what was asked of them. -/
theorem LeversAsked.line {session session' : HelperSession}
    (h : LeversAsked appVersion inputs session) (line : QString)
    (htoken : session'.cancelTokenWritten = session.cancelTokenWritten)
    (hkill : session'.killRequested = session.killRequested) :
    LeversAsked appVersion (inputs ++ [.line line]) session' := by
  have hpolls : inputPolls (inputs ++ [.line line]) = inputPolls inputs := by
    simp [inputPolls, inputPoll]
  refine ⟨fun hwritten => ?_, fun hkilled => ?_⟩
  · rw [hpolls]
    exact (h.token (htoken.symm.trans hwritten)).imp id fun h => h.append _
  · rw [hpolls]
    exact h.kill (hkill.symm.trans hkilled)

/-- A poll pulls a lever only where that is asked for. -/
theorem LeversAsked.poll {session : HelperSession} (h : LeversAsked appVersion inputs session)
    (requested : Bool) :
    LeversAsked appVersion (inputs ++ [.poll requested]) (session.poll requested) := by
  have hpolls : inputPolls (inputs ++ [.poll requested]) = inputPolls inputs ++ [requested] := by
    simp [inputPolls, inputPoll]
  have hmore : true ∈ inputPolls inputs → true ∈ inputPolls (inputs ++ [.poll requested]) := by
    rw [hpolls]
    exact List.mem_append_left _
  have hkept : LeversAsked appVersion (inputs ++ [.poll requested]) session :=
    ⟨fun hwritten => (h.token hwritten).imp hmore fun h => h.append _,
      fun hkilled => hmore (h.kill hkilled)⟩
  unfold HelperSession.poll
  split
  · next hrequested =>
    have hasked : true ∈ inputPolls (inputs ++ [.poll requested]) := by
      rw [hpolls, hrequested.1]
      simp
    split
    · exact ⟨fun _ => .inl hasked, hkept.kill⟩
    · exact ⟨hkept.token, fun _ => hasked⟩
  · exact hkept

theorem announce_levers (installed : Catalog) (appVersion : QString) (session : HelperSession)
    (parsed : ProtocolLine) :
    (session.announce installed appVersion parsed).cancelTokenWritten = session.cancelTokenWritten ∧
      (session.announce installed appVersion parsed).killRequested = session.killRequested := by
  unfold HelperSession.announce
  split
  · exact ⟨rfl, rfl⟩
  · split
    · exact ⟨rfl, rfl⟩
    · exact ⟨rfl, rfl⟩

theorem explain_levers (session : HelperSession) (text : QString) :
    (session.explain text).cancelTokenWritten = session.cancelTokenWritten ∧
      (session.explain text).killRequested = session.killRequested := by
  unfold HelperSession.explain
  split
  · exact ⟨rfl, rfl⟩
  · exact ⟨rfl, rfl⟩

/-- A version line that is refused is the reason to write the token. -/
theorem LeversAsked.version (h : LeversAsked appVersion inputs (after installed appVersion inputs))
    {line : QString} (hkind : (parseProtocolLine line).kind = .version) :
    LeversAsked appVersion (inputs ++ [.line line])
      (after installed appVersion (inputs ++ [.line line])) := by
  have hlaws := sessionLaws installed appVersion (inputs ++ [.line line])
  have hsome : versionLines (inputs ++ [.line line]) ≠ [] := by
    unfold versionLines
    rw [linesOfKind_line_self hkind]
    simp
  have hlevers := announce_levers installed appVersion (after installed appVersion inputs)
    (parseProtocolLine line)
  have hkept := h.line line hlevers.1 hlevers.2
  have hnext : after installed appVersion (inputs ++ [.line line]) =
      (let session :=
        (after installed appVersion inputs).announce installed appVersion (parseProtocolLine line)
       if !session.versionAccepted then { session with cancelTokenWritten := true } else session) := by
    rw [after_concat]
    unfold HelperSession.next HelperSession.hear
    dsimp only
    rw [hkind]
  dsimp only at hnext
  split at hnext
  · next hrefused =>
    rw [hnext]
    refine ⟨fun _ => .inr (compromised_of_refused hsome fun hsole => ?_), hkept.kill⟩
    have haccepted := hlaws.accepted.mpr hsole
    rw [hnext] at haccepted
    rw [haccepted] at hrefused
    cases hrefused
  · rw [hnext]
    exact hkept

/-- Whatever is heard, the token was written and the kill was requested only if what was heard asked
for it. -/
theorem leversAsked (installed : Catalog) (appVersion : QString) (inputs : List SessionInput) :
    LeversAsked appVersion inputs (after installed appVersion inputs) := by
  induction inputs using List.reverseRecOn with
  | nil => exact ⟨fun h => (by cases h), fun h => (by cases h)⟩
  | append_singleton inputs input ih =>
    cases input with
    | poll requested =>
      rw [after_concat]
      exact ih.poll requested
    | line line =>
      cases hkind : (parseProtocolLine line).kind with
      | version => exact ih.version hkind
      | failure =>
        have hlevers := explain_levers (after installed appVersion inputs) (parseProtocolLine line).text
        rw [after_concat]
        refine ih.line line ?_ ?_
        · simp [HelperSession.next, HelperSession.hear, hkind, hlevers.1]
        · simp [HelperSession.next, HelperSession.hear, hkind, hlevers.2]
      | _ =>
        rw [after_concat]
        refine ih.line line ?_ ?_
        · simp [HelperSession.next, HelperSession.hear, hkind]
        · simp [HelperSession.next, HelperSession.hear, hkind]

end

/-! ## Verdicts -/

namespace RestoreProcesses

section

variable [Host] {launch : RestoreLaunch} {s : RestoreProcesses}

/-- A client that has returned has judged the whole run of a process that has ended. -/
structure Judged (launch : RestoreLaunch) (s : RestoreProcesses)
    (outcome : Except RestoreMessage RestoreResult) (inputs : List SessionInput) (crashed : Bool)
    (exitCode : Int) : Prop where
  stage : s.stage = .ended crashed exitCode
  lines : inputLines inputs = readHelperLines [] (clientReads s.clientCalls)
  whole : s.output = (clientReads s.clientCalls).flatten
  earned : Earned launch.appVersion s.clientCalls inputs crashed exitCode outcome
  token : tokenWrites s.clientCalls ≠ 0 → SoleAnnouncement launch.appVersion inputs →
    true ∈ clientPolls s.clientCalls
  kill : sentKill s.clientCalls = true → true ∈ clientPolls s.clientCalls

/-- What the client returned is that no helper was started, or its judgement on the lines it read
and the end it was told of. -/
theorem Sound.judged (h : Sound launch s) {outcome : Except RestoreMessage RestoreResult}
    (hreturned : Runs (begun launch).client s.clientCalls (some outcome)) :
    NeverStarted outcome ∨ ∃ inputs crashed exitCode, Judged launch s outcome inputs crashed exitCode := by
  have hverdict := (wp_sound (runHelperRestore_wp launch.turns launch.uiLanguages) hreturned).2 _ rfl
  have hdrained := (wp_sound (runHelperRestore_drained launch.uiLanguages) hreturned).2 _ rfl
  rcases hverdict with hnever | ⟨inputs, crashed, exitCode, standardError, hheld, rfl⟩
  · exact .inl hnever
  rcases hdrained with hnever | hdrained
  · exact .inl hnever
  rw [List.nil_append] at hheld hdrained
  obtain ⟨before, hcalls⟩ := hheld.ended
  obtain ⟨exitCode', hstage⟩ := h.crashed ⟨ClientOp.crashed, crashed⟩ (by simp [← hcalls]) crashed rfl
  obtain ⟨crashed', hstage'⟩ := h.exitCode ⟨ClientOp.exitCode, exitCode⟩ (by simp [← hcalls]) exitCode rfl
  obtain ⟨rfl, rfl⟩ : crashed = crashed' ∧ exitCode' = exitCode := by
    rw [hstage] at hstage'
    cases hstage'
    exact ⟨rfl, rfl⟩
  have hlevers := leversAsked launch.installed launch.appVersion inputs
  refine .inr ⟨inputs, crashed, exitCode', hstage, hheld.lines, ?_, hheld.earned, ?_, ?_⟩
  · unfold output
    rw [h.drained hdrained, List.append_nil]
  · intro hwritten hsole
    rw [hheld.token] at hwritten
    split at hwritten
    · next htoken =>
      rcases hlevers.token htoken with hasked | hcompromised
      · exact hheld.polls ▸ hasked
      · have hlaws := sessionLaws launch.installed launch.appVersion inputs
        cases (hlaws.accepted.mpr hsole).symm.trans (hlaws.refusal hcompromised).1
    · exact absurd rfl hwritten
  · intro hkill
    exact hheld.polls ▸ hlevers.kill (hheld.kill.symm.trans hkill)

/-- The helper has done no system call before its announcement. -/
theorem helperSysCall_of_unannounced (hversion : Utf8.IsWellFormed launch.appVersion)
    {calls : List (Event HelperI)} {left : Prog HelperI Empty Int} (hrun : Left launch.helper calls left)
    {inputs : List SessionInput} {reads : List (List UInt8)}
    (hlines : inputLines inputs = readHelperLines [] reads)
    (hwrote : (writesOf calls).flatten <+: reads.flatten) (hsilent : versionLines inputs = []) :
    ∀ e ∈ calls, helperSysCall e = none := by
  intro e he
  obtain ⟨before, after, rfl⟩ := List.append_of_mem he
  cases hcall : helperSysCall e with
  | none => rfl
  | some call =>
    have hobligation := (helperMain_obligations hrun.run).1 before e after rfl
    obtain ⟨reports, -, hwrites⟩ := hobligation.1 call hcall
    refine absurd hsilent (versionLines_of_announced hversion hlines (List.IsPrefix.trans ?_ hwrote))
    rw [writesOf_append, hwrites, List.map_cons, List.cons_append, List.flatten_cons]
    exact List.prefix_append _ _

/-- What the client returns and what the helper has done. -/
structure Agreed (launch : RestoreLaunch) (s : RestoreProcesses) : Prop where
  /-- A failure without a text is returned when the user has asked to stop, for a process that has
  ended and has changed nothing. -/
  cancelled : ∀ error, s.client = .fail error → error.english = [] →
    s.ended = true ∧ true ∈ clientPolls s.clientCalls ∧
      ∀ e ∈ s.helperCalls, helperChangesDisk e = false
  /-- A success is that of the restore in the helper. -/
  succeeded : ∀ result, s.client = .ret result → s.stage = .ended false RestoreExitSuccess ∧
    ∃ produced, Restored launch.arguments produced (helperSysCalls s.helperCalls) ∧
      result.location = heardText produced.location
  /-- A restore that has changed something and did not end is explained. -/
  incomplete : (∃ e ∈ s.helperCalls, helperChangesDisk e = true) →
    (¬∃ produced, Restored launch.arguments produced (helperSysCalls s.helperCalls)) →
    (∀ result, s.client ≠ .ret result) ∧ ∀ error, s.client = .fail error → error.english ≠ []

omit [Host] in
/-- Calls that ask nothing of the system change no disk. -/
theorem helperChangesDisk_of_silent {calls : List (Event HelperI)}
    (h : ∀ e ∈ calls, helperSysCall e = none) : ∀ e ∈ calls, helperChangesDisk e = false := by
  intro e he
  unfold helperChangesDisk
  rw [h e he]

/-- A token that the helper has read was written by the client. -/
theorem Sound.tokenWritten (h : Sound launch s) (hread : TokenRead s.helperCalls) :
    tokenWrites s.clientCalls ≠ 0 := by
  intro hnone
  have hcalls := ((begun_calls launch).runs h.left.run).1
  have hsent : (stdinReads s.helperCalls).flatten <+: (clientWrites s.clientCalls).flatten :=
    ⟨s.stdin, h.stdin⟩
  cases hread.symm.trans (containsToken_of_unwritten hcalls hnone hsent)

/-- A failure without a text is a cancellation in time, and the user has asked for it. -/
theorem Sound.cancelled (h : Sound launch s) (hversion : Utf8.IsWellFormed launch.appVersion)
    {error : RestoreMessage} (hfailed : s.client = .fail error) (hnil : error.english = []) :
    s.ended = true ∧ true ∈ clientPolls s.clientCalls ∧
      ∀ e ∈ s.helperCalls, helperChangesDisk e = false := by
  have hleft := h.left
  rw [hfailed] at hleft
  rcases h.judged hleft.failed with ⟨message, hmessage, hne⟩ | ⟨inputs, crashed, exitCode, hjudged⟩
  · cases hmessage
    exact absurd hnil hne
  refine ⟨ended_of_stage hjudged.stage, ?_⟩
  have hidle : s.helperCalls = [] → ∀ e ∈ s.helperCalls, helperChangesDisk e = false := by
    intro hcalls e he
    rw [hcalls] at he
    cases he
  have hstatus := h.status
  rw [hjudged.stage] at hstatus
  rcases hjudged.earned with hne | ⟨hnormal, hexit, hsole⟩ | ⟨hkill, hsilent, hdied⟩
  · exact absurd hnil hne
  · -- The helper says itself that it was cancelled.
    cases hstatus with
    | refused _ _ idle silent =>
      obtain ⟨line, hline, -⟩ := hsole
      rw [hjudged.whole] at silent
      cases hline.symm.trans (versionLines_of_silence hjudged.lines silent)
    | exited _ run wrote =>
      have hmeans := (helperMain_obligations run.returned).2 _ rfl
      have hreads : wp (fun _ _ => True) ExitRead launch.helper [] := helperMain_read _ _ _
      have hread : TokenRead s.helperCalls := (wp_sound hreads run.returned).2 _ rfl hexit
      exact ⟨hjudged.token (h.tokenWritten hread) hsole,
        helperChangesDisk_of_untouched (hmeans.cancelled hexit)⟩
    | crashed _ left run wrote => cases hnormal
  · -- It was never heard of.
    refine ⟨hjudged.kill hkill, ?_⟩
    cases hstatus with
    | refused _ _ idle silent => exact hidle idle
    | exited _ run wrote =>
      have hmeans := (helperMain_obligations run.returned).2 _ rfl
      have hrange := hmeans.range
      rcases hdied with hcrashed | hexit
      · cases hcrashed
      · omega
    | crashed _ left run wrote =>
      rw [hjudged.whole] at wrote
      exact helperChangesDisk_of_silent
        (helperSysCall_of_unannounced hversion run hjudged.lines wrote hsilent)

/-- Where the client returned a result, the helper has ended on its own with the code of success. -/
theorem Sound.succeeded (h : Sound launch s) (hversion : Utf8.IsWellFormed launch.appVersion)
    {result : RestoreResult} (hreturned : s.client = .ret result) :
    s.stage = .ended false RestoreExitSuccess ∧
      ∃ produced, Restored launch.arguments produced (helperSysCalls s.helperCalls) ∧
        result.location = heardText produced.location := by
  have hleft := h.left
  rw [hreturned] at hleft
  rcases h.judged hleft.returned with ⟨message, hmessage, -⟩ | ⟨inputs, crashed, exitCode, hjudged⟩
  · cases hmessage
  obtain ⟨hnormal, hexit, ⟨line, hline, -⟩, hlast, -⟩ := hjudged.earned
  have hstatus := h.status
  rw [hjudged.stage, hjudged.whole] at hstatus
  cases hstatus with
  | refused _ _ idle silent =>
    -- Nobody has announced anything.
    cases hline.symm.trans (versionLines_of_silence hjudged.lines silent)
  | exited _ run wrote =>
    have hmeans := (helperMain_obligations run.returned).2 _ rfl
    obtain ⟨produced, hrestored, hannounced⟩ := hmeans.succeeded launch.requestsRestore hexit
    refine ⟨by rw [hjudged.stage, hexit], produced, hrestored, ?_⟩
    exact Option.some.inj
      (hlast.symm.trans (lastResult_of_announcedResult hversion hannounced hjudged.lines wrote))
  | crashed _ left run wrote => cases hnormal

/-- The client and the helper never disagree about the outcome, whatever happens in whatever order. -/
theorem reachable_agreed (hversion : Utf8.IsWellFormed launch.appVersion) (h : Reachable launch s) :
    s.Agreed launch := by
  have hsound := h.sound
  refine ⟨fun error hfailed hnil => hsound.cancelled hversion hfailed hnil,
    fun result hreturned => hsound.succeeded hversion hreturned, fun hchanged hunfinished => ⟨?_, ?_⟩⟩
  · intro result hreturned
    obtain ⟨-, produced, hrestored, -⟩ := hsound.succeeded hversion hreturned
    exact hunfinished ⟨produced, hrestored⟩
  · intro error hfailed hnil
    obtain ⟨e, he, hchanges⟩ := hchanged
    cases hchanges.symm.trans ((hsound.cancelled hversion hfailed hnil).2.2 e he)

/-! ### What is left when the client has returned -/

/-- No process is at work. Of one that was not started in time nothing is known. -/
def Quiet (s : RestoreProcesses) : Prop :=
  s.ended = true ∨ s.stage = .unstarted ∨ ∃ program arguments ms,
    (⟨ClientOp.start program arguments ms, false⟩ : Event ClientI) ∈ s.clientCalls

/-- Where the client has not asked for a start, no process was started. -/
theorem Reachable.unstarted (h : Reachable launch s)
    (hnone : ∀ program arguments ms, ∀ started : Bool,
      (⟨ClientOp.start program arguments ms, started⟩ : Event ClientI) ∉ s.clientCalls) :
    s.stage = .unstarted := by
  induction h with
  | begun => rfl
  | @step s s' before next acts ih =>
    cases next with
    | client answer =>
      unfold RestoreProcesses.act at acts
      dsimp only at acts
      split at acts
      · next o next hclient =>
        obtain ⟨s'', hanswer, rfl⟩ := Option.map_eq_some_iff.mp acts
        obtain ⟨hcalls, hkept⟩ := answerClient_keeps hanswer
        have hstage : s''.stage = s.stage := by
          refine hkept fun program arguments ms hstart => ?_
          subst hstart
          exact hnone program arguments ms _ (List.mem_append_right _ (List.mem_singleton_self _))
        refine hstage.trans (ih fun program arguments ms started he => ?_)
        rw [← hcalls] at he
        exact hnone program arguments ms started (List.mem_append_left _ he)
      · cases acts
    | _ =>
      have hcalls := clientCalls_of_act (fun _ h => by cases h) acts
      rw [hcalls] at hnone
      unfold RestoreProcesses.act at acts
      rw [ih hnone] at acts
      cases acts

/-- After the client has returned, nothing is at work. -/
theorem Reachable.quiet (h : Reachable launch s) {outcome : Except RestoreMessage RestoreResult}
    (hreturned : Runs (RestoreProcesses.begun launch).client s.clientCalls (some outcome)) :
    s.Quiet := by
  have hends := (wp_sound (runHelperRestore_ends launch.uiLanguages) hreturned).2 _ rfl
  rcases hends with hrefused | hdrained
  · by_cases hstarted : ∃ program arguments ms, ∃ started : Bool,
        (⟨ClientOp.start program arguments ms, started⟩ : Event ClientI) ∈ s.clientCalls
    · obtain ⟨program, arguments, ms, started, he⟩ := hstarted
      obtain rfl := hrefused program arguments ms started he
      exact .inr (.inr ⟨program, arguments, ms, he⟩)
    · refine .inr (.inl (h.unstarted fun program arguments ms started he => ?_))
      exact hstarted ⟨program, arguments, ms, started, he⟩
  · obtain ⟨before, read, after, hcalls⟩ := hdrained
    have hwait : (⟨ClientOp.waitForFinished, ()⟩ : Event ClientI) ∈ s.clientCalls := by
      rw [show s.clientCalls = _ from hcalls]
      simp
    exact .inl (h.sound.waited (h.sound.noticed _ hwait rfl))

end

end RestoreProcesses

end UsbRestore
