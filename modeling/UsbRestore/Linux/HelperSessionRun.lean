-- SUMMARY: Every run of the client is the session machine on the lines that it has read.
import UsbRestore.Linux.Footprint
import UsbRestore.Linux.HelperSession
import UsbRestore.Linux.UnplugBoundary

/-!
# Runs of the client

The history of a run says of the two levers what the session says, and the session is where the
machine is after the lines read so far. So the laws of the machine are laws of the client.
-/

namespace UsbRestore

open Prog HelperSession

/-! ## Histories -/

def isTokenWrite : Event ClientI → Bool
  | ⟨ClientOp.write bytes, _⟩ => bytes == CancelRequestToken
  | _ => false

/-- How often the cancel token was written. -/
def tokenWrites (t : List (Event ClientI)) : Nat := t.countP isTokenWrite

def clientRead : Event ClientI → Option (List UInt8)
  | ⟨ClientOp.readStandardOutput, bytes⟩ => some bytes
  | _ => none

/-- What was read of the helper's output, read by read. -/
def clientReads (t : List (Event ClientI)) : List (List UInt8) := t.filterMap clientRead

def clientPoll : Event ClientI → Option Bool
  | ⟨ClientOp.cancelRequested, requested⟩ => some requested
  | _ => none

/-- The answers to the question whether to stop. -/
def clientPolls (t : List (Event ClientI)) : List Bool := t.filterMap clientPoll

def isKill : Event ClientI → Bool
  | ⟨ClientOp.kill, _⟩ => true
  | _ => false

/-- Whether a SIGKILL was sent. -/
def sentKill (t : List (Event ClientI)) : Bool := t.any isKill

/-- The lines complete so far, and the bytes behind them. -/
def takeReads (reads : List (List UInt8)) : List QString × List UInt8 :=
  reads.foldl (fun taken read =>
    let (lines, buffer) := takeCompleteLines (taken.2 ++ read)
    (taken.1 ++ lines, buffer)) ([], [])

/-- One read more: the lines it completes, and what it leaves in the buffer. -/
theorem takeReads_concat (reads : List (List UInt8)) (read : List UInt8) :
    takeReads (reads ++ [read]) =
      ((takeReads reads).1 ++ (takeCompleteLines ((takeReads reads).2 ++ read)).1,
        (takeCompleteLines ((takeReads reads).2 ++ read)).2) :=
  List.foldl_append

/-- With the flushed rest they are all the lines there are. -/
theorem takeReads_flush (reads : List (List UInt8)) :
    (takeReads reads).1 ++ flushBuffer (takeReads reads).2 = readHelperLines [] reads := by
  have hgen : ∀ (taken : List QString × List UInt8),
      (reads.foldl (fun taken read =>
        let (lines, buffer) := takeCompleteLines (taken.2 ++ read)
        (taken.1 ++ lines, buffer)) taken).1 ++
      flushBuffer (reads.foldl (fun taken read =>
        let (lines, buffer) := takeCompleteLines (taken.2 ++ read)
        (taken.1 ++ lines, buffer)) taken).2 = taken.1 ++ readHelperLines taken.2 reads := by
    induction reads with
    | nil => exact fun _ => rfl
    | cons read reads ih =>
      intro taken
      rw [List.foldl_cons, ih, readHelperLines, List.append_assoc]
  exact hgen ([], [])

theorem clientReads_concat (past : List (Event ClientI)) (e : Event ClientI) :
    clientReads (past ++ [e]) = clientReads past ++ (clientRead e).toList := by
  rw [clientReads, List.filterMap_append]
  cases h : clientRead e with
  | none => simp [clientReads, h]
  | some read => simp [clientReads, h]

theorem clientPolls_concat (past : List (Event ClientI)) (e : Event ClientI) :
    clientPolls (past ++ [e]) = clientPolls past ++ (clientPoll e).toList := by
  rw [clientPolls, List.filterMap_append]
  cases h : clientPoll e with
  | none => simp [clientPolls, h]
  | some requested => simp [clientPolls, h]

theorem tokenWrites_concat (past : List (Event ClientI)) (e : Event ClientI) :
    tokenWrites (past ++ [e]) = tokenWrites past + if isTokenWrite e then 1 else 0 := by
  rw [tokenWrites, List.countP_append, List.countP_singleton]
  rfl

theorem sentKill_concat (past : List (Event ClientI)) (e : Event ClientI) :
    sentKill (past ++ [e]) = (sentKill past || isKill e) := by
  rw [sentKill, List.any_append]
  simp [sentKill]

/-- A read, or a question to the user. -/
def IsExchange (e : Event ClientI) : Prop := (clientRead e).isSome ∨ (clientPoll e).isSome

/-- The cancel token goes out at most once, and it is out before the next read or question when the
complete lines so far tell of a refused version or a second one. -/
structure ClientObligation (appVersion : QString) (past : List (Event ClientI))
    (e : Event ClientI) : Prop where
  once : isTokenWrite e = true → tokenWrites past = 0
  prompt : IsExchange e →
    Compromised appVersion ((takeReads (clientReads past)).1.map .line) → tokenWrites past = 1

/-- The history says of the two levers what the session says. -/
structure LeversMatch (session : HelperSession) (past : List (Event ClientI)) : Prop where
  token : tokenWrites past = if session.cancelTokenWritten then 1 else 0
  kill : sentKill past = session.killRequested

/-- A part of the client that neither reads nor asks the user, and ends in `session`. -/
structure Heard (session : HelperSession) (past past' : List (Event ClientI)) : Prop where
  reads : clientReads past' = clientReads past
  polls : clientPolls past' = clientPolls past
  levers : LeversMatch session past'

/-- A call that is neither a read, a question, a kill nor the token. -/
structure IsPlainCall (e : Event ClientI) : Prop where
  token : isTokenWrite e = false
  read : clientRead e = none
  poll : clientPoll e = none
  kill : isKill e = false

theorem LeversMatch.plain {session : HelperSession} {past : List (Event ClientI)}
    (h : LeversMatch session past) {e : Event ClientI} (he : IsPlainCall e) :
    Heard session past (past ++ [e]) := by
  refine ⟨?_, ?_, ?_, ?_⟩
  · rw [clientReads_concat, he.read]
    exact List.append_nil _
  · rw [clientPolls_concat, he.poll]
    exact List.append_nil _
  · rw [tokenWrites_concat, he.token]
    exact h.token
  · rw [sentKill_concat, he.kill, Bool.or_false]
    exact h.kill

theorem IsPlainCall.obligation {past : List (Event ClientI)} {e : Event ClientI}
    (he : IsPlainCall e) (appVersion : QString) : ClientObligation appVersion past e := by
  refine ⟨fun htoken => ?_, fun hexchange => ?_⟩
  · rw [he.token] at htoken
    cases htoken
  · rw [IsExchange, he.read, he.poll] at hexchange
    rcases hexchange with h | h
    · cases h
    · cases h

section Runs

variable {ε : Type} {installed : Catalog} {appVersion : QString} {request : RestoreRequest}
  {session : HelperSession} {past : List (Event ClientI)}

/-- Ends in `session'`, having neither read nor asked. -/
def EndsHeard (session' : HelperSession) (past : List (Event ClientI)) :
    Except ε HelperSession → List (Event ClientI) → Prop :=
  fun r past' => r = .ok session' ∧ Heard session' past past'

/-- Asking the helper to stop writes the token, unless it was written before. -/
theorem askHelperToStop_wp (h : LeversMatch session past) :
    wp (ClientObligation appVersion) (EndsHeard { session with cancelTokenWritten := true } past)
      (session.askHelperToStop : Prog ClientI ε HelperSession) past := by
  unfold HelperSession.askHelperToStop
  split_ifs with hwritten
  · have hsame : { session with cancelTokenWritten := true } = session := by rw [← hwritten]
    rw [hsame]
    exact ⟨rfl, rfl, rfl, h⟩
  · have hnone : tokenWrites past = 0 := by simpa [hwritten] using h.token
    refine wp_bind_op.mpr fun _ => ⟨⟨fun _ => hnone, nofun⟩, ?_⟩
    refine wp_bind_op.mpr fun _ => ⟨?_, rfl, ?_⟩
    · exact IsPlainCall.obligation ⟨rfl, rfl, rfl, rfl⟩ _
    · refine ⟨?_, ?_, ?_, ?_⟩
      · simp [clientReads, clientRead]
      · simp [clientPolls, clientPoll]
      · rw [tokenWrites, List.countP_append, List.countP_append, ← tokenWrites, hnone]
        simp +decide [isTokenWrite]
      · simpa [sentKill, isKill] using h.kill

/-- A plain call before the end of a line's handling. -/
theorem wp_plainCall {o : ClientOp} (h : LeversMatch session past)
    (ho : ∀ ans, IsPlainCall ⟨o, ans⟩) :
    wp (ClientObligation appVersion) (EndsHeard session past)
      (clientCall o >>= fun _ => pure session : Prog ClientI ε HelperSession) past :=
  wp_bind_op.mpr fun ans => ⟨(ho ans).obligation _, rfl, h.plain (ho ans)⟩

theorem hear_nil : session.hear installed appVersion [] = session := rfl

/-- A line is handled as the machine handles it. -/
theorem consumeLine_wp (h : LeversMatch session past) (line : QString) :
    wp (ClientObligation appVersion) (EndsHeard (session.hear installed appVersion line) past)
      (session.consumeLine installed appVersion request line : Prog ClientI ε HelperSession)
      past := by
  have hsame : ∀ session' : HelperSession,
      session'.cancelTokenWritten = session.cancelTokenWritten →
      session'.killRequested = session.killRequested → LeversMatch session' past := by
    intro session' htoken hkill
    exact ⟨by rw [htoken]; exact h.token, by rw [hkill]; exact h.kill⟩
  have hreturn : ∀ session' : HelperSession,
      session'.cancelTokenWritten = session.cancelTokenWritten →
      session'.killRequested = session.killRequested →
      wp (ClientObligation appVersion) (EndsHeard session' past)
        (pure session' : Prog ClientI ε HelperSession) past :=
    fun session' htoken hkill => ⟨rfl, rfl, rfl, hsame session' htoken hkill⟩
  unfold HelperSession.consumeLine
  split_ifs with hempty
  · rw [List.isEmpty_iff.mp hempty, hear_nil]
    exact hreturn session rfl rfl
  unfold HelperSession.hear
  dsimp only
  cases hkind : (parseProtocolLine line).kind with
  | version =>
    have hlevers : ((session.announce installed appVersion
          (parseProtocolLine line)).cancelTokenWritten = session.cancelTokenWritten) ∧
        (session.announce installed appVersion (parseProtocolLine line)).killRequested =
          session.killRequested := by
      unfold HelperSession.announce
      split_ifs
      · exact ⟨rfl, rfl⟩
      · split <;> exact ⟨rfl, rfl⟩
    dsimp only
    split_ifs
    · exact askHelperToStop_wp (hsame _ hlevers.1 hlevers.2)
    · exact hreturn _ hlevers.1 hlevers.2
  | step => exact wp_plainCall h fun _ => ⟨rfl, rfl, rfl, rfl⟩
  | detail => exact wp_plainCall h fun _ => ⟨rfl, rfl, rfl, rfl⟩
  | unknown => exact wp_plainCall h fun _ => ⟨rfl, rfl, rfl, rfl⟩
  | failure =>
    have hlevers : ∀ text, (session.explain text).cancelTokenWritten = session.cancelTokenWritten ∧
        (session.explain text).killRequested = session.killRequested := by
      intro text
      unfold HelperSession.explain
      split_ifs
      · exact ⟨rfl, rfl⟩
      · exact ⟨rfl, rfl⟩
    exact hreturn _ (hlevers _).1 (hlevers _).2
  | result => exact hreturn _ rfl rfl

/-- Hearing lines one after the other is what the session makes of all of them. -/
theorem consume_wp (h : LeversMatch session past) (lines : List QString) :
    wp (ClientObligation appVersion)
      (EndsHeard (lines.foldl (HelperSession.hear installed appVersion) session) past)
      (session.consume installed appVersion request lines : Prog ClientI ε HelperSession) past := by
  induction lines generalizing session past with
  | nil => exact ⟨rfl, rfl, rfl, h⟩
  | cons line lines ih =>
    unfold HelperSession.consume
    rw [bind_eq, wp_bind]
    refine wp_mono (consumeLine_wp h line) (fun _ _ h => h) ?_
    rintro r past' ⟨rfl, hheard⟩
    refine wp_mono (ih hheard.levers) (fun _ _ h => h) ?_
    rintro r past'' ⟨rfl, hheard'⟩
    exact ⟨rfl, hheard'.reads.trans hheard.reads, hheard'.polls.trans hheard.polls,
      hheard'.levers⟩

/-! ### The loop -/

/-- No line handling looks at the buffer. -/
theorem hear_buffer (session : HelperSession) (line : QString) (buffer : List UInt8) :
    { session with buffer }.hear installed appVersion line =
      { session.hear installed appVersion line with buffer } := by
  unfold HelperSession.hear
  dsimp only
  cases (parseProtocolLine line).kind with
  | version =>
    unfold HelperSession.announce
    dsimp only
    by_cases hsaw : session.sawVersion = true
    · simp [hsaw]
    · simp only [hsaw]
      cases acceptAnnouncement installed appVersion (parseProtocolLine line) <;> rfl
  | failure =>
    unfold HelperSession.explain
    dsimp only
    split_ifs
    · rfl
    · rfl
  | step => rfl
  | detail => rfl
  | result => rfl
  | unknown => rfl

theorem foldl_hear_buffer (session : HelperSession) (lines : List QString)
    (buffer : List UInt8) :
    lines.foldl (HelperSession.hear installed appVersion) { session with buffer } =
      { lines.foldl (HelperSession.hear installed appVersion) session with buffer } := by
  induction lines generalizing session with
  | nil => rfl
  | cons line lines ih => rw [List.foldl_cons, List.foldl_cons, hear_buffer, ih]

theorem poll_buffer (session : HelperSession) (requested : Bool) (buffer : List UInt8) :
    { session with buffer }.poll requested = { session.poll requested with buffer } := by
  unfold HelperSession.poll
  dsimp only
  split_ifs <;> rfl

/-- The session is where the machine is after some inputs with these lines. -/
structure Follows (installed : Catalog) (appVersion : QString) (inputs : List SessionInput)
    (lines : List QString) (session : HelperSession) (past : List (Event ClientI)) : Prop where
  state : { session with buffer := [] } = after installed appVersion inputs
  lines : inputLines inputs = lines
  polls : inputPolls inputs = clientPolls past
  levers : LeversMatch session past

/-- A session that follows its history still does after more lines were heard. -/
theorem Follows.consume {inputs : List SessionInput} {lines more : List QString}
    {past' : List (Event ClientI)} (h : Follows installed appVersion inputs lines session past)
    (hheard : Heard (more.foldl (HelperSession.hear installed appVersion) session) past past') :
    Follows installed appVersion (inputs ++ more.map .line) (lines ++ more)
      (more.foldl (HelperSession.hear installed appVersion) session) past' := by
  refine ⟨?_, ?_, ?_, hheard.levers⟩
  · rw [after_append, ← h.state, ← foldl_hear_buffer, List.foldl_map]
    rfl
  · rw [inputLines, List.filterMap_append, ← inputLines, h.lines, List.filterMap_map]
    exact congrArg (lines ++ ·) (List.filterMap_some)
  · rw [inputPolls, List.filterMap_append, ← inputPolls, h.polls, hheard.polls,
      List.filterMap_map]
    have hnone : more.filterMap (inputPoll ∘ SessionInput.line) = [] :=
      List.filterMap_eq_nil_iff.mpr fun _ _ => rfl
    rw [hnone, List.append_nil]

/-- The client between two turns of its loop. -/
def Listening (installed : Catalog) (appVersion : QString) (session : HelperSession)
    (past : List (Event ClientI)) : Prop :=
  session.buffer = (takeReads (clientReads past)).2 ∧
    ∃ inputs, Follows installed appVersion inputs (takeReads (clientReads past)).1 session past

/-- A part of the client after which it listens as before. -/
def KeepsListening (installed : Catalog) (appVersion : QString) :
    Except ε HelperSession → List (Event ClientI) → Prop :=
  fun r past' => ∃ session', r = .ok session' ∧ Listening installed appVersion session' past'

theorem Listening.plain (h : Listening installed appVersion session past) {e : Event ClientI}
    (he : IsPlainCall e) : Listening installed appVersion session (past ++ [e]) := by
  obtain ⟨hbuffer, inputs, hfollows⟩ := h
  have hheard := hfollows.levers.plain he
  refine ⟨by rw [hheard.reads]; exact hbuffer, inputs, ?_⟩
  exact ⟨hfollows.state, by rw [hheard.reads]; exact hfollows.lines,
    by rw [hheard.polls]; exact hfollows.polls, hheard.levers⟩

/-- Whoever listens has answered a malfunction already. -/
theorem Listening.obligation (h : Listening installed appVersion session past)
    {e : Event ClientI} (he : isTokenWrite e = false) : ClientObligation appVersion past e := by
  obtain ⟨-, inputs, hfollows⟩ := h
  refine ⟨fun htoken => ?_, fun _ hcompromised => ?_⟩
  · rw [he] at htoken
    cases htoken
  · have hstopped := (sessionLaws installed appVersion inputs).refusal
      ((compromised_iff (by rw [hfollows.lines, inputLines_map_line])).mp hcompromised)
    rw [← hfollows.state] at hstopped
    rw [hfollows.levers.token]
    exact if_pos hstopped.2

/-- Reading and handling what has arrived. -/
theorem readOutput_wp (hlistening : Listening installed appVersion session past) :
    wp (ClientObligation appVersion) (KeepsListening installed appVersion)
      (session.readOutput installed appVersion request : Prog ClientI ε HelperSession) past := by
  have ⟨hbuffer, inputs, hfollows⟩ := hlistening
  unfold HelperSession.readOutput
  refine wp_bind_op.mpr fun (read : List UInt8) => ⟨hlistening.obligation rfl, ?_⟩
  generalize hpast : past ++ [(⟨ClientOp.readStandardOutput, read⟩ : Event ClientI)] = past'
  have hreads : clientReads past' = clientReads past ++ [read] := by
    rw [← hpast]
    exact clientReads_concat _ _
  have hread : Follows installed appVersion inputs (takeReads (clientReads past)).1
      { session with buffer := (takeCompleteLines (session.buffer ++ read)).2 } past' := by
    refine ⟨hfollows.state, hfollows.lines, ?_, ?_, ?_⟩
    · rw [← hpast, clientPolls_concat]
      exact hfollows.polls.trans (List.append_nil _).symm
    · rw [← hpast, tokenWrites_concat]
      exact hfollows.levers.token
    · rw [← hpast, sentKill_concat]
      exact (Bool.or_false _).trans hfollows.levers.kill
  refine wp_mono (consume_wp hread.levers (takeCompleteLines (session.buffer ++ read)).1)
    (fun _ _ h => h) ?_
  rintro r past'' ⟨rfl, hheard⟩
  refine ⟨_, rfl, ?_, inputs ++ (takeCompleteLines (session.buffer ++ read)).1.map .line, ?_⟩
  · rw [foldl_hear_buffer, hheard.reads, hreads, takeReads_concat, hbuffer]
  · rw [hheard.reads, hreads, takeReads_concat, ← hbuffer]
    exact hread.consume hheard

/-- Asking whether to stop, and pulling the lever that is within reach. -/
theorem pollCancel_wp (hlistening : Listening installed appVersion session past) :
    wp (ClientObligation appVersion) (KeepsListening installed appVersion)
      (session.pollCancel : Prog ClientI ε HelperSession) past := by
  have hheard := hlistening
  obtain ⟨hbuffer, inputs, hfollows⟩ := hheard
  unfold HelperSession.pollCancel
  refine wp_bind_op.mpr fun (requested : Bool) => ⟨hlistening.obligation rfl, ?_⟩
  generalize hpast : past ++ [(⟨ClientOp.cancelRequested, requested⟩ : Event ClientI)] = past'
  have hreads : clientReads past' = clientReads past := by
    rw [← hpast, clientReads_concat]
    exact List.append_nil _
  have hpolls : clientPolls past' = clientPolls past ++ [requested] := by
    rw [← hpast]
    exact clientPolls_concat _ _
  have hlevers : LeversMatch session past' := by
    refine ⟨?_, ?_⟩
    · rw [← hpast, tokenWrites_concat]
      exact hfollows.levers.token
    · rw [← hpast, sentKill_concat]
      exact (Bool.or_false _).trans hfollows.levers.kill
  -- whatever lever is pulled, the session is the one of the machine
  have hfinish : ∀ r past'', EndsHeard (session.poll requested) past' r past'' →
      KeepsListening installed appVersion (r : Except ε HelperSession) past'' := by
    rintro r past'' ⟨rfl, hheard⟩
    have hkept : (session.poll requested).buffer = session.buffer := by
      unfold HelperSession.poll
      split_ifs
      · rfl
      · rfl
      · rfl
    refine ⟨_, rfl, ?_, inputs ++ [.poll requested], ?_, ?_, ?_, hheard.levers⟩
    · rw [hkept, hheard.reads, hreads]
      exact hbuffer
    · rw [after_concat, ← hfollows.state]
      exact (poll_buffer session requested []).symm
    · rw [hheard.reads, hreads, inputLines, List.filterMap_append]
      exact (List.append_nil _).trans hfollows.lines
    · rw [hheard.polls, hpolls, inputPolls, List.filterMap_append]
      exact congrArg (· ++ [requested]) hfollows.polls
  refine wp_mono ?_ (fun _ _ h => h) hfinish
  unfold HelperSession.poll
  by_cases hasked : requested = true ∧ (!session.cancelTokenWritten) = true
  · rw [if_pos hasked, if_pos hasked]
    by_cases hsaw : session.sawVersion = true
    · rw [if_pos hsaw, if_pos hsaw]
      exact askHelperToStop_wp hlevers
    rw [if_neg hsaw, if_neg hsaw]
    by_cases hkilled : session.killRequested = true
    · rw [if_neg (by simp [hkilled])]
      have hsame : { session with killRequested := true } = session := by rw [← hkilled]
      rw [hsame]
      exact ⟨rfl, rfl, rfl, hlevers⟩
    · rw [if_pos (by simp [hkilled])]
      have hobliged : ClientObligation appVersion past' ⟨ClientOp.kill, ()⟩ := by
        refine ⟨fun htoken => ?_, fun hexchange => ?_⟩
        · cases htoken
        · rcases hexchange with h | h
          · cases h
          · cases h
      refine wp_bind_op.mpr fun _ => ⟨hobliged, rfl, ?_, ?_, ?_, ?_⟩
      · rw [clientReads_concat]
        exact List.append_nil _
      · rw [clientPolls_concat]
        exact List.append_nil _
      · rw [tokenWrites_concat]
        exact hlevers.token
      · rw [sentKill_concat]
        exact Bool.or_true _
  · rw [if_neg hasked, if_neg hasked]
    exact ⟨rfl, rfl, rfl, hlevers⟩

/-- The loop, by induction on its turns. -/
theorem watch_wp (turns : Nat) (h : Listening installed appVersion session past) :
    wp (ClientObligation appVersion) (KeepsListening installed appVersion)
      (session.watch installed appVersion request turns : Prog ClientI ε HelperSession) past := by
  induction turns generalizing session past with
  | zero => trivial
  | succ turns ih =>
    unfold HelperSession.watch
    refine wp_bind_op.mpr fun (running : Bool) => ⟨h.obligation rfl, ?_⟩
    have hasked := h.plain (e := ⟨ClientOp.isRunning, running⟩) ⟨rfl, rfl, rfl, rfl⟩
    split_ifs
    · exact ⟨session, rfl, hasked⟩
    refine wp_bind_op.mpr fun _ => ⟨hasked.obligation rfl, ?_⟩
    have hwaited := hasked.plain (e := ⟨ClientOp.waitForReadyRead PollIntervalMs, ()⟩)
      ⟨rfl, rfl, rfl, rfl⟩
    rw [bind_eq, wp_bind]
    refine wp_mono (readOutput_wp hwaited) (fun _ _ h => h) ?_
    rintro r past' ⟨heard, rfl, hheard⟩
    dsimp only
    rw [bind_eq, wp_bind]
    refine wp_mono (pollCancel_wp hheard) (fun _ _ h => h) ?_
    rintro r past'' ⟨polled, rfl, hpolled⟩
    exact ih hpolled

/-- The session is where the machine is after every line that the helper has written. -/
structure HeardOut (installed : Catalog) (appVersion : QString) (inputs : List SessionInput)
    (session : HelperSession) (past : List (Event ClientI)) : Prop where
  state : { session with buffer := [] } = after installed appVersion inputs
  lines : inputLines inputs = readHelperLines [] (clientReads past)
  polls : inputPolls inputs = clientPolls past
  levers : LeversMatch session past

/-- What is left in the pipe is heard to its end. -/
theorem drain_wp (h : Listening installed appVersion session past) :
    wp (ClientObligation appVersion)
      (fun r past' => ∃ session' inputs, r = .ok session' ∧
        HeardOut installed appVersion inputs session' past')
      (session.drain installed appVersion request : Prog ClientI ε HelperSession) past := by
  unfold HelperSession.drain
  refine wp_bind_op.mpr fun _ => ⟨h.obligation rfl, ?_⟩
  have hended := h.plain (e := ⟨ClientOp.waitForFinished, ()⟩) ⟨rfl, rfl, rfl, rfl⟩
  rw [bind_eq, wp_bind]
  refine wp_mono (readOutput_wp hended) (fun _ _ h => h) ?_
  rintro r past' ⟨heard, rfl, hbuffer, inputs, hfollows⟩
  refine wp_mono (consume_wp hfollows.levers (flushBuffer heard.buffer)) (fun _ _ h => h) ?_
  rintro r past'' ⟨rfl, hheard⟩
  have hall := hfollows.consume hheard
  rw [hbuffer, takeReads_flush, ← hheard.reads] at hall
  refine ⟨_, _, ?_, hall.state, hall.lines, hall.polls, hall.levers⟩
  rw [hbuffer, ← hheard.reads]

/-! ### What the client returns -/

/-- A session that was held to its end: the lines and answers that it was made of, and how the
process ended. -/
structure HeldSession (installed : Catalog) (appVersion : QString) (t : List (Event ClientI))
    (inputs : List SessionInput) (crashed : Bool) (exitCode : Int)
    (standardError : List UInt8) : Prop where
  lines : inputLines inputs = readHelperLines [] (clientReads t)
  polls : inputPolls inputs = clientPolls t
  token : tokenWrites t = if (after installed appVersion inputs).cancelTokenWritten then 1 else 0
  kill : sentKill t = (after installed appVersion inputs).killRequested
  ended : [⟨ClientOp.crashed, crashed⟩, ⟨ClientOp.exitCode, exitCode⟩,
    ⟨ClientOp.readStandardError, standardError⟩] <:+ t

/-- The outcome is the verdict over a session that was held to its end. -/
def IsVerdict (installed : Catalog) (appVersion : QString)
    (outcome : Except RestoreMessage RestoreResult) (t : List (Event ClientI)) : Prop :=
  ∃ inputs crashed exitCode standardError,
    HeldSession installed appVersion t inputs crashed exitCode standardError ∧
      outcome = (after installed appVersion inputs).verdict installed crashed exitCode standardError

/-- From the first read to the verdict, the client meets what is asked of its calls. -/
theorem hearHelper_wp (turns : Nat) (h : Listening installed appVersion {} past) :
    wp (ClientObligation appVersion) (IsVerdict installed appVersion)
      (hearHelper installed turns appVersion request) past := by
  unfold hearHelper
  rw [bind_eq, wp_bind]
  refine wp_mono (watch_wp turns h) (fun _ _ h => h) ?_
  rintro r past' ⟨watched, rfl, hwatched⟩
  dsimp only
  rw [bind_eq, wp_bind]
  refine wp_mono (drain_wp hwatched) (fun _ _ h => h) ?_
  rintro r past' ⟨session, inputs, rfl, hout⟩
  refine wp_bind_op.mpr fun (crashed : Bool) => ⟨IsPlainCall.obligation ⟨rfl, rfl, rfl, rfl⟩ _, ?_⟩
  refine wp_bind_op.mpr fun (exitCode : Int) => ⟨IsPlainCall.obligation ⟨rfl, rfl, rfl, rfl⟩ _, ?_⟩
  refine wp_bind_op.mpr fun (standardError : List UInt8) =>
    ⟨IsPlainCall.obligation ⟨rfl, rfl, rfl, rfl⟩ _, ?_⟩
  refine wp_ofExcept.mpr ⟨inputs, crashed, exitCode, standardError, ?_, by rw [← hout.state]; rfl⟩
  have h1 := hout.levers.plain (e := ⟨ClientOp.crashed, crashed⟩) ⟨rfl, rfl, rfl, rfl⟩
  have h2 := h1.levers.plain (e := ⟨ClientOp.exitCode, exitCode⟩) ⟨rfl, rfl, rfl, rfl⟩
  have h3 := h2.levers.plain (e := ⟨ClientOp.readStandardError, standardError⟩)
    ⟨rfl, rfl, rfl, rfl⟩
  constructor
  · rw [h3.reads, h2.reads, h1.reads]
    exact hout.lines
  · rw [h3.polls, h2.polls, h1.polls]
    exact hout.polls
  · rw [← hout.state]
    exact h3.levers.token
  · rw [← hout.state]
    exact h3.levers.kill
  · exact ⟨past', by simp⟩

/-- A call before the session. -/
def IsPlain (o : ClientOp) : Prop := ∀ ans, IsPlainCall ⟨o, ans⟩

theorem findClientExecutable_plain (name : QString) :
    (findClientExecutable name : Prog ClientI ε QString).Satisfies IsPlain Returns := by
  have hlookup := executableAmong_lookup (ε := Empty) name
    [QStringLiteral "/usr/sbin", QStringLiteral "/sbin", QStringLiteral "/usr/bin",
      QStringLiteral "/bin", QStringLiteral "/usr/local/sbin", QStringLiteral "/usr/local/bin"]
  refine Satisfies.seq (Satisfies.handle ?_ hlookup) ?_
  · intro o s ho
    cases o with
    | sys o => exact ⟨fun ans => ⟨rfl, rfl, rfl, rfl⟩, fun ans => ⟨_, rfl⟩⟩
    | reporter o => cases ho
  · rintro ⟨found, _⟩
    cases found with
    | ok path => exact ⟨path, rfl⟩
    | error e => exact nomatch e

-- A literal is long for the elaborator, which compares it with its list of characters.
set_option maxRecDepth 10000

theorem acceptAnnouncement_explained (line : ProtocolLine) :
    Explained (acceptAnnouncement installed appVersion line) := by
  cases h : acceptAnnouncement installed appVersion line with
  | ok _ => trivial
  | error message => exact acceptHelperAnnouncement_error (checkRestoreError_error h)

theorem helperSpeaksOurProtocol_plain (helper : QString) :
    (helperSpeaksOurProtocol installed appVersion helper).Satisfies IsPlain Explained := by
  have hplain : ∀ {o : ClientOp}, (∀ ans, IsPlainCall ⟨o, ans⟩) → IsPlain o := fun h => h
  have hrefuse : ∀ message : RestoreMessage, message.english ≠ [] →
      (do
        clientCall .probeKill
        let _ ← clientCall (.probeFinished 1000)
        Prog.fail message : Prog ClientI RestoreMessage Unit).Satisfies IsPlain Explained := by
    intro message hmessage
    refine Satisfies.call (fun _ => ⟨rfl, rfl, rfl, rfl⟩) fun _ => ?_
    exact Satisfies.call (fun _ => ⟨rfl, rfl, rfl, rfl⟩) fun _ => hmessage
  unfold helperSpeaksOurProtocol
  refine Satisfies.call (fun _ => ⟨rfl, rfl, rfl, rfl⟩) fun (started : Bool) => ?_
  split_ifs
  · exact hrefuse _ (restoreText_arg_ne_nil (by decide))
  refine Satisfies.call (fun _ => ⟨rfl, rfl, rfl, rfl⟩) fun (finished : Bool) => ?_
  split_ifs
  · exact hrefuse _ (restoreText_arg_ne_nil (by decide))
  refine Satisfies.call (fun _ => ⟨rfl, rfl, rfl, rfl⟩) fun (output : List UInt8) => ?_
  exact Satisfies.ofExcept (acceptAnnouncement_explained _)

/-- Whatever keeps the helper from being started is said. -/
theorem startHelper_plain (uiLanguages : List Language) :
    (startHelper installed appVersion request uiLanguages).Satisfies IsPlain Explained := by
  unfold startHelper
  refine Satisfies.call (fun _ => ⟨rfl, rfl, rfl, rfl⟩) fun (helper : FileInfo) => ?_
  split_ifs
  · exact restoreText_arg_ne_nil (by decide)
  refine Satisfies.seq (findClientExecutable_plain _) fun pkexec => ?_
  split_ifs
  · exact restoreText_ne_nil (by decide)
  refine Satisfies.bind (helperSpeaksOurProtocol_plain HelperPath) (fun _ _ => ?_) fun _ he => he
  refine Satisfies.call (fun _ => ⟨rfl, rfl, rfl, rfl⟩) fun (started : Bool) => ?_
  split_ifs
  · exact restoreText_ne_nil (by decide)
  · trivial

theorem Listening.of_plain {t : List (Event ClientI)} (ht : ∀ e ∈ t, IsPlain e.op) :
    Listening installed appVersion {} t := by
  induction t using List.reverseRecOn with
  | nil => exact ⟨rfl, [], rfl, rfl, rfl, rfl, rfl⟩
  | append_singleton t e ih =>
    refine (ih fun e' he' => ht e' (List.mem_append_left _ he')).plain ?_
    exact ht e (List.mem_append_right _ (List.mem_singleton_self e)) e.ans

/-- The outcome of a session that never began. -/
def NeverStarted (outcome : Except RestoreMessage RestoreResult) : Prop :=
  ∃ message, outcome = .error message ∧ message.english ≠ []

/-- The whole client: no helper was started, or its verdict is the session's. -/
theorem runHelperRestore_wp (turns : Nat) (uiLanguages : List Language) :
    wp (ClientObligation appVersion)
      (fun outcome t => NeverStarted outcome ∨ IsVerdict installed appVersion outcome t)
      (runHelperRestore installed turns appVersion request uiLanguages) [] := by
  unfold runHelperRestore
  rw [bind_eq, wp_bind]
  refine wp_of_runs (startHelper_plain uiLanguages) ?_ ?_
  · intro t e _ he
    exact (he e.ans).obligation _
  · intro t r _ ht hr
    cases r with
    | error message => exact .inl ⟨message, rfl, hr⟩
    | ok _ =>
      refine wp_mono (hearHelper_wp turns (Listening.of_plain ?_)) (fun _ _ h => h) fun _ _ => .inr
      exact ht

end Runs

/-! ## What a helper can obtain -/

/-- What a verdict on a session took. -/
def Earned (appVersion : QString) (t : List (Event ClientI)) (inputs : List SessionInput)
    (crashed : Bool) (exitCode : Int) : Except RestoreMessage RestoreResult → Prop
  | .ok result => crashed = false ∧ exitCode = RestoreExitSuccess ∧
      SoleAnnouncement appVersion inputs ∧ lastResult inputs = some result.location ∧
      result.location ≠ []
  | .error message => message.english ≠ [] ∨
      (crashed = false ∧ exitCode = RestoreExitCancelled ∧ SoleAnnouncement appVersion inputs) ∨
      (sentKill t = true ∧ versionLines inputs = [] ∧ (crashed = true ∨ exitCode = 126))

theorem HeldSession.earned {installed : Catalog} {appVersion : QString}
    {t : List (Event ClientI)} {inputs : List SessionInput} {crashed : Bool} {exitCode : Int}
    {standardError : List UInt8}
    (h : HeldSession installed appVersion t inputs crashed exitCode standardError) :
    Earned appVersion t inputs crashed exitCode
      ((after installed appVersion inputs).verdict installed crashed exitCode standardError) := by
  have hlaws := sessionLaws installed appVersion inputs
  unfold HelperSession.verdict
  dsimp only
  rcases judgeHelperRun_cases ((after installed appVersion inputs).observation crashed exitCode
      standardError) with ⟨htrusted, hverdict⟩ | ⟨htrusted, hverdict⟩ | ⟨english, hverdict, hne⟩
  · rw [hverdict]
    refine ⟨htrusted.normal, htrusted.exitCode, hlaws.accepted.mp htrusted.versionAccepted, ?_,
      htrusted.location⟩
    have hlocation : (lastResult inputs).getD [] ≠ [] := by
      rw [← hlaws.location]
      exact htrusted.location
    rw [hlaws.location]
    cases hlast : lastResult inputs with
    | none =>
      rw [hlast] at hlocation
      exact absurd rfl hlocation
    | some text => rfl
  · rw [hverdict]
    refine .inr ?_
    rcases htrusted with ⟨hnormal, hexit, -, haccepted⟩ | ⟨hkill, hsilent, hdied⟩
    · exact .inl ⟨hnormal, hexit, hlaws.accepted.mp haccepted⟩
    · refine .inr ⟨h.kill.trans hkill, ?_, hdied⟩
      refine not_not.mp fun hsome => ?_
      have hsaw := hlaws.sawVersion.mpr hsome
      rw [show (after installed appVersion inputs).sawVersion = false from hsilent] at hsaw
      cases hsaw
  · rw [hverdict]
    exact .inl hne

/-- What every run of the client keeps to, whatever it reads. -/
structure KeepsGuard (installed : Catalog) (appVersion : QString) (t : List (Event ClientI))
    (r : Option (Except RestoreMessage RestoreResult)) : Prop where
  token : tokenWrites t ≤ 1
  prompt : ∀ before e rest, t = before ++ e :: rest → IsExchange e →
    Compromised appVersion ((takeReads (clientReads before)).1.map .line) → tokenWrites before = 1
  outcome : ∀ outcome, r = some outcome → NeverStarted outcome ∨
    ∃ inputs crashed exitCode standardError,
      HeldSession installed appVersion t inputs crashed exitCode standardError ∧
        outcome =
          (after installed appVersion inputs).verdict installed crashed exitCode standardError ∧
        Earned appVersion t inputs crashed exitCode outcome

/-- What the variables of a session keep to. -/
structure SessionGuard (installed : Catalog) (appVersion : QString) : Prop where
  laws : ∀ inputs, SessionLaws installed appVersion inputs
  refusal : ∀ inputs more, Compromised appVersion inputs →
    (after installed appVersion (inputs ++ more)).versionAccepted = false ∧
      (after installed appVersion (inputs ++ more)).cancelTokenWritten = true
  firstExplanation : ∀ inputs more, (after installed appVersion inputs).displayFailure ≠ [] →
    (after installed appVersion (inputs ++ more)).displayFailure =
      (after installed appVersion inputs).displayFailure

/-- The token is written once at most. -/
theorem tokenWrites_le_one {appVersion : QString} {t : List (Event ClientI)}
    (h : ∀ before e rest, t = before ++ e :: rest → ClientObligation appVersion before e) :
    tokenWrites t ≤ 1 := by
  induction t using List.reverseRecOn with
  | nil => exact Nat.zero_le 1
  | append_singleton t e ih =>
    have hlast := h t e [] rfl
    have hbefore := ih fun before e' rest ht => h before e' (rest ++ [e]) (by rw [ht]; simp)
    rw [tokenWrites_concat]
    split_ifs with htoken
    · rw [hlast.once htoken]
    · exact hbefore

/-- A misbehaving helper cannot obtain a success, whatever it writes and however it ends. -/
theorem runHelperRestore_trusts_no_helper (installed : Catalog) (turns : Nat)
    (appVersion : QString) (request : RestoreRequest) (uiLanguages : List Language)
    {t : List (Event ClientI)} {r : Option (Except RestoreMessage RestoreResult)}
    (h : Runs (runHelperRestore installed turns appVersion request uiLanguages) t r) :
    SessionGuard installed appVersion ∧ KeepsGuard installed appVersion t r := by
  obtain ⟨hcalls, hresult⟩ := wp_sound (runHelperRestore_wp turns uiLanguages) h
  have hobligations : ∀ before e rest, t = before ++ e :: rest →
      ClientObligation appVersion before e := hcalls
  refine ⟨⟨sessionLaws installed appVersion, ?_, displayFailure_stands installed appVersion⟩,
    tokenWrites_le_one hobligations, ?_, ?_⟩
  · intro inputs more hcompromised
    exact (sessionLaws installed appVersion (inputs ++ more)).refusal (hcompromised.append more)
  · exact fun before e rest ht => (hobligations before e rest ht).prompt
  · intro outcome houtcome
    rcases hresult outcome houtcome with hnever | ⟨inputs, crashed, exitCode, error, hheld, rfl⟩
    · exact .inl hnever
    · exact .inr ⟨inputs, crashed, exitCode, error, hheld, rfl, hheld.earned⟩

/-! ### A helper that does as it should -/

namespace GrantedSession

def location : QString := QStringLiteral "/dev/sdb1"

def announcement : List UInt8 :=
  lineBytes (encodeVersionLine RestoreProtocolVersion (QStringLiteral "1.0") linuxRestorePlan)

def output : List UInt8 := announcement ++ lineBytes (encodeResultLine location)

/-- A helper that has ended when it is first looked at, all it wrote still in the pipe. -/
def answers : (o : ClientOp) → o.Ans
  | .sys o => SmallStick.answers o
  | .probeStart _ _ _ => true
  | .probeFinished _ => true
  | .probeKill => ()
  | .probeOutput => announcement
  | .start _ _ _ => true
  | .isRunning => false
  | .waitForReadyRead _ => ()
  | .readStandardOutput => output
  | .write _ => ()
  | .kill => ()
  | .waitForFinished => ()
  | .crashed => false
  | .exitCode => (0 : Int)
  | .readStandardError => ([] : List UInt8)
  | .step _ => ()
  | .detail _ => ()
  | .cancelRequested => false

def client : Prog ClientI RestoreMessage RestoreResult :=
  runHelperRestore Catalog.english 9 (QStringLiteral "1.0") SmallStick.request []

def run : List (Event ClientI) × Option (Except RestoreMessage RestoreResult) :=
  client.execute (I := ClientI) (fun _ => answers) 0

end GrantedSession

open GrantedSession in
/-- Its success is a trusted one. -/
theorem runHelperRestore_trusts_granted_session :
    GrantedSession.run.2.bind Except.toOption = some ⟨location⟩ ∧
      KeepsGuard Catalog.english (QStringLiteral "1.0") GrantedSession.run.1
        GrantedSession.run.2 :=
  ⟨by decide +kernel,
    (runHelperRestore_trusts_no_helper Catalog.english 9 (QStringLiteral "1.0") SmallStick.request
      [] (execute_runs _ GrantedSession.client 0)).2⟩

end UsbRestore
