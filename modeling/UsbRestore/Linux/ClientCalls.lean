-- SUMMARY: What the client calls: how it starts the helper, what it writes to it and when it reads last.
import UsbRestore.Helper.CancelToken
import UsbRestore.Helper.History
import UsbRestore.Linux.HelperSessionRun
import UsbRestore.Linux.RestoreProcesses

/-!
# The calls of the client

The client starts one program, writes nothing but the cancel token, and reads once more after it has
waited for the end.
-/

namespace UsbRestore

open Prog HelperSession

variable {ε : Type}

/-! ## The calls of the client -/

/-- A call of the session: the client writes the cancel token and its newline, and starts nothing. -/
def IsSessionCall : ClientOp → Prop
  | .start _ _ _ => False
  | .write bytes => bytes = CancelRequestToken ∨ bytes = [newline]
  | _ => True

section

variable {installed : Catalog} {appVersion : QString} {request : RestoreRequest}
  (session : HelperSession)

theorem askHelperToStop_calls :
    (session.askHelperToStop : Prog ClientI ε HelperSession).Satisfies IsSessionCall Returns := by
  unfold askHelperToStop
  split
  · exact .returns _
  · exact .call (.inl rfl) fun _ => .call (.inr rfl) fun _ => .returns _

theorem consumeLine_calls (line : QString) :
    (session.consumeLine installed appVersion request line : Prog ClientI ε HelperSession).Satisfies
      IsSessionCall Returns := by
  unfold consumeLine
  split
  · exact .returns _
  dsimp only
  split
  · split
    · exact askHelperToStop_calls _
    · exact .returns _
  · exact .call trivial fun _ => .returns _
  · exact .call trivial fun _ => .returns _
  · exact .returns _
  · exact .returns _
  · exact .call trivial fun _ => .returns _

theorem consume_calls (lines : List QString) :
    (session.consume installed appVersion request lines : Prog ClientI ε HelperSession).Satisfies
      IsSessionCall Returns := by
  induction lines generalizing session with
  | nil => exact .returns _
  | cons line lines ih => exact .seq (consumeLine_calls session line) fun session' => ih session'

theorem readOutput_calls :
    (session.readOutput installed appVersion request : Prog ClientI ε HelperSession).Satisfies
      IsSessionCall Returns := by
  unfold readOutput
  exact .call trivial fun _ => consume_calls _ _

theorem pollCancel_calls :
    (session.pollCancel : Prog ClientI ε HelperSession).Satisfies IsSessionCall Returns := by
  unfold pollCancel
  refine .call trivial fun (requested : Bool) => ?_
  split
  · split
    · exact askHelperToStop_calls session
    · split
      · exact .call trivial fun _ => .returns _
      · exact .returns _
  · exact .returns _

/-- While the helper runs, the client makes only the calls of a session. -/
theorem watch_calls (turns : Nat) :
    (session.watch installed appVersion request turns : Prog ClientI ε HelperSession).Satisfies
      IsSessionCall Returns := by
  induction turns generalizing session with
  | zero => trivial
  | succ turns ih =>
    unfold watch
    refine .call trivial fun (running : Bool) => ?_
    split
    · exact .returns _
    · refine .call trivial fun _ => ?_
      refine .seq (readOutput_calls session) fun session' => ?_
      exact .seq (pollCancel_calls session') fun session'' => ih session''

theorem drain_calls :
    (session.drain installed appVersion request : Prog ClientI ε HelperSession).Satisfies IsSessionCall
      Returns := by
  unfold drain
  refine .call trivial fun _ => ?_
  exact .seq (readOutput_calls session) fun session' => consume_calls session' _

end

/-- From the first read to the verdict, the client makes only the calls of a session. -/
theorem hearHelper_calls (installed : Catalog) (turns : Nat) (appVersion : QString)
    (request : RestoreRequest) :
    (hearHelper installed turns appVersion request).Satisfies IsSessionCall fun _ => True := by
  unfold hearHelper
  refine .seq (watch_calls {} turns) fun session => ?_
  refine .seq (drain_calls session) fun session' => ?_
  refine .call trivial fun (crashed : Bool) => ?_
  refine .call trivial fun (exitCode : Int) => ?_
  refine .call trivial fun (standardError : List UInt8) => ?_
  exact .ofExcept trivial

theorem findClientExecutable_calls (name : QString) :
    (findClientExecutable name : Prog ClientI ε QString).Satisfies IsSessionCall Returns := by
  have hlookup := executableAmong_lookup (ε := Empty) name
    [QStringLiteral "/usr/sbin", QStringLiteral "/sbin", QStringLiteral "/usr/bin",
      QStringLiteral "/bin", QStringLiteral "/usr/local/sbin", QStringLiteral "/usr/local/bin"]
  refine .seq (Satisfies.handle ?_ hlookup) ?_
  · intro o s ho
    cases o with
    | sys o => exact ⟨trivial, fun ans => ⟨_, rfl⟩⟩
    | reporter o => cases ho
  · rintro ⟨found, _⟩
    cases found with
    | ok path => exact .returns path
    | error e => exact nomatch e

theorem helperSpeaksOurProtocol_calls (installed : Catalog) (appVersion helper : QString) :
    (helperSpeaksOurProtocol installed appVersion helper).Satisfies IsSessionCall fun _ => True := by
  have hrefuse : ∀ message : RestoreMessage,
      (do
        clientCall .probeKill
        let _ ← clientCall (.probeFinished 1000)
        Prog.fail message : Prog ClientI RestoreMessage Unit).Satisfies IsSessionCall fun _ => True := by
    intro message
    refine .call trivial fun _ => ?_
    exact .call trivial fun _ => trivial
  unfold helperSpeaksOurProtocol
  refine .call trivial fun (started : Bool) => ?_
  split
  · exact hrefuse _
  refine .call trivial fun (finished : Bool) => ?_
  split
  · exact hrefuse _
  refine .call trivial fun (output : List UInt8) => ?_
  exact .ofExcept trivial

/-- What the helper is started with. -/
def RestoreLaunch.arguments (launch : RestoreLaunch) : List QString :=
  buildRestoreArguments launch.request.disk launch.request.style launch.request.fileSystem
    launch.request.volumeLabel launch.request.displayLanguage launch.uiLanguages

/-- A call of the client: it starts pkexec with the helper and these arguments. -/
def IsClientCall (launch : RestoreLaunch) (o : ClientOp) : Prop :=
  IsSessionCall o ∨ ∃ program ms, o = .start program (HelperPath :: launch.arguments) ms

/-- All that the client ever asks of the system. -/
theorem begun_calls (launch : RestoreLaunch) :
    (RestoreProcesses.begun launch).client.Satisfies (IsClientCall launch) fun _ => True := by
  have hsession : ∀ {α : Type} {p : Prog ClientI RestoreMessage α}
      {Q : Except RestoreMessage α → Prop},
      p.Satisfies IsSessionCall Q → p.Satisfies (IsClientCall launch) Q :=
    fun h => h.mono (fun _ => .inl) fun _ h => h
  unfold RestoreProcesses.begun runHelperRestore
  refine .bind (Q := fun _ => True) ?_ (fun _ _ => hsession (hearHelper_calls _ _ _ _)) fun _ _ => trivial
  unfold startHelper
  refine .call (.inl trivial) fun (helper : FileInfo) => ?_
  split
  · trivial
  refine .seq (hsession (findClientExecutable_calls _)) fun pkexec => ?_
  split
  · trivial
  refine .bind (hsession (helperSpeaksOurProtocol_calls _ _ _)) (fun _ _ => ?_) fun _ _ => trivial
  refine .call (.inr ⟨pkexec, ProcessStartTimeoutMs, rfl⟩) fun (started : Bool) => ?_
  split
  · trivial
  · trivial

/-- It is started to restore. -/
theorem RestoreLaunch.requestsRestore (launch : RestoreLaunch) : RequestsRestore launch.arguments := by
  unfold RestoreLaunch.arguments buildRestoreArguments
  refine ⟨fun h => ?_, fun h => ?_⟩
  · have hlength := congrArg List.length h
    simp at hlength
  · simp only [List.cons_append, List.nil_append, List.append_assoc, List.head?_cons, Option.some.injEq] at h
    exact absurd h (by decide)

/-! ### Writes -/

def clientWrite : Event ClientI → Option (List UInt8)
  | ⟨ClientOp.write bytes, _⟩ => some bytes
  | _ => none

/-- What was written to the helper, write by write. -/
def clientWrites (t : List (Event ClientI)) : List (List UInt8) := t.filterMap clientWrite

theorem clientWrites_concat (past : List (Event ClientI)) (e : Event ClientI) :
    clientWrites (past ++ [e]) = clientWrites past ++ (clientWrite e).toList := by
  rw [clientWrites, List.filterMap_append]
  cases h : clientWrite e with
  | none => simp [clientWrites, h]
  | some written => simp [clientWrites, h]

/-- Where the client has not written the token, none can be read. -/
theorem containsToken_of_unwritten {launch : RestoreLaunch} {t : List (Event ClientI)}
    (hcalls : ∀ e ∈ t, IsClientCall launch e.op) (hnone : tokenWrites t = 0) {bytes : List UInt8}
    (hsent : bytes <+: (clientWrites t).flatten) :
    HelperReporter.containsToken bytes = false := by
  rw [Bool.eq_false_iff]
  intro htoken
  have hfirst : (0x63 : UInt8) ∈ CancelRequestToken := by decide
  obtain ⟨written, hwritten, hmem⟩ :=
    List.mem_flatten.mp (hsent.subset (mem_of_containsToken htoken _ hfirst))
  obtain ⟨e, he, hwrite⟩ := List.mem_filterMap.mp hwritten
  have hcall := hcalls e he
  have hplain : isTokenWrite e = false :=
    Bool.eq_false_iff.mpr fun h => List.countP_eq_zero.mp hnone e he h
  obtain ⟨o, ans⟩ := e
  cases o with
  | write bytes' =>
    cases hwrite
    rcases hcall with (rfl | rfl) | ⟨program, ms, hstart⟩
    · cases hplain
    · exact absurd hmem (by decide)
    · cases hstart
  | _ => cases hwrite

/-! ### The last read -/

/-- The client has read after it had waited for the end. -/
def Drained (t : List (Event ClientI)) : Prop :=
  ∃ before read after, t = before ++ ⟨ClientOp.waitForFinished, ()⟩ ::
    ⟨ClientOp.readStandardOutput, read⟩ :: after

/-- A pipe that was read to its end stays so. -/
theorem Drained.append {t : List (Event ClientI)} (h : Drained t) (more : List (Event ClientI)) :
    Drained (t ++ more) := by
  obtain ⟨before, read, after, rfl⟩ := h
  exact ⟨before, read, after ++ more, by simp⟩

/-- What the last call has to do with it. -/
theorem drained_concat {t : List (Event ClientI)} {e : Event ClientI} (h : Drained (t ++ [e])) :
    Drained t ∨ (clientRead e).isSome = true ∧ ∃ e' ∈ t, e'.op = ClientOp.waitForFinished := by
  obtain ⟨before, read, after, ht⟩ := h
  rcases List.eq_nil_or_concat after with rfl | ⟨after, last, rfl⟩
  · rw [show ∀ e e' : Event ClientI, before ++ e :: [e'] = (before ++ [e]) ++ [e'] by simp] at ht
    obtain ⟨rfl, hlast⟩ := List.append_inj' ht rfl
    obtain rfl := List.singleton_injective hlast
    exact .inr ⟨rfl, _, List.mem_append_right _ (List.mem_singleton_self _), rfl⟩
  · rw [List.concat_eq_append, ← List.cons_append, ← List.cons_append, ← List.append_assoc] at ht
    obtain ⟨rfl, -⟩ := List.append_inj' ht rfl
    exact .inl ⟨before, read, after, rfl⟩

theorem wp_drained {α : Type} {past : List (Event ClientI)} (h : Drained past)
    (p : Prog ClientI ε α) : wp (fun _ _ => True) (fun _ past => Drained past) p past := by
  induction p generalizing past with
  | ret a => exact h
  | fail e => exact h
  | spin => trivial
  | call o next ih => exact fun ans => ⟨trivial, ih ans (h.append _)⟩

section

variable {installed : Catalog} {turns : Nat} {appVersion : QString} {request : RestoreRequest}

/-- Before it judges, the client has read the pipe to its end. -/
theorem hearHelper_drained {t : List (Event ClientI)} (ht : ∀ e ∈ t, IsPlain e.op) :
    wp (fun _ _ => True) (fun _ past => Drained past)
      (hearHelper installed turns appVersion request) t := by
  unfold hearHelper
  rw [bind_eq, wp_bind]
  refine wp_mono (watch_wp turns (Listening.of_plain ht)) (fun _ _ _ => trivial) ?_
  rintro r past' ⟨watched, rfl, -⟩
  dsimp only
  intro _
  refine ⟨trivial, fun (read : List UInt8) => ⟨trivial, wp_drained ⟨past', read, [], ?_⟩ _⟩⟩
  rw [List.append_assoc]
  rfl

/-- Where a helper was started, its pipe is read to the end. -/
theorem runHelperRestore_drained (uiLanguages : List Language) :
    wp (fun _ _ => True) (fun outcome t => NeverStarted outcome ∨ Drained t)
      (runHelperRestore installed turns appVersion request uiLanguages) [] := by
  unfold runHelperRestore
  rw [bind_eq, wp_bind]
  refine wp_of_runs (startHelper_plain uiLanguages) (fun _ _ _ _ => trivial) ?_
  intro t r _ ht hr
  cases r with
  | error message => exact .inl ⟨message, rfl, hr⟩
  | ok _ => exact wp_mono (hearHelper_drained ht) (fun _ _ h => h) fun _ _ => .inr

/-! ### The start -/

/-- Whatever was to be started was not. -/
def Refused (t : List (Event ClientI)) : Prop :=
  ∀ program arguments ms, ∀ started : Bool,
    (⟨ClientOp.start program arguments ms, started⟩ : Event ClientI) ∈ t → started = false

theorem Refused.session {t more : List (Event ClientI)} (h : Refused t)
    (hmore : ∀ e ∈ more, IsSessionCall e.op) : Refused (t ++ more) := by
  intro program arguments ms started he
  rcases List.mem_append.mp he with he | he
  · exact h program arguments ms started he
  · exact (hmore _ he).elim

theorem Refused.call {t : List (Event ClientI)} (h : Refused t) {e : Event ClientI}
    (he : IsSessionCall e.op) : Refused (t ++ [e]) :=
  h.session fun _ he' => List.mem_singleton.mp he' ▸ he

/-- A start that fails has started nothing. -/
theorem startHelper_refused (uiLanguages : List Language) :
    wp (fun _ _ => True) (fun r t => r = .ok () ∨ Refused t)
      (startHelper installed appVersion request uiLanguages) [] := by
  have hnone : Refused [] := fun _ _ _ _ he => absurd he List.not_mem_nil
  unfold startHelper
  refine wp_bind_op.mpr fun (helper : FileInfo) => ⟨trivial, ?_⟩
  have hlooked := hnone.call (e := ⟨ClientOp.sys (.fileInfo HelperPath), helper⟩) trivial
  split
  · exact .inr hlooked
  rw [bind_eq, wp_bind]
  refine wp_of_runs (findClientExecutable_calls _) (fun _ _ _ _ => trivial) ?_
  rintro t r _ ht ⟨pkexec, rfl⟩
  have hfound := hlooked.session ht
  dsimp only
  split
  · exact .inr hfound
  rw [bind_eq, wp_bind]
  refine wp_of_runs (helperSpeaksOurProtocol_calls _ _ _) (fun _ _ _ _ => trivial) ?_
  intro t' r _ ht' _
  have hprobed := hfound.session ht'
  cases r with
  | error message => exact .inr hprobed
  | ok _ =>
    dsimp only
    refine wp_bind_op.mpr fun (started : Bool) => ⟨trivial, ?_⟩
    cases started with
    | true => exact .inl rfl
    | false =>
      refine .inr fun program arguments ms started he => ?_
      rcases List.mem_append.mp he with he | he
      · exact hprobed program arguments ms started he
      · cases List.mem_singleton.mp he
        rfl

/-- A client that has returned has either read to the end, or nothing was started. -/
theorem runHelperRestore_ends (uiLanguages : List Language) :
    wp (fun _ _ => True) (fun _ t => Refused t ∨ Drained t)
      (runHelperRestore installed turns appVersion request uiLanguages) [] := by
  unfold runHelperRestore
  rw [bind_eq, wp_bind]
  refine wp_of_runs (startHelper_plain uiLanguages) (fun _ _ _ _ => trivial) ?_
  intro t r hrun ht _
  have hstart := (wp_sound (startHelper_refused uiLanguages) hrun).2 _ rfl
  rw [List.nil_append] at hstart
  cases r with
  | error message =>
    rcases hstart with hok | hrefused
    · cases hok
    · exact .inl hrefused
  | ok _ => exact wp_mono (hearHelper_drained ht) (fun _ _ h => h) fun _ _ => .inr

end

end UsbRestore
