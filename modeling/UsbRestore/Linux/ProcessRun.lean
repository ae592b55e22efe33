-- SUMMARY: What holds of the client and the helper in every state they come to.
import UsbRestore.Linux.ClientCalls

/-!
# Runs of the processes

What the helper wrote is what the client has read and can still read, up to a last line that broke
off; what the helper has read was written by the client. The client is told the truth about the end of
the process, and after its last read nothing is left.
-/

namespace UsbRestore

open Prog

/-! ## The processes -/

/-- What pkexec runs. -/
def RestoreLaunch.helper [Host] (launch : RestoreLaunch) : Prog HelperI Empty Int :=
  helperMain launch.fuel launch.appVersion launch.arguments

namespace RestoreProcesses

/-- What the client has read, and what it can still read. -/
def output (s : RestoreProcesses) : List UInt8 := (clientReads s.clientCalls).flatten ++ s.stdout

section

variable [Host]

/-- What the helper has done at a stage, and what has come out of it. -/
inductive Status (launch : RestoreLaunch) (calls : List (Event HelperI)) (output : List UInt8) :
    HelperStage → Prop where
  | unstarted (idle : calls = []) (silent : output = []) : Status launch calls output .unstarted
  | asking (idle : calls = []) (silent : output = []) :
    Status launch calls output (.asking launch.arguments)
  | refused (crashed : Bool) (exitCode : Int) (idle : calls = []) (silent : output = []) :
    Status launch calls output (.ended crashed exitCode)
  | serving (left : Prog HelperI Empty Int)
    (run : Left launch.helper calls left)
    (wrote : output = (writesOf calls).flatten) : Status launch calls output (.serving left)
  | exited (exitCode : Int)
    (run : Left launch.helper calls (.ret exitCode))
    (wrote : output = (writesOf calls).flatten) : Status launch calls output (.ended false exitCode)
  | crashed (exitCode : Int) (left : Prog HelperI Empty Int)
    (run : Left launch.helper calls left)
    (wrote : (writesOf calls).flatten <+: output) : Status launch calls output (.ended true exitCode)

/-- What holds in every state: the client is told the truth about the process, and when it has read
after the end there is nothing left to read. -/
structure Sound (launch : RestoreLaunch) (s : RestoreProcesses) : Prop where
  left : Left (begun launch).client s.clientCalls s.client
  status : Status launch s.helperCalls s.output s.stage
  stdin : (stdinReads s.helperCalls).flatten ++ s.stdin = (clientWrites s.clientCalls).flatten
  waited : s.waited = true → s.ended = true
  noticed : ∀ e ∈ s.clientCalls, e.op = ClientOp.waitForFinished → s.waited = true
  drained : Drained s.clientCalls → s.stdout = []
  crashed : ∀ e ∈ s.clientCalls, ∀ crashed : Bool, e = ⟨ClientOp.crashed, crashed⟩ →
    ∃ exitCode, s.stage = .ended crashed exitCode
  exitCode : ∀ e ∈ s.clientCalls, ∀ exitCode : Int, e = ⟨ClientOp.exitCode, exitCode⟩ →
    ∃ crashed, s.stage = .ended crashed exitCode

variable {launch : RestoreLaunch} {s : RestoreProcesses}

theorem sound_begun (launch : RestoreLaunch) : Sound launch (begun launch) where
  left := .start
  status := .unstarted rfl rfl
  stdin := rfl
  waited := fun h => by cases h
  noticed := fun _ he => absurd he List.not_mem_nil
  drained := fun _ => rfl
  crashed := fun _ he => absurd he List.not_mem_nil
  exitCode := fun _ he => absurd he List.not_mem_nil

/-! ### While the process runs -/

/-- Before the end of the helper the client has not been told of one. -/
theorem Sound.unended (h : Sound launch s) (hrunning : s.ended = false) :
    ∀ e ∈ s.clientCalls, e.op ≠ ClientOp.waitForFinished := by
  intro e he hop
  cases hrunning.symm.trans (h.waited (h.noticed e he hop))

omit [Host] in
theorem ended_of_stage {crashed : Bool} {exitCode : Int} (h : s.stage = .ended crashed exitCode) :
    s.ended = true := by
  unfold ended
  rw [h]

omit [Host] in
theorem running_of_asking {arguments : List QString} (h : s.stage = .asking arguments) :
    s.ended = false := by
  unfold ended
  rw [h]

omit [Host] in
theorem running_of_serving {left : Prog HelperI Empty Int} (h : s.stage = .serving left) :
    s.ended = false := by
  unfold ended
  rw [h]

/-- While pkexec asks, there is no helper yet. -/
theorem Sound.asking (h : Sound launch s) {arguments : List QString}
    (hasking : s.stage = .asking arguments) :
    arguments = launch.arguments ∧ s.helperCalls = [] ∧ s.output = [] := by
  have hstatus := h.status
  rw [hasking] at hstatus
  cases hstatus with
  | asking idle silent => exact ⟨rfl, idle, silent⟩

/-- While the helper runs, its calls are the first part of a run of its program, and its output is
what they wrote. -/
theorem Sound.serving (h : Sound launch s) {left : Prog HelperI Empty Int}
    (hserving : s.stage = .serving left) :
    Left launch.helper s.helperCalls left ∧ s.output = (writesOf s.helperCalls).flatten := by
  have hstatus := h.status
  rw [hserving] at hstatus
  cases hstatus with
  | serving left run wrote => exact ⟨run, wrote⟩

/-- The process goes on, and the client has noticed nothing. -/
theorem Sound.proceed (h : Sound launch s) (hrunning : s.ended = false) {stage : HelperStage}
    {calls : List (Event HelperI)} {stdout stdin : List UInt8}
    (hstatus : Status launch calls ((clientReads s.clientCalls).flatten ++ stdout) stage)
    (hstdin : (stdinReads calls).flatten ++ stdin = (clientWrites s.clientCalls).flatten) :
    Sound launch { s with stage, helperCalls := calls, stdout, stdin } := by
  have hunnoticed := h.unended hrunning
  refine ⟨h.left, hstatus, hstdin, fun hwaited => ?_, fun e he hop => absurd hop (hunnoticed e he), ?_,
    fun e he crashed hnotice => ?_, fun e he exitCode hnotice => ?_⟩
  · cases hrunning.symm.trans (h.waited hwaited)
  · rintro ⟨before, read, after, ht⟩
    refine absurd rfl (hunnoticed ⟨ClientOp.waitForFinished, ()⟩ ?_)
    rw [show s.clientCalls = _ from ht]
    simp
  · obtain ⟨exitCode, hended⟩ := h.crashed e he crashed hnotice
    cases hrunning.symm.trans (ended_of_stage hended)
  · obtain ⟨crashed, hended⟩ := h.exitCode e he exitCode hnotice
    cases hrunning.symm.trans (ended_of_stage hended)

/-! ### Calls of the client -/

/-- A call takes notice of the end only where there is one. -/
theorem Sound.call (h : Sound launch s) {e : Event ClientI}
    {client : Prog ClientI RestoreMessage RestoreResult} {stdout stdin : List UInt8} {waited : Bool}
    (hleft : Left (begun launch).client (s.clientCalls ++ [e]) client)
    (hwritten : s.stdin ++ (clientWrite e).toList.flatten = stdin)
    (hread : ((clientRead e).toList).flatten ++ stdout = s.stdout)
    (hall : (clientRead e).isSome = true → s.waited = true → stdout = [])
    (hstill : s.waited = true → waited = true) (hwaited : waited = true → s.ended = true)
    (hnotice : e.op = ClientOp.waitForFinished → waited = true)
    (hcrashed : ∀ crashed : Bool, e = ⟨ClientOp.crashed, crashed⟩ →
      ∃ exitCode, s.stage = .ended crashed exitCode)
    (hexitCode : ∀ exitCode : Int, e = ⟨ClientOp.exitCode, exitCode⟩ →
      ∃ crashed, s.stage = .ended crashed exitCode) :
    Sound launch { s with client, clientCalls := s.clientCalls ++ [e], stdout, stdin, waited } := by
  refine ⟨hleft, ?_, ?_, hwaited, fun e' he' hop => ?_, fun hdrained => ?_,
    fun e' he' crashed hevent => ?_, fun e' he' exitCode hevent => ?_⟩
  · have houtput : (clientReads (s.clientCalls ++ [e])).flatten ++ stdout = s.output := by
      rw [clientReads_concat, List.flatten_append, List.append_assoc, hread]
      rfl
    change Status launch s.helperCalls ((clientReads (s.clientCalls ++ [e])).flatten ++ stdout) s.stage
    rw [houtput]
    exact h.status
  · change (stdinReads s.helperCalls).flatten ++ stdin =
      (clientWrites (s.clientCalls ++ [e])).flatten
    rw [clientWrites_concat, List.flatten_append, ← h.stdin, ← hwritten, List.append_assoc]
  · rcases List.mem_append.mp he' with he' | he'
    · exact hstill (h.noticed e' he' hop)
    · obtain rfl := List.mem_singleton.mp he'
      exact hnotice hop
  · rcases drained_concat hdrained with hearlier | ⟨hsome, e', he', hop⟩
    · have hempty := h.drained hearlier
      rw [hempty] at hread
      exact (List.append_eq_nil_iff.mp hread).2
    · exact hall hsome (h.noticed e' he' hop)
  · rcases List.mem_append.mp he' with he' | he'
    · exact h.crashed e' he' crashed hevent
    · obtain rfl := List.mem_singleton.mp he'
      exact hcrashed crashed hevent
  · rcases List.mem_append.mp he' with he' | he'
    · exact h.exitCode e' he' exitCode hevent
    · obtain rfl := List.mem_singleton.mp he'
      exact hexitCode exitCode hevent

/-- A call that has nothing to do with the end or the pipe. -/
theorem Sound.aside (h : Sound launch s) {o : ClientOp} {ans : o.Ans}
    {client : Prog ClientI RestoreMessage RestoreResult}
    (hleft : Left (begun launch).client (s.clientCalls ++ [⟨o, ans⟩]) client)
    (hread : clientRead ⟨o, ans⟩ = none) (hwrite : clientWrite ⟨o, ans⟩ = none)
    (hwait : o ≠ .waitForFinished) (hcrashed : o ≠ .crashed) (hexitCode : o ≠ .exitCode) :
    Sound launch { s with client, clientCalls := s.clientCalls ++ [⟨o, ans⟩] } := by
  refine h.call hleft ?_ ?_ (fun hsome => ?_) id h.waited (fun hop => absurd hop hwait)
    (fun crashed hevent => ?_) fun exitCode hevent => ?_
  · rw [hwrite]
    exact List.append_nil _
  · rw [hread]
    rfl
  · rw [hread] at hsome
    cases hsome
  · cases hevent
    exact absurd rfl hcrashed
  · cases hevent
    exact absurd rfl hexitCode

omit [Host] in
theorem flatten_take_of_prefix {bytes pipe : List UInt8} (h : bytes.isPrefixOf pipe = true) :
    [bytes].flatten ++ pipe.drop bytes.length = pipe := by
  rw [List.flatten_singleton]
  exact List.prefix_iff_eq_append.mp (List.isPrefixOf_iff_prefix.mp h)

/-- A read takes from the pipe, and everything once the client has waited. -/
theorem Sound.read (h : Sound launch s) {bytes : List UInt8}
    {client : Prog ClientI RestoreMessage RestoreResult}
    (hleft : Left (begun launch).client (s.clientCalls ++ [⟨ClientOp.readStandardOutput, bytes⟩]) client)
    (htaken : (bytes.isPrefixOf s.stdout && (!s.waited || bytes.length = s.stdout.length)) = true) :
    Sound launch { s with
      client
      clientCalls := s.clientCalls ++ [⟨ClientOp.readStandardOutput, bytes⟩]
      stdout := s.stdout.drop bytes.length } := by
  rw [Bool.and_eq_true] at htaken
  refine h.call hleft (List.append_nil _) ?_ (fun _ hwaited => ?_) id h.waited (fun hop => by cases hop)
    (fun crashed hevent => by cases hevent) fun exitCode hevent => by cases hevent
  · exact flatten_take_of_prefix htaken.1
  · have hlength := htaken.2
    rw [hwaited, Bool.not_true, Bool.false_or, decide_eq_true_eq] at hlength
    rw [hlength, List.drop_length]

/-- The helper is asked for with the arguments of the request. -/
theorem Sound.start (h : Sound launch s) {program : QString} {arguments : List QString} {ms : Nat}
    {ans : (ClientOp.start program arguments ms).Ans}
    {client : Prog ClientI RestoreMessage RestoreResult}
    (hleft : Left (begun launch).client
      (s.clientCalls ++ [⟨ClientOp.start program arguments ms, ans⟩]) client)
    (hunstarted : s.stage = .unstarted) :
    Sound launch { s with
      stage := .asking arguments.tail
      client
      clientCalls := s.clientCalls ++ [⟨ClientOp.start program arguments ms, ans⟩] } := by
  have hcalls :=
    ((begun_calls launch).runs hleft.run).1 ⟨.start program arguments ms, ans⟩ (by simp)
  have harguments : arguments.tail = launch.arguments := by
    rcases hcalls with hsession | ⟨program', ms', hstart⟩
    · exact hsession.elim
    · cases hstart
      rfl
  have hstatus := h.status
  rw [hunstarted] at hstatus
  have hrunning : s.ended = false := by
    unfold ended
    rw [hunstarted]
  rw [harguments]
  cases hstatus with
  | unstarted idle silent =>
    have hasking : Sound launch { s with stage := .asking launch.arguments } :=
      h.proceed hrunning (.asking idle silent) h.stdin
    exact hasking.aside hleft rfl rfl (fun h => by cases h) (fun h => by cases h) fun h => by cases h

/-- The client is told that the helper has ended only where it has. -/
theorem Sound.wait (h : Sound launch s) {client : Prog ClientI RestoreMessage RestoreResult}
    (hleft : Left (begun launch).client (s.clientCalls ++ [⟨ClientOp.waitForFinished, ()⟩]) client)
    (hended : s.ended = true) :
    Sound launch { s with
      client
      clientCalls := s.clientCalls ++ [⟨ClientOp.waitForFinished, ()⟩]
      waited := true } :=
  h.call hleft (List.append_nil _) rfl (fun hsome => by cases hsome) (fun _ => rfl)
    (fun _ => hended) (fun _ => rfl) (fun crashed hevent => by cases hevent)
    fun exitCode hevent => by cases hevent

/-- The client is told of a crash only when there was one. -/
theorem Sound.toldCrashed (h : Sound launch s) {crashed : Bool} {exitCode : Int}
    {client : Prog ClientI RestoreMessage RestoreResult}
    (hleft : Left (begun launch).client (s.clientCalls ++ [⟨ClientOp.crashed, crashed⟩]) client)
    (hstage : s.stage = .ended crashed exitCode) :
    Sound launch { s with
      client, clientCalls := s.clientCalls ++ [⟨ClientOp.crashed, crashed⟩] } := by
  refine h.call hleft (List.append_nil _) rfl (fun hsome => by cases hsome) id h.waited
    (fun hop => by cases hop) (fun crashed' hevent => ?_) fun exitCode hevent => by cases hevent
  cases hevent
  exact ⟨exitCode, hstage⟩

/-- The client is told the exit code that the helper ended with. -/
theorem Sound.toldExitCode (h : Sound launch s) {crashed : Bool} {exitCode : Int}
    {client : Prog ClientI RestoreMessage RestoreResult}
    (hleft : Left (begun launch).client (s.clientCalls ++ [⟨ClientOp.exitCode, exitCode⟩]) client)
    (hstage : s.stage = .ended crashed exitCode) :
    Sound launch { s with
      client, clientCalls := s.clientCalls ++ [⟨ClientOp.exitCode, exitCode⟩] } := by
  refine h.call hleft (List.append_nil _) rfl (fun hsome => by cases hsome) id h.waited
    (fun hop => by cases hop) (fun crashed hevent => by cases hevent) fun exitCode' hevent => ?_
  cases hevent
  exact ⟨crashed, hstage⟩

/-- What the client writes goes into the other pipe. -/
theorem Sound.write (h : Sound launch s) {bytes : List UInt8} {ans : (ClientOp.write bytes).Ans}
    {client : Prog ClientI RestoreMessage RestoreResult}
    (hleft : Left (begun launch).client (s.clientCalls ++ [⟨ClientOp.write bytes, ans⟩]) client) :
    Sound launch { s with
      client
      clientCalls := s.clientCalls ++ [⟨ClientOp.write bytes, ans⟩]
      stdin := s.stdin ++ bytes } := by
  refine h.call hleft ?_ rfl (fun hsome => by cases hsome) id h.waited (fun hop => by cases hop)
    (fun crashed hevent => by cases hevent) fun exitCode hevent => by cases hevent
  change s.stdin ++ [bytes].flatten = s.stdin ++ bytes
  rw [List.flatten_singleton]

/-- Every call of the client, as it is answered. -/
theorem Sound.client (h : Sound launch s) {o : ClientOp}
    {next : o.Ans → Prog ClientI RestoreMessage RestoreResult} (hclient : s.client = .call o next)
    {ans : o.Ans} {s' : RestoreProcesses} (hanswer : s.answerClient o ans = some s') :
    Sound launch { s' with client := next ans, clientCalls := s'.clientCalls ++ [⟨o, ans⟩] } := by
  have hleft : Left (begun launch).client (s.clientCalls ++ [⟨o, ans⟩]) (next ans) := by
    have hbefore := h.left
    rw [hclient] at hbefore
    exact hbefore.call ans
  cases o with
  | start program arguments ms =>
    unfold answerClient at hanswer
    dsimp only at hanswer
    split at hanswer
    · next hunstarted =>
      cases hanswer
      exact h.start hleft hunstarted
    · cases hanswer
  | isRunning =>
    unfold answerClient at hanswer
    dsimp only at hanswer
    split at hanswer
    · cases hanswer
      exact h.aside hleft rfl rfl (fun h => by cases h) (fun h => by cases h) fun h => by cases h
    · cases hanswer
  | readStandardOutput =>
    unfold answerClient at hanswer
    dsimp only at hanswer
    split at hanswer
    · next htaken =>
      cases hanswer
      exact h.read hleft htaken
    · cases hanswer
  | waitForFinished =>
    unfold answerClient at hanswer
    dsimp only at hanswer
    split at hanswer
    · next hended =>
      cases hanswer
      exact h.wait hleft hended
    · cases hanswer
  | crashed =>
    unfold answerClient at hanswer
    dsimp only at hanswer
    split at hanswer
    · next hstage =>
      split at hanswer
      · next hsame =>
        cases hanswer
        exact h.toldCrashed hleft (hsame ▸ hstage)
      · cases hanswer
    · cases hanswer
  | exitCode =>
    unfold answerClient at hanswer
    dsimp only at hanswer
    split at hanswer
    · next hstage =>
      split at hanswer
      · next hsame =>
        cases hanswer
        exact h.toldExitCode hleft (hsame ▸ hstage)
      · cases hanswer
    · cases hanswer
  | write bytes =>
    cases hanswer
    exact h.write hleft
  | _ =>
    cases hanswer
    exact h.aside hleft rfl rfl (fun h => by cases h) (fun h => by cases h) fun h => by cases h

/-! ### Every step -/

/-- A step of the helper keeps the two processes in step. -/
theorem Sound.helper (h : Sound launch s) {o : HelperOp} {next : o.Ans → Prog HelperI Empty Int}
    (hserving : s.stage = .serving (.call o next)) {ans : o.Ans} {s' : RestoreProcesses}
    (hanswer : s.answerHelper o ans = some s') :
    Sound launch { s' with stage := .serving (next ans), helperCalls := s'.helperCalls ++ [⟨o, ans⟩] } := by
  have hrunning := running_of_serving hserving
  obtain ⟨run, wrote⟩ := h.serving hserving
  have hrun := run.call ans
  -- What is written goes into the pipe.
  have hsilent : writtenBytes ⟨o, ans⟩ = none → Status launch (s.helperCalls ++ [⟨o, ans⟩])
      ((clientReads s.clientCalls).flatten ++ s.stdout) (.serving (next ans)) := by
    intro hnone
    refine .serving _ hrun ?_
    rw [writesOf_append, List.flatten_append]
    simpa [writesOf, hnone, output] using wrote
  -- What is read comes out of the other one.
  have hstdin : stdinRead ⟨o, ans⟩ = none →
      (stdinReads (s.helperCalls ++ [⟨o, ans⟩])).flatten ++ s.stdin =
        (clientWrites s.clientCalls).flatten := by
    intro hnone
    rw [stdinReads_concat, hnone, Option.toList_none, List.append_nil]
    exact h.stdin
  cases o with
  | writeStdout bytes =>
    cases hanswer
    refine h.proceed hrunning (.serving _ hrun ?_) (hstdin rfl)
    rw [writesOf_append, List.flatten_append, ← List.append_assoc, ← wrote]
    simp [writesOf, writtenBytes, output]
  | readStdin =>
    unfold answerHelper at hanswer
    dsimp only at hanswer
    split at hanswer
    · next htaken =>
      cases hanswer
      refine h.proceed hrunning (hsilent rfl) ?_
      rw [stdinReads_concat, List.flatten_append, List.append_assoc, ← h.stdin]
      refine congrArg _ ?_
      exact flatten_take_of_prefix (Bool.and_eq_true_iff.mp htaken).1
    · cases hanswer
  | _ =>
    cases hanswer
    exact h.proceed hrunning (hsilent rfl) (hstdin rfl)

/-- Every step of the two processes keeps them in step, whoever takes it: the client, the helper,
pkexec or whatever kills the helper. -/
theorem Sound.act (h : Sound launch s) {next : ProcessStep} {s' : RestoreProcesses}
    (hact : s.act launch next = some s') : Sound launch s' := by
  cases next with
  | client answer =>
    unfold RestoreProcesses.act at hact
    dsimp only at hact
    split at hact
    · next o next hclient =>
      obtain ⟨s'', hanswer, rfl⟩ := Option.map_eq_some_iff.mp hact
      exact h.client hclient hanswer
    · cases hact
  | authenticate =>
    unfold RestoreProcesses.act at hact
    dsimp only at hact
    split at hact
    · next arguments hasking =>
      cases hact
      obtain ⟨rfl, idle, silent⟩ := h.asking hasking
      refine h.proceed (running_of_asking hasking) ?_ h.stdin
      rw [idle]
      exact .serving _ .start silent
    · cases hact
  | refuse crashed exitCode =>
    unfold RestoreProcesses.act at hact
    dsimp only at hact
    split at hact
    · next arguments hasking =>
      cases hact
      obtain ⟨-, idle, silent⟩ := h.asking hasking
      exact h.proceed (running_of_asking hasking) (.refused crashed exitCode idle silent) h.stdin
    · cases hact
  | helper answer =>
    unfold RestoreProcesses.act at hact
    dsimp only at hact
    split at hact
    · next o next hserving =>
      obtain ⟨s'', hanswer, rfl⟩ := Option.map_eq_some_iff.mp hact
      exact h.helper hserving hanswer
    · cases hact
  | exit =>
    unfold RestoreProcesses.act at hact
    dsimp only at hact
    split at hact
    · next exitCode hserving =>
      cases hact
      obtain ⟨run, wrote⟩ := h.serving hserving
      exact h.proceed (running_of_serving hserving) (.exited exitCode run wrote) h.stdin
    · cases hact
  | crash exitCode written =>
    unfold RestoreProcesses.act at hact
    dsimp only at hact
    split at hact
    · next left hserving =>
      cases hact
      obtain ⟨run, wrote⟩ := h.serving hserving
      refine h.proceed (running_of_serving hserving) (.crashed exitCode left run ?_) h.stdin
      rw [← wrote, ← List.append_assoc]
      exact List.prefix_append _ _
    · cases hact

/-- In every reachable state the two processes are in step, by induction on the steps that led
there. -/
theorem Reachable.sound (h : Reachable launch s) : Sound launch s := by
  induction h with
  | begun => exact sound_begun launch
  | step before next acts ih => exact ih.act acts

end

end RestoreProcesses

end UsbRestore
