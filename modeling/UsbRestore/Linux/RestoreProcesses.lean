-- SUMMARY: The client and the helper as two processes, with pkexec and the pipes between them.
import UsbRestore.Base.Threads
import UsbRestore.Helper.Main
import UsbRestore.Linux.HelperClient

/-!
# The processes of a restore

The client starts pkexec, which asks for a password and becomes the helper. From then on both run by
themselves, with a pipe in either direction. Which of them goes on, how much a read takes and when a
process dies is left open.
-/

namespace UsbRestore

open Prog

/-- What a restore without root is begun with; the client and the helper are of one build. -/
structure RestoreLaunch where
  installed : Catalog
  appVersion : QString
  request : RestoreRequest
  uiLanguages : List Language
  /-- How many turns the loop of the client may take. -/
  turns : Nat
  fuel : LoopFuel

/-- What has become of the process that the client starts. -/
inductive HelperStage where
  | unstarted
  /-- pkexec waits for a password, with the arguments of the helper. -/
  | asking (arguments : List QString)
  /-- The helper has taken the place of pkexec; this is left of it. -/
  | serving (left : Prog HelperI Empty Int)
  | ended (crashed : Bool) (exitCode : Int)

structure RestoreProcesses where
  /-- What is left of the client. -/
  client : Prog ClientI RestoreMessage RestoreResult
  clientCalls : List (Event ClientI) := []
  stage : HelperStage := .unstarted
  helperCalls : List (Event HelperI) := []
  /-- Written by the helper and not read yet. -/
  stdout : List UInt8 := []
  /-- Written by the client and not read yet. -/
  stdin : List UInt8 := []
  /-- The client has waited for the end of the process. -/
  waited : Bool := false

/-- What can happen next. -/
inductive ProcessStep where
  | client (answer : (o : ClientOp) → o.Ans)
  /-- The password is right. -/
  | authenticate
  /-- pkexec ends and no helper was started: dismissed, refused, or killed in time. -/
  | refuse (crashed : Bool) (exitCode : Int)
  | helper (answer : (o : HelperOp) → o.Ans)
  | exit
  /-- The helper dies, and of what it was writing that many bytes are in the pipe. -/
  | crash (exitCode : Int) (written : Nat)

/-- What a program is about to write to stdout. -/
def pendingWrite : Prog HelperI Empty Int → List UInt8
  | .call (.writeStdout bytes) _ => bytes
  | _ => []

namespace RestoreProcesses

def ended (s : RestoreProcesses) : Bool :=
  match s.stage with
  | .ended _ _ => true
  | _ => false

/-- Whether the client can be given an answer, and what it leaves. The signal of `kill` is a process
step; once the client has waited for the end, all that was written can be read. -/
def answerClient (s : RestoreProcesses) : (o : ClientOp) → o.Ans → Option RestoreProcesses
  | .start _ arguments _, _ =>
    match s.stage with
    | .unstarted => some { s with stage := .asking arguments.tail }
    | _ => none
  | .isRunning, (running : Bool) => if running || s.ended then some s else none
  | .readStandardOutput, (bytes : List UInt8) =>
    if bytes.isPrefixOf s.stdout && (!s.waited || bytes.length = s.stdout.length) then
      some { s with stdout := s.stdout.drop bytes.length }
    else none
  | .write bytes, _ => some { s with stdin := s.stdin ++ bytes }
  | .waitForFinished, _ => if s.ended then some { s with waited := true } else none
  | .crashed, (crashed : Bool) =>
    match s.stage with
    | .ended crashed' _ => if crashed = crashed' then some s else none
    | _ => none
  | .exitCode, (exitCode : Int) =>
    match s.stage with
    | .ended _ exitCode' => if exitCode = exitCode' then some s else none
    | _ => none
  | _, _ => some s

/-- The same for the helper, which reads at most 63 bytes of its stdin. -/
def answerHelper (s : RestoreProcesses) : (o : HelperOp) → o.Ans → Option RestoreProcesses
  | .writeStdout bytes, _ => some { s with stdout := s.stdout ++ bytes }
  | .readStdin, (bytes : List UInt8) =>
    if bytes.isPrefixOf s.stdin && bytes.length ≤ 63 then
      some { s with stdin := s.stdin.drop bytes.length }
    else none
  | _, _ => some s

variable [Host] (launch : RestoreLaunch)

def act (s : RestoreProcesses) : ProcessStep → Option RestoreProcesses
  | .client answer =>
    match s.client with
    | .call o next =>
      (s.answerClient o (answer o)).map fun s =>
        { s with client := next (answer o), clientCalls := s.clientCalls ++ [⟨o, answer o⟩] }
    | _ => none
  | .authenticate =>
    match s.stage with
    | .asking arguments =>
      some { s with stage := .serving (helperMain launch.fuel launch.appVersion arguments) }
    | _ => none
  | .refuse crashed exitCode =>
    match s.stage with
    | .asking _ => some { s with stage := .ended crashed exitCode }
    | _ => none
  | .helper answer =>
    match s.stage with
    | .serving (.call o next) =>
      (s.answerHelper o (answer o)).map fun s =>
        { s with
          stage := .serving (next (answer o))
          helperCalls := s.helperCalls ++ [⟨o, answer o⟩] }
    | _ => none
  | .exit =>
    match s.stage with
    | .serving (.ret exitCode) => some { s with stage := .ended false exitCode }
    | _ => none
  | .crash exitCode written =>
    match s.stage with
    | .serving left =>
      some { s with
        stage := .ended true exitCode
        stdout := s.stdout ++ (pendingWrite left).take written }
    | _ => none

/-- The client before its first call. -/
def begun : RestoreProcesses where
  client :=
    runHelperRestore launch.installed launch.turns launch.appVersion launch.request launch.uiLanguages

/-- What the two processes can come to. -/
inductive Reachable : RestoreProcesses → Prop where
  | begun : Reachable (begun launch)
  | step {s s' : RestoreProcesses} (before : Reachable s) (next : ProcessStep)
    (acts : s.act launch next = some s') : Reachable s'

variable {launch}

/-! ## The calls of the client -/

section

omit [Host]

/-- An answer makes no call, and only a start starts a process. -/
theorem answerClient_keeps {o : ClientOp} {ans : o.Ans} {s s' : RestoreProcesses}
    (h : s.answerClient o ans = some s') : s'.clientCalls = s.clientCalls ∧
      ((∀ program arguments ms, o ≠ .start program arguments ms) → s'.stage = s.stage) := by
  unfold answerClient at h
  split at h
  · split at h
    · cases h
      exact ⟨rfl, fun hother => absurd rfl (hother _ _ _)⟩
    · cases h
  · split at h
    · cases h
      exact ⟨rfl, fun _ => rfl⟩
    · cases h
  · split at h
    · cases h
      exact ⟨rfl, fun _ => rfl⟩
    · cases h
  · cases h
    exact ⟨rfl, fun _ => rfl⟩
  · split at h
    · cases h
      exact ⟨rfl, fun _ => rfl⟩
    · cases h
  · split at h
    · split at h
      · cases h
        exact ⟨rfl, fun _ => rfl⟩
      · cases h
    · cases h
  · split at h
    · split at h
      · cases h
        exact ⟨rfl, fun _ => rfl⟩
      · cases h
    · cases h
  · cases h
    exact ⟨rfl, fun _ => rfl⟩

theorem clientCalls_of_answerHelper {o : HelperOp} {ans : o.Ans} {s s' : RestoreProcesses}
    (h : s.answerHelper o ans = some s') : s'.clientCalls = s.clientCalls := by
  unfold answerHelper at h
  split at h
  · cases h
    rfl
  · split at h
    · cases h
      rfl
    · cases h
  · cases h
    rfl

end

/-- The client makes the call that it is about to make. -/
theorem called_of_act {s s' : RestoreProcesses} {o : ClientOp}
    {next : o.Ans → Prog ClientI RestoreMessage RestoreResult} (hclient : s.client = .call o next)
    {answer : (o : ClientOp) → o.Ans} (h : s.act launch (.client answer) = some s') :
    s'.clientCalls = s.clientCalls ++ [⟨o, answer o⟩] := by
  unfold act at h
  dsimp only at h
  rw [hclient] at h
  obtain ⟨s'', hanswer, rfl⟩ := Option.map_eq_some_iff.mp h
  exact congrArg (· ++ [_]) (answerClient_keeps hanswer).1

/-- And nobody else makes one for it. -/
theorem clientCalls_of_act {s s' : RestoreProcesses} {next : ProcessStep}
    (hother : ∀ answer, next ≠ .client answer) (h : s.act launch next = some s') :
    s'.clientCalls = s.clientCalls := by
  cases next with
  | client answer => exact absurd rfl (hother answer)
  | helper answer =>
    unfold act at h
    dsimp only at h
    split at h
    · obtain ⟨s'', hanswer, rfl⟩ := Option.map_eq_some_iff.mp h
      have hkept := clientCalls_of_answerHelper hanswer
      exact hkept
    · cases h
  | _ =>
    unfold act at h
    dsimp only at h
    split at h
    · cases h
      rfl
    · cases h

end RestoreProcesses

end UsbRestore
