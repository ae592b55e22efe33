-- SUMMARY: The client half of a Linux restore: it starts the helper through pkexec and listens to it.
import UsbRestore.Core.HelperRun
import UsbRestore.Linux.HelperStream
import UsbRestore.Linux.Sysfs

/-!
# The helper's client

The unprivileged half of a Linux restore. It knows of the helper only what comes out of the pipe and
how the process ends, and it has two levers: a token on stdin, and a signal that fails silently once
the helper runs as root.
-/

namespace UsbRestore

/-- `USBRESTORE_HELPER_PATH` -/
def HelperPath : QString := QStringLiteral "/usr/libexec/usb-restoration-helper"

def ProcessStartTimeoutMs : Nat := 30 * 1000

def VersionProbeTimeoutMs : Nat := 10 * 1000

def PollIntervalMs : Nat := 200

/-! ## The client's calls -/

/-- The calls of `runHelperRestore`; those that start with `probe` are the calls on the process of
the version probe. -/
inductive ClientOp where
  | sys (op : SysOp)
  | probeStart (program : QString) (arguments : List QString) (ms : Nat)
  | probeFinished (ms : Nat)
  | probeKill
  | probeOutput
  /-- `start` and `waitForStarted` -/
  | start (program : QString) (arguments : List QString) (ms : Nat)
  /-- `state() != NotRunning` -/
  | isRunning
  | waitForReadyRead (ms : Nat)
  | readStandardOutput
  | write (bytes : List UInt8)
  | kill
  | waitForFinished
  /-- `exitStatus() != NormalExit` -/
  | crashed
  | exitCode
  | readStandardError
  | step (message : RestoreMessage)
  | detail (message : QString)
  | cancelRequested

def ClientOp.Ans : ClientOp → Type
  | .sys op => op.Ans
  | .probeStart _ _ _ => Bool
  | .probeFinished _ => Bool
  | .probeKill => Unit
  | .probeOutput => List UInt8
  | .start _ _ _ => Bool
  | .isRunning => Bool
  | .waitForReadyRead _ => Unit
  | .readStandardOutput => List UInt8
  | .write _ => Unit
  | .kill => Unit
  | .waitForFinished => Unit
  | .crashed => Bool
  | .exitCode => Int
  | .readStandardError => List UInt8
  | .step _ => Unit
  | .detail _ => Unit
  | .cancelRequested => Bool

def ClientI : Interface := ⟨ClientOp, ClientOp.Ans⟩

variable {ε : Type}

def clientCall (o : ClientOp) : Prog ClientI ε o.Ans := Prog.op (I := ClientI) o

/-- How the client answers what it shares with the backend; there is no reporter there. -/
def clientAnswer : (o : LinuxOp) → Unit → Prog ClientI ε (o.Ans × Unit)
  | .sys o, s => do
    let ans ← clientCall (.sys o)
    return (ans, s)
  | .reporter (.step _ message), s => do
    clientCall (.step message)
    return ((), s)
  | .reporter (.detail message), s => do
    clientCall (.detail message)
    return ((), s)
  | .reporter .cancelRequested, s => do
    let cancelled ← clientCall .cancelRequested
    return (cancelled, s)

/-- `findSystemExecutable` -/
def findClientExecutable (name : QString) : Prog ClientI ε QString := do
  let (found, _) ← Prog.handle (I := LinuxI) (ε := Empty) clientAnswer (findSystemExecutable name) ()
  match found with
  | .ok path => return path

/-! ## The session -/

/-- The variables of `runHelperRestore` while the helper runs. -/
structure HelperSession where
  buffer : List UInt8 := []
  location : QString := []
  displayFailure : QString := []
  sawVersion : Bool := false
  versionAccepted : Bool := false
  versionError : RestoreMessage := {}
  cancelTokenWritten : Bool := false
  killRequested : Bool := false

/-- `acceptAnnouncement` -/
def acceptAnnouncement (installed : Catalog) (appVersion : QString) (line : ProtocolLine) :
    Except RestoreMessage Unit :=
  checkRestoreError installed fun mode =>
    acceptHelperAnnouncement line appVersion linuxRestorePlan mode

namespace HelperSession

/-- `askHelperToStop` -/
def askHelperToStop (session : HelperSession) : Prog ClientI ε HelperSession := do
  if session.cancelTokenWritten then return session
  else
    clientCall (.write CancelRequestToken)
    clientCall (.write [newline])
    return { session with cancelTokenWritten := true }

/-- A version line. A second one is a malfunction, and must not undo a refusal. -/
def announce (installed : Catalog) (appVersion : QString) (parsed : ProtocolLine)
    (session : HelperSession) : HelperSession :=
  if session.sawVersion then { session with versionAccepted := false }
  else
    match acceptAnnouncement installed appVersion parsed with
    | .ok () => { session with versionAccepted := true, sawVersion := true }
    | .error versionError => { session with versionAccepted := false, sawVersion := true, versionError }

/-- A failure line: the first explanation after an accepted version. -/
def explain (text : QString) (session : HelperSession) : HelperSession :=
  if session.versionAccepted ∧ session.displayFailure.isEmpty ∧ !text.isEmpty then
    { session with displayFailure := text }
  else session

/-- The message of a step line: the client's own wording where the plan is the same. -/
def stepMessage (installed : Catalog) (request : RestoreRequest) (parsed : ProtocolLine)
    (session : HelperSession) : RestoreMessage :=
  let message := RestoreMessage.ofText parsed.text
  let known :=
    if session.versionAccepted ∧ parsed.totalSteps = linuxRestorePlan.length ∧ 1 ≤ parsed.step ∧
        parsed.step ≤ linuxRestorePlan.length then
      linuxRestorePlan[(parsed.step - 1).toNat]?
    else none
  match known with
  | some step =>
    { message with
      display := (restoreStepMessage installed step request.style request.fileSystem).display }
  | none => message

/-- The body of `consume`. -/
def consumeLine (installed : Catalog) (appVersion : QString) (request : RestoreRequest)
    (session : HelperSession) (line : QString) : Prog ClientI ε HelperSession := do
  if line.isEmpty then return session
  else
    let parsed := parseProtocolLine line
    match parsed.kind with
    | .version =>
      let session := session.announce installed appVersion parsed
      if !session.versionAccepted then session.askHelperToStop else return session
    | .step =>
      clientCall (.step (session.stepMessage installed request parsed))
      return session
    | .detail =>
      clientCall (.detail parsed.text)
      return session
    | .failure => return session.explain parsed.text
    | .result => return { session with location := parsed.text }
    | .unknown =>
      clientCall (.detail ((QStringLiteral "helper: %1").arg [line]))
      return session

/-- `consume` -/
def consume (installed : Catalog) (appVersion : QString) (request : RestoreRequest)
    (session : HelperSession) : List QString → Prog ClientI ε HelperSession
  | [] => return session
  | line :: lines => do
    let session ← consumeLine installed appVersion request session line
    session.consume installed appVersion request lines

/-- What has arrived, its complete lines consumed. -/
def readOutput (installed : Catalog) (appVersion : QString) (request : RestoreRequest)
    (session : HelperSession) : Prog ClientI ε HelperSession := do
  let read : List UInt8 ← clientCall .readStandardOutput
  let (lines, buffer) := takeCompleteLines (session.buffer ++ read)
  { session with buffer }.consume installed appVersion request lines

/-- The request of the user to stop, at most one lever for each turn. -/
def pollCancel (session : HelperSession) : Prog ClientI ε HelperSession := do
  let requested : Bool ← clientCall .cancelRequested
  if requested ∧ !session.cancelTokenWritten then
    if session.sawVersion then session.askHelperToStop
    else if !session.killRequested then
      clientCall .kill
      return { session with killRequested := true }
    else return session
  else return session

/-- The loop while the process runs. -/
def watch (installed : Catalog) (appVersion : QString) (request : RestoreRequest) :
    (turns : Nat) → HelperSession → Prog ClientI ε HelperSession
  | 0, _ => .spin
  | turns + 1, session => do
    let running : Bool ← clientCall .isRunning
    if !running then return session
    else
      clientCall (.waitForReadyRead PollIntervalMs)
      let session ← session.readOutput installed appVersion request
      let session ← session.pollCancel
      session.watch installed appVersion request turns

/-- What is left when the process has ended: the rest of the pipe, then a last line without its
newline. -/
def drain (installed : Catalog) (appVersion : QString) (request : RestoreRequest)
    (session : HelperSession) : Prog ClientI ε HelperSession := do
  clientCall .waitForFinished
  let session ← session.readOutput installed appVersion request
  session.consume installed appVersion request (flushBuffer session.buffer)

/-- The run as it was observed. -/
def observation (session : HelperSession) (crashed : Bool) (exitCode : Int)
    (standardError : List UInt8) : HelperRunObservation where
  crashed
  exitCode
  sawVersion := session.sawVersion
  versionAccepted := session.versionAccepted
  versionError := session.versionError.english
  killRequested := session.killRequested
  location := session.location
  helperStderr := (QString.fromLocal8Bit standardError).trimmed
  displayFailure := session.displayFailure

/-- The verdict over the session. A cancellation is a failure without a text. -/
def verdict (installed : Catalog) (session : HelperSession) (crashed : Bool) (exitCode : Int)
    (standardError : List UInt8) : Except RestoreMessage RestoreResult :=
  let run := session.observation crashed exitCode standardError
  match judgeHelperRun run .english with
  | .cancelled => .error {}
  | .failed english =>
    let displayRun := { run with versionError := session.versionError.display }
    .error
      { english
        display := match judgeHelperRun displayRun (.display installed) with
          | .failed display => display
          | _ => [] }
  | .succeeded => .ok ⟨session.location⟩

end HelperSession

/-! ## Before the session -/

/-- `helperSpeaksOurProtocol`: unprivileged, before any password is asked for. -/
def helperSpeaksOurProtocol (installed : Catalog) (appVersion helper : QString) :
    Prog ClientI RestoreMessage Unit := do
  let refuse : Prog ClientI RestoreMessage Unit := do
    clientCall .probeKill
    let _ ← clientCall (.probeFinished 1000)
    .fail ((restoreText installed (QStringLiteral "The restore helper at %1 could not be started.")).arg
      [.ofText helper])
  let started : Bool ← clientCall (.probeStart helper [ProtocolVersionFlag] VersionProbeTimeoutMs)
  if !started then refuse
  else
    let finished : Bool ← clientCall (.probeFinished VersionProbeTimeoutMs)
    if !finished then refuse
    else
      let output : List UInt8 ← clientCall .probeOutput
      .ofExcept
        (acceptAnnouncement installed appVersion
          (parseProtocolLine (QString.fromLocal8Bit output).trimmed))

/-- pkexec started with the helper and its arguments. -/
def startHelper (installed : Catalog) (appVersion : QString) (request : RestoreRequest)
    (uiLanguages : List Language) : Prog ClientI RestoreMessage Unit := do
  let helper : FileInfo ← clientCall (.sys (.fileInfo HelperPath))
  if !helper.present || !helper.isExecutable || helper.isDir then
    .fail ((restoreText installed (QStringLiteral "The restore helper was not found at %1. USB Restoration Tool has to be installed to restore a drive without running the whole application as root.")).arg
      [.ofText HelperPath])
  else
    let pkexec ← findClientExecutable (QStringLiteral "pkexec")
    if pkexec.isEmpty then
      .fail (restoreText installed (QStringLiteral "pkexec was not found, so permission to restore the drive cannot be requested. Install polkit, or run USB Restoration Tool with sudo."))
    else
      helperSpeaksOurProtocol installed appVersion HelperPath
      let started : Bool ← clientCall
        (.start pkexec
          (HelperPath :: buildRestoreArguments request.disk request.style request.fileSystem
            request.volumeLabel request.displayLanguage uiLanguages)
          ProcessStartTimeoutMs)
      if !started then
        .fail (restoreText installed (QStringLiteral "pkexec could not be started, so permission to restore the drive could not be requested."))
      else return ()

/-! ## The whole client -/

/-- The session with a helper that was started, and its verdict. -/
def hearHelper (installed : Catalog) (turns : Nat) (appVersion : QString)
    (request : RestoreRequest) : Prog ClientI RestoreMessage RestoreResult := do
  let session ← HelperSession.watch installed appVersion request turns {}
  let session ← session.drain installed appVersion request
  let crashed : Bool ← clientCall .crashed
  let exitCode : Int ← clientCall .exitCode
  let standardError : List UInt8 ← clientCall .readStandardError
  .ofExcept (session.verdict installed crashed exitCode standardError)

/-- `runHelperRestore` with a loop of at most `turns` turns. -/
def runHelperRestore (installed : Catalog) (turns : Nat) (appVersion : QString)
    (request : RestoreRequest) (uiLanguages : List Language) :
    Prog ClientI RestoreMessage RestoreResult := do
  startHelper installed appVersion request uiLanguages
  hearHelper installed turns appVersion request

end UsbRestore
