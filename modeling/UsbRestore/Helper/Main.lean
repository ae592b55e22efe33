-- SUMMARY: The privileged helper: its reporter on the standard streams, and its main function.
import UsbRestore.Core.ProtocolLine
import UsbRestore.Linux.Restore

/-!
# The restore helper

The root half of a Linux restore. Any local process can start it, so its arguments are claims to
check against what the helper finds itself. It runs the Linux backend with a reporter that
writes protocol lines to stdout and takes the cancel token from stdin.
-/

namespace UsbRestore

def ShowTranslationFlag : QString := QStringLiteral "--show-translation"

/-! ## The helper's calls -/

inductive HelperOp where
  | sys (op : SysOp)
  | geteuid
  /-- Loads and installs both German catalogs. -/
  | installGerman
  | isatty
  /-- `poll` reports that stdin can be read. -/
  | pollStdin
  /-- `read` of at most 63 bytes; nothing where it fails or the caller is gone. -/
  | readStdin
  | writeStdout (bytes : List UInt8)
  | writeStderr (bytes : List UInt8)

def HelperOp.Ans : HelperOp → Type
  | .sys op => op.Ans
  | .geteuid => UInt32
  | .installGerman => Option Catalog
  | .isatty => Bool
  | .pollStdin => Bool
  | .readStdin => List UInt8
  | .writeStdout _ => Unit
  | .writeStderr _ => Unit

def HelperI : Interface := ⟨HelperOp, HelperOp.Ans⟩

variable {ε : Type}

def helperCall (o : HelperOp) : Prog HelperI ε o.Ans := Prog.op (I := HelperI) o

def geteuid : Prog HelperI ε UInt32 := helperCall .geteuid

def installGerman : Prog HelperI ε (Option Catalog) := helperCall .installGerman

def isatty : Prog HelperI ε Bool := helperCall .isatty

def pollStdin : Prog HelperI ε Bool := helperCall .pollStdin

def readStdin : Prog HelperI ε (List UInt8) := helperCall .readStdin

def writeLine (line : QString) : Prog HelperI ε Unit :=
  helperCall (.writeStdout (lineBytes line))

def announceVersion (appVersion : QString) : Prog HelperI ε Unit :=
  writeLine (encodeVersionLine RestoreProtocolVersion appVersion linuxRestorePlan)

def writeError (message : QString) : Prog HelperI ε Unit :=
  helperCall (.writeStderr (lineBytes (sanitizeProtocolText message)))

/-- Stderr gets the English diagnostic, stdout the display explanation. -/
def writeFailure (english display : QString) : Prog HelperI ε Unit := do
  writeError english
  if !display.isEmpty then writeLine (encodeFailureLine display) else return ()

/-! ## The reporter -/

structure HelperReporter where
  step : Nat := 0
  request : List UInt8 := []
  cancelled : Bool := false

namespace HelperReporter

/-- `step` -/
def writeStep (reporter : HelperReporter) (message : RestoreMessage) :
    Prog HelperI ε (Unit × HelperReporter) := do
  let total := linuxRestorePlan.length
  let number := min (reporter.step + 1) total
  writeLine (encodeStepLine number total message.english)
  return ((), { reporter with step := number })

/-- The loop of `detail` over the lines of a message. -/
def writeDetails : List QString → Prog HelperI ε Unit
  | [] => return ()
  | line :: lines => do
    let sanitized := sanitizeProtocolText line
    if !sanitized.isEmpty then
      writeLine (encodeDetailLine sanitized)
      writeDetails lines
    else writeDetails lines

def detail (message : QString) : Prog HelperI ε Unit :=
  writeDetails (QString.splitSkipEmpty (QChar.ofChar '\n') message)

/-- Whether the bytes hold the cancel token. -/
def containsToken (request : List UInt8) : Bool :=
  request.tails.any fun tail => CancelRequestToken.isPrefixOf tail

def cancelRequested (reporter : HelperReporter) : Prog HelperI ε (Bool × HelperReporter) := do
  if reporter.cancelled then return (true, reporter)
  else if ← isatty then return (false, reporter)
  else if !(← pollStdin) then return (false, reporter)
  else
    let bytes ← readStdin
    if bytes.isEmpty then return (false, reporter)
    else
      let request := reporter.request ++ bytes
      let cancelled := containsToken request
      return (cancelled, { reporter with request, cancelled })

/-- How the helper answers the backend's calls. -/
def answer : (o : LinuxOp) → HelperReporter → Prog HelperI ε (o.Ans × HelperReporter)
  | .sys o, reporter => do
    let ans ← helperCall (.sys o)
    return (ans, reporter)
  | .reporter (.step _ message), reporter => reporter.writeStep message
  | .reporter (.detail message), reporter => do
    detail message
    return ((), reporter)
  | .reporter .cancelRequested, reporter => reporter.cancelRequested

end HelperReporter

/-- The backend's program as the helper runs it. -/
def runInHelper {δ α : Type} (p : Prog LinuxI ε α) (reporter : HelperReporter) :
    Prog HelperI δ (Except ε α × HelperReporter) :=
  Prog.handle (I := LinuxI) HelperReporter.answer p reporter

/-! ## Languages -/

/-- `activateInterfaceLanguage`: whether the language was loaded, and the catalog installed. -/
def activateInterfaceLanguage (preference : Language) : Prog HelperI ε (Bool × Catalog) := do
  if preference = .german then
    match ← installGerman with
    | some installed => return (true, installed)
    | none => return (false, Catalog.english)
  else return (true, Catalog.english)

inductive CatalogProbe where
  | notRequested
  | usage
  | missingCatalog
  | ready (line : QString)

def catalogProbe (arguments : List QString) : Prog HelperI ε CatalogProbe :=
  let probe (language : Language) : Prog HelperI ε CatalogProbe := do
    let (loaded, installed) ← activateInterfaceLanguage language
    if !loaded then return .missingCatalog
    else return .ready (installed .startup (QStringLiteral "Elevated permission required"))
  if arguments.head? ≠ some ShowTranslationFlag then return .notRequested
  else
    match arguments with
    | [_, token] =>
      if token = QStringLiteral "en" then probe .english
      else if token = QStringLiteral "de" then probe .german
      else return .usage
    | _ => return .usage

/-! ## The main function -/

section

variable [Host]

/-- What the helper finds by itself: its guard, and a disk that is safe under it and the same as
the one its arguments claim. -/
def findTarget (installed : Catalog) (expected : DiskInfo) :
    Prog LinuxI RestoreMessage (RestoreGuard × DiskInfo) := do
  let guard ← linuxRestoreGuard
  let disk ← refreshUsbDisk installed expected.deviceId
  .ofExcept (checkRestoreError installed (isSafeRestoreTarget disk guard))
  .ofExcept (checkRestoreError installed (isSameRestoreTarget expected disk))
  return (guard, disk)

/-- The request made of the parsed arguments and of what was found. -/
def helperRequest (parsed : RestoreArguments) (guard : RestoreGuard) (disk : DiskInfo) :
    RestoreRequest :=
  { disk
    style := parsed.style
    fileSystem := parsed.fileSystem
    volumeLabel := parsed.volumeLabel
    guard }

/-- The failure of a restore: a cancelled one has an exit code of its own. -/
def reportFailure (installed : Catalog) (reporter : HelperReporter) (error : RestoreMessage) :
    Prog HelperI ε Int := do
  let (cancelled, _) ← reporter.cancelRequested
  if cancelled && error.english.isEmpty then return RestoreExitCancelled
  else
    let shown :=
      if error.english.isEmpty then
        restoreText installed (QStringLiteral "The restore stopped. Unplug the drive, plug it back in and try again.")
      else error
    writeFailure shown.english shown.display
    return RestoreExitFailed

/-- The helper's work once it knows what it is asked for. -/
def restoreInHelper (fuel : LoopFuel) (installed : Catalog) (parsed : RestoreArguments) :
    Prog HelperI ε Int := do
  let (target, _) ← runInHelper (findTarget installed parsed.expected) {}
  match target with
  | .error error =>
    writeFailure error.english error.display
    return RestoreExitFailed
  | .ok (guard, disk) =>
    let (outcome, reporter) ←
      runInHelper (performLinuxRestore installed fuel (helperRequest parsed guard disk)) {}
    match outcome with
    | .error error => reportFailure installed reporter error
    | .ok result =>
      writeLine (encodeResultLine result.location)
      return RestoreExitSuccess

/-- After the version is announced: who runs the helper, and what it is asked for. -/
def servePrivileged (fuel : LoopFuel) (arguments : List QString) : Prog HelperI ε Int := do
  if (← geteuid) ≠ 0 then
    writeError (QStringLiteral "usb-restoration-helper must run as root. It is started by USB Restoration Tool through pkexec, not on its own.")
    return RestoreExitUsage
  else
    match parseRestoreArguments arguments with
    | .error error =>
      writeError error
      return RestoreExitUsage
    | .ok parsed =>
      let (_, installed) ← activateInterfaceLanguage parsed.displayLanguage
      restoreInHelper fuel installed parsed

/-- `main`: the exit code. -/
def helperMain (fuel : LoopFuel) (appVersion : QString) (arguments : List QString) :
    Prog HelperI ε Int := do
  if arguments = [ProtocolVersionFlag] then
    announceVersion appVersion
    return RestoreExitSuccess
  else
    match ← catalogProbe arguments with
    | .ready line =>
      writeLine line
      return RestoreExitSuccess
    | .missingCatalog => return RestoreExitFailed
    | .usage => return RestoreExitUsage
    | .notRequested =>
      announceVersion appVersion
      servePrivileged fuel arguments

end

end UsbRestore
