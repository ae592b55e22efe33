-- SUMMARY: Storage methods that Windows runs as jobs: calling one, and waiting for its job.
import UsbRestore.Base.Prog
import UsbRestore.Core.RestoreMessage

/-!
# Storage jobs

A method of the storage namespace either completes at once or is queued as a job. A job is read again
and again until it is over, cannot be read, or takes too long; nothing but a completed job without an
error counts as success.
-/

namespace UsbRestore

variable {ε : Type}

/-! ## Waiting for a job -/

/-- The properties of an `MSFT_StorageJob` that are looked at. A number that is missing or is none has
no value. -/
structure StorageJob where
  jobState : Option UInt64
  errorCode : Option UInt64
  errorDescription : QString

/-- A job, or why there is none. -/
abbrev JobReading := Except RestoreMessage StorageJob

inductive JobOp where
  /-- The callback `readJob`. -/
  | readJob
  /-- `QElapsedTimer::elapsed`, in milliseconds since the wait began. -/
  | elapsed
  | msleep (milliseconds : Nat)

def JobOp.Ans : JobOp → Type
  | .readJob => JobReading
  | .elapsed => Int
  | .msleep _ => Unit

def JobI : Interface := ⟨JobOp, JobOp.Ans⟩

def job (o : JobOp) : Prog JobI ε o.Ans := Prog.op (I := JobI) o

def JobStateCompleted : UInt64 := 7
def JobStateTerminated : UInt64 := 8
def JobStateKilled : UInt64 := 9
def JobStateException : UInt64 := 10

/-- A `bool` with the message of a `false`, and the outcome for the log. -/
structure Waited where
  verdict : Except RestoreMessage Unit
  outcome : QString

/-- The lambda `note`: what Windows did, for the log. -/
def note (what : QString) (reads : Nat) (lastState : Option UInt64) : Prog JobI ε QString := do
  let elapsed ← job .elapsed
  let state := match lastState with
    | some state => .number state.toNat
    | none => QStringLiteral "none"
  return ((((QStringLiteral
    "queued as a job; %1 after %2 ms and %3 read(s), last state %4").arg [what]).arg
    [.numberInt elapsed]).arg [.number reads]).arg [state]

def codeText (code : Option UInt64) : QString :=
  match code with
  | some code => .number code.toNat
  | none => QStringLiteral "missing"

def isUsableState (state : UInt64) : Bool := !(state < 2 || state > 12)

def isTerminalState (state : UInt64) : Bool :=
  state == JobStateCompleted || state == JobStateTerminated || state == JobStateKilled ||
    state == JobStateException

/-- The verdict on a job in a terminal state. -/
def judgeJob (installed : Catalog) (read : StorageJob) (state : UInt64) :
    Except RestoreMessage Unit :=
  let text (source : QString) := restoreText installed source
  if state = JobStateCompleted then
    if read.errorCode = some 0 then .ok ()
    else
      let code := match read.errorCode with
        | some code => numberMessage code.toNat
        | none => text (QStringLiteral "unavailable")
      -- Windows words the description itself, and it is often empty.
      .error ((text (QStringLiteral
        "The Windows storage job did not confirm success (error code %1). %2")).arg
        [code, .ofText read.errorDescription]).trimmed
  else
    let detail := read.errorDescription.trimmed
    .error (if detail.isEmpty then
      (text (QStringLiteral "A Windows storage job failed with state %1.")).arg
        [numberMessage state.toNat]
    else (text (QStringLiteral "A Windows storage job failed: %1")).arg [.ofText detail])

/-- The loop of `waitForStorageJob`, after `reads` readings. -/
def pollJob (installed : Catalog) (timeoutMs : Int) : (fuel : Nat) → (reads : Nat) →
    (lastState : Option UInt64) → Prog JobI ε Waited
  | 0, _, _ => .spin
  | fuel + 1, reads, lastState => do
    let text (source : QString) := restoreText installed source
    let reads := reads + 1
    match ← job .readJob with
    | .error readError =>
      let outcome ← note ((QStringLiteral "job object could not be read (%1)").arg
        [if readError.english.isEmpty then QStringLiteral "no detail" else readError.english])
        reads lastState
      let message := if readError.english.isEmpty then
          text (QStringLiteral
            "Could not confirm that the Windows storage job completed. Restore stopped.")
        else (text (QStringLiteral
          "Could not confirm that the Windows storage job completed. Restore stopped. %1")).arg
          [readError]
      return ⟨.error message, outcome⟩
    | .ok read =>
      match read.jobState.filter isUsableState with
      | none =>
        let outcome ← note ((QStringLiteral "unusable JobState, ErrorCode %1").arg
          [codeText read.errorCode]) reads lastState
        return ⟨.error (text (QStringLiteral
          "The Windows storage job reported no usable state. Restore stopped.")), outcome⟩
      | some state =>
        let lastState := some state
        if isTerminalState state then
          let outcome ← note ((QStringLiteral "finished with ErrorCode %1").arg
            [codeText read.errorCode]) reads lastState
          return ⟨judgeJob installed read state, outcome⟩
        else
          let elapsed : Int ← job .elapsed
          if elapsed ≥ timeoutMs then
            let outcome ← note ((QStringLiteral "still running at the timeout, ErrorCode %1").arg
              [codeText read.errorCode]) reads lastState
            return ⟨.error ((text (QStringLiteral
              "A Windows storage job did not finish within %1 seconds.")).arg
              [.ofText (.numberInt (timeoutMs.tdiv 1000))]), outcome⟩
          else
            job (.msleep 250)
            pollJob installed timeoutMs fuel reads lastState

/-- The outcome is asked for, as all callers do. -/
def waitForStorageJob (installed : Catalog) (fuel : Nat) (jobPath : QString) (timeoutMs : Int) :
    Prog JobI ε Waited := do
  if jobPath.isEmpty then
    return ⟨.error (restoreText installed (QStringLiteral
      "Windows queued a storage operation without a job to monitor. Restore stopped.")),
      QStringLiteral "queued without a job path"⟩
  else pollJob installed timeoutMs fuel 0 none

/-! ## Calling a method -/

/-- The values that `putInputValue` takes. -/
inductive Variant where
  | bool (value : Bool)
  | string (value : QString)
  | uint (value : UInt32)
  | int (value : Int)
  | ulonglong (value : UInt64)
  | longlong (value : Int)

/-- Accepted, and running as a job. -/
def WmiMethodStartedJob : UInt32 := 4096

structure WmiCallResult where
  returnValue : UInt32 := 4294967295
  jobPath : QString := []
  extendedStatus : QString := []

def WmiCallResult.accepted (result : WmiCallResult) : Bool :=
  result.returnValue == 0 || result.returnValue == WmiMethodStartedJob

inductive WmiOp where
  | callMethod (className objectPath methodName : QString) (inputs : List (QString × Variant))
  /-- What the last call left of its failure. -/
  | lastError
  /-- The object of a job, unless it is not valid. -/
  | getObject (objectPath : QString)
  | elapsed
  | msleep (milliseconds : Nat)

def WmiOp.Ans : WmiOp → Type
  | .callMethod _ _ _ _ => WmiCallResult
  | .lastError => RestoreMessage
  | .getObject _ => Option StorageJob
  | .elapsed => Int
  | .msleep _ => Unit

def WmiI : Interface := ⟨WmiOp, WmiOp.Ans⟩

def wmi (o : WmiOp) : Prog WmiI ε o.Ans := Prog.op (I := WmiI) o

/-- The callback of `waitForJob`. -/
def readJobObject (jobPath : QString) : Prog WmiI ε JobReading := do
  match ← wmi (.getObject jobPath) with
  | some read => return .ok read
  | none =>
    let readError ← wmi .lastError
    return .error readError

/-- The wait goes through the connection. -/
def jobThrough (jobPath : QString) : (o : JobI.Op) → Prog WmiI ε (JobI.Ans o)
  | .readJob => readJobObject jobPath
  | .elapsed => wmi .elapsed
  | .msleep milliseconds => wmi (.msleep milliseconds)

def waitForJob (installed : Catalog) (fuel : Nat) (jobPath : QString) (timeoutMs : Int) :
    Prog WmiI ε Waited :=
  (waitForStorageJob installed fuel jobPath timeoutMs).implement (jobThrough jobPath)

def callMethodAndWait (installed : Catalog) (fuel : Nat) (className objectPath methodName : QString)
    (inputs : List (QString × Variant)) (timeoutMs : Int) : Prog WmiI ε Waited := do
  let result ← wmi (.callMethod className objectPath methodName inputs)
  let outcome := if result.returnValue = 0 then QStringLiteral "completed immediately"
    else (QStringLiteral "returned %1").arg [.number result.returnValue.toNat]
  if !result.accepted then
    let method := (QStringLiteral "%1.%2").arg [className, methodName]
    let lastError ← wmi .lastError
    let detail := if lastError.english.isEmpty then .ofText result.extendedStatus.trimmed else lastError
    let text (source : QString) := restoreText installed source
    let message := if detail.english.isEmpty then
        (text (QStringLiteral "%1 failed with return value %2.")).arg
          [.ofText method, numberMessage result.returnValue.toNat]
      else (text (QStringLiteral "%1 failed with return value %2. %3")).arg
        [.ofText method, numberMessage result.returnValue.toNat, detail]
    return ⟨.error message, outcome⟩
  else if result.returnValue = 0 then return ⟨.ok (), outcome⟩
  else waitForJob installed fuel result.jobPath timeoutMs

end UsbRestore
