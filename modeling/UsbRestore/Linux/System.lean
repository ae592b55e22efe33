-- SUMMARY: The system calls and library calls of the Linux backend, as operations.
import UsbRestore.Base.Prog
import UsbRestore.Core.PartitionTable
import UsbRestore.Platform.DiskService

/-!
# The Linux interface

Everything the backend asks of the kernel, of Qt's file and process classes and of its
reporter. Any answer is possible at every call. A call that sets `errno` answers with an
`Except` whose error is that number.
-/

namespace UsbRestore

abbrev Errno := Nat

namespace Errno

def EPERM : Errno := 1
def ENOENT : Errno := 2
def EINTR : Errno := 4
def EIO : Errno := 5
def ENXIO : Errno := 6
def EACCES : Errno := 13
def EBUSY : Errno := 16
def ENODEV : Errno := 19
def EINVAL : Errno := 22
def ENOSPC : Errno := 28
def EROFS : Errno := 30

end Errno

abbrev Fd := Nat

/-- The flags the backend opens a node with; `O_CLOEXEC` is always set. -/
structure OpenFlags where
  write : Bool
  excl : Bool
  sync : Bool
  deriving DecidableEq

structure DeviceNumber where
  major : UInt32 := 0
  minor : UInt32 := 0
  deriving DecidableEq

def DeviceNumber.isValid (number : DeviceNumber) : Bool := number.major != 0 || number.minor != 0

inductive FileKind where
  | regular
  | block
  | other
  deriving DecidableEq

/-- What `fstat` reports. -/
structure FileStatus where
  kind : FileKind
  size : UInt64
  rdev : DeviceNumber
  deriving DecidableEq

/-- The fields of `struct loop_config` the backend sets. -/
structure LoopConfig where
  fd : Fd
  blockSize : UInt32
  offset : UInt64
  sizeLimit : UInt64
  autoclear : Bool
  deriving DecidableEq

structure FileInfo where
  present : Bool
  isExecutable : Bool
  isDir : Bool
  deriving DecidableEq

structure ProcessResult where
  output : QString
  normalExit : Bool
  exitCode : Int

/-- Which entries `QDir::entryList` is asked for. -/
inductive EntryFilter where
  | dirs
  | dirsAndSystem
  | all

inductive SysOp where
  | readFile (path : QString)
  | entryList (path : QString) (filter : EntryFilter)
  | pathExists (path : QString)
  | canonicalFilePath (path : QString)
  | fileInfo (path : QString)
  | openNode (path : QString) (flags : OpenFlags)
  | close (fd : Fd)
  | fstat (fd : Fd)
  | blkGetSize64 (fd : Fd)
  | blkSszGet (fd : Fd)
  | blkGetDiskSeq (fd : Fd)
  | blkFlsBuf (fd : Fd)
  | blkRrPart (fd : Fd)
  | loopCtlGetFree (control : Fd)
  | loopCtlAdd (control : Fd)
  | loopConfigure (fd : Fd) (config : LoopConfig)
  | loopClrFd (fd : Fd)
  | pwrite (fd : Fd) (data : QByteArray) (offset : UInt64)
  | fsync (fd : Fd)
  | umount (path : QString)
  | getenv (name : QString)
  | getpwuid (uid : UInt32)
  | randomWords
  | msleep (ms : Nat)
  | elapsed
  | startProcess (program : QString) (arguments : List QString)
  | waitForFinished (ms : Nat)
  | killProcess
  | processResult

def SysOp.Ans : SysOp → Type
  | .readFile _ => Option QString
  | .entryList _ _ => List QString
  | .pathExists _ => Bool
  | .canonicalFilePath _ => QString
  | .fileInfo _ => FileInfo
  | .openNode _ _ => Except Errno Fd
  | .close _ => Unit
  | .fstat _ => Except Errno FileStatus
  | .blkGetSize64 _ => Except Errno UInt64
  | .blkSszGet _ => Except Errno UInt32
  | .blkGetDiskSeq _ => Except Errno UInt64
  | .blkFlsBuf _ => Except Errno Unit
  | .blkRrPart _ => Except Errno Unit
  | .loopCtlGetFree _ => Except Errno Nat
  | .loopCtlAdd _ => Except Errno Nat
  | .loopConfigure _ _ => Except Errno Unit
  | .loopClrFd _ => Except Errno Unit
  | .pwrite _ _ _ => Except Errno Nat
  | .fsync _ => Except Errno Unit
  | .umount _ => Except Errno Unit
  | .getenv _ => QString
  | .getpwuid _ => Option UInt32
  | .randomWords => UInt32 × UInt32 × UInt32 × UInt32
  | .msleep _ => Unit
  | .elapsed => Nat
  | .startProcess _ _ => Bool
  | .waitForFinished _ => Bool
  | .killProcess => Unit
  | .processResult => ProcessResult

inductive LinuxOp where
  | sys (op : SysOp)
  | reporter (op : ReporterOp)

def LinuxOp.Ans : LinuxOp → Type
  | .sys op => op.Ans
  | .reporter op => op.Ans

/-- The interface of the Linux backend. -/
def LinuxI : Interface := ⟨LinuxOp, LinuxOp.Ans⟩

variable {ε : Type}

/-! ## Calls -/

def sys (o : SysOp) : Prog LinuxI ε o.Ans := Prog.op (I := LinuxI) (.sys o)

def reporterCall (o : ReporterOp) : Prog LinuxI ε o.Ans := Prog.op (I := LinuxI) (.reporter o)

namespace Sys

def readFile (path : QString) : Prog LinuxI ε (Option QString) := sys (.readFile path)

def entryList (path : QString) (filter : EntryFilter) : Prog LinuxI ε (List QString) :=
  sys (.entryList path filter)

def pathExists (path : QString) : Prog LinuxI ε Bool := sys (.pathExists path)

def canonicalFilePath (path : QString) : Prog LinuxI ε QString :=
  sys (.canonicalFilePath path)

def fileInfo (path : QString) : Prog LinuxI ε FileInfo := sys (.fileInfo path)

def openNode (path : QString) (flags : OpenFlags) : Prog LinuxI ε (Except Errno Fd) :=
  sys (.openNode path flags)

def close (fd : Fd) : Prog LinuxI ε Unit := sys (.close fd)

def fstat (fd : Fd) : Prog LinuxI ε (Except Errno FileStatus) := sys (.fstat fd)

def blkGetSize64 (fd : Fd) : Prog LinuxI ε (Except Errno UInt64) := sys (.blkGetSize64 fd)

def blkSszGet (fd : Fd) : Prog LinuxI ε (Except Errno UInt32) := sys (.blkSszGet fd)

def blkGetDiskSeq (fd : Fd) : Prog LinuxI ε (Except Errno UInt64) :=
  sys (.blkGetDiskSeq fd)

def blkFlsBuf (fd : Fd) : Prog LinuxI ε (Except Errno Unit) := sys (.blkFlsBuf fd)

def blkRrPart (fd : Fd) : Prog LinuxI ε (Except Errno Unit) := sys (.blkRrPart fd)

def loopCtlGetFree (control : Fd) : Prog LinuxI ε (Except Errno Nat) :=
  sys (.loopCtlGetFree control)

def loopCtlAdd (control : Fd) : Prog LinuxI ε (Except Errno Nat) :=
  sys (.loopCtlAdd control)

def loopConfigure (fd : Fd) (config : LoopConfig) : Prog LinuxI ε (Except Errno Unit) :=
  sys (.loopConfigure fd config)

def loopClrFd (fd : Fd) : Prog LinuxI ε (Except Errno Unit) := sys (.loopClrFd fd)

def pwrite (fd : Fd) (data : QByteArray) (offset : UInt64) : Prog LinuxI ε (Except Errno Nat) :=
  sys (.pwrite fd data offset)

def fsync (fd : Fd) : Prog LinuxI ε (Except Errno Unit) := sys (.fsync fd)

def umount (path : QString) : Prog LinuxI ε (Except Errno Unit) := sys (.umount path)

def getenv (name : QString) : Prog LinuxI ε QString := sys (.getenv name)

def getpwuid (uid : UInt32) : Prog LinuxI ε (Option UInt32) := sys (.getpwuid uid)

def randomWords : Prog LinuxI ε (UInt32 × UInt32 × UInt32 × UInt32) := sys .randomWords

def msleep (ms : Nat) : Prog LinuxI ε Unit := sys (.msleep ms)

def elapsed : Prog LinuxI ε Nat := sys .elapsed

def startProcess (program : QString) (arguments : List QString) : Prog LinuxI ε Bool :=
  sys (.startProcess program arguments)

def waitForFinished (ms : Nat) : Prog LinuxI ε Bool := sys (.waitForFinished ms)

def killProcess : Prog LinuxI ε Unit := sys .killProcess

def processResult : Prog LinuxI ε ProcessResult := sys .processResult

end Sys

namespace Reporter

def step (planned : RestoreStep) (message : RestoreMessage) : Prog LinuxI ε Unit :=
  reporterCall (.step planned message)

def detail (message : QString) : Prog LinuxI ε Unit := reporterCall (.detail message)

def cancelRequested : Prog LinuxI ε Bool := reporterCall .cancelRequested

end Reporter

/-- `reportPlannedStep`; the counter it returns is the one it advanced. -/
def reportPlannedStep (installed : Catalog) (counter : RestoreStepCounter) (step : RestoreStep)
    (request : RestoreRequest) : Prog LinuxI ε RestoreStepCounter := do
  let message := restoreStepMessage installed step request.style request.fileSystem
  let (number, counter) := counter.advance step
  if number = 0 then
    Reporter.detail ((QStringLiteral "Internal: \"%1\" is out of order in the restore plan.").arg
      [message.english])
  Reporter.step step message
  return counter

end UsbRestore
