-- SUMMARY: The Windows calls of the volume code, as operations.
import UsbRestore.Base.Prog
import UsbRestore.Core.PartitionTable
import UsbRestore.Platform.DiskService

/-!
# The Windows interface

What the volume code asks of Windows and of its reporter. Any answer is possible at every call. A
call that sets the last error answers with an `Except` whose error is that code.
-/

namespace UsbRestore

abbrev Dword := UInt32

namespace WindowsError

def ERROR_DIR_NOT_EMPTY : Dword := 145
def ERROR_FILE_NOT_FOUND : Dword := 2
def ERROR_PATH_NOT_FOUND : Dword := 3
def ERROR_NOT_A_REPARSE_POINT : Dword := 4390
def ERROR_INSUFFICIENT_BUFFER : Dword := 122
def ERROR_MORE_DATA : Dword := 234
def ERROR_SHARING_VIOLATION : Dword := 32
def ERROR_LOCK_VIOLATION : Dword := 33
def ERROR_BUSY : Dword := 170
def ERROR_WRITE_PROTECT : Dword := 19
def ERROR_ACCESS_DENIED : Dword := 5
def ERROR_IO_DEVICE : Dword := 1117
def ERROR_CRC : Dword := 23
def ERROR_READ_FAULT : Dword := 30
def ERROR_WRITE_FAULT : Dword := 29
def ERROR_NOT_READY : Dword := 21
def ERROR_DEV_NOT_EXIST : Dword := 55
def ERROR_DEVICE_NOT_CONNECTED : Dword := 1167
def ERROR_NO_MEDIA_IN_DRIVE : Dword := 1112
def ERROR_DISK_FULL : Dword := 112
def ERROR_HANDLE_DISK_FULL : Dword := 39
def ERROR_INVALID_DATA : Dword := 13

end WindowsError

abbrev Handle := Nat

/-- The access a volume is opened with: none, which is enough for questions, or
`GENERIC_READ | GENERIC_WRITE`. -/
inductive Access where
  | query
  | readWrite
  deriving DecidableEq

inductive WinOp where
  /-- `FormatMessageW`; empty where it has no text. -/
  | formatMessage (error : Dword)
  /-- `CreateFileW` -/
  | createFile (path : QString) (access : Access)
  | closeHandle (handle : Handle)
  /-- `IOCTL_VOLUME_GET_VOLUME_DISK_EXTENTS` with a buffer of this many bytes: how many were
  returned, and the buffer. -/
  | volumeDiskExtents (handle : Handle) (bytes : Nat)
  /-- `IOCTL_VOLUME_IS_OFFLINE` -/
  | volumeIsOffline (handle : Handle)
  /-- `FSCTL_LOCK_VOLUME` -/
  | lockVolume (handle : Handle)
  /-- `FSCTL_DISMOUNT_VOLUME` -/
  | dismountVolume (handle : Handle)
  | deleteVolumeMountPoint (path : QString)
  | logicalDrives
  /-- The search handle and the first name; nothing where there is none. -/
  | findFirstVolume
  | findNextVolume (finder : Handle)
  | findVolumeClose (finder : Handle)
  /-- `GetVolumePathNamesForVolumeNameW` with a buffer of 512; nothing where it fails. -/
  | volumePathNames (volumeName : QString)
  | reporter (op : ReporterOp)

def WinOp.Ans : WinOp → Type
  | .formatMessage _ => QString
  | .createFile _ _ => Except Dword Handle
  | .closeHandle _ => Unit
  | .volumeDiskExtents _ _ => Except Dword (Dword × QByteArray)
  | .volumeIsOffline _ => Bool
  | .lockVolume _ => Except Dword Unit
  | .dismountVolume _ => Except Dword Unit
  | .deleteVolumeMountPoint _ => Except Dword Unit
  | .logicalDrives => Dword
  | .findFirstVolume => Option (Handle × QString)
  | .findNextVolume _ => Option QString
  | .findVolumeClose _ => Unit
  | .volumePathNames _ => Option (List QString)
  | .reporter op => op.Ans

def WinI : Interface := ⟨WinOp, WinOp.Ans⟩

variable {ε : Type}

/-! ## Calls -/

def win (o : WinOp) : Prog WinI ε o.Ans := Prog.op (I := WinI) o

namespace Win

def formatMessage (error : Dword) : Prog WinI ε QString := win (.formatMessage error)

def createFile (path : QString) (access : Access) : Prog WinI ε (Except Dword Handle) :=
  win (.createFile path access)

def closeHandle (handle : Handle) : Prog WinI ε Unit := win (.closeHandle handle)

def volumeDiskExtents (handle : Handle) (bytes : Nat) :
    Prog WinI ε (Except Dword (Dword × QByteArray)) :=
  win (.volumeDiskExtents handle bytes)

def volumeIsOffline (handle : Handle) : Prog WinI ε Bool := win (.volumeIsOffline handle)

def lockVolume (handle : Handle) : Prog WinI ε (Except Dword Unit) := win (.lockVolume handle)

def dismountVolume (handle : Handle) : Prog WinI ε (Except Dword Unit) :=
  win (.dismountVolume handle)

def deleteVolumeMountPoint (path : QString) : Prog WinI ε (Except Dword Unit) :=
  win (.deleteVolumeMountPoint path)

def logicalDrives : Prog WinI ε Dword := win .logicalDrives

def findFirstVolume : Prog WinI ε (Option (Handle × QString)) := win .findFirstVolume

def findNextVolume (finder : Handle) : Prog WinI ε (Option QString) := win (.findNextVolume finder)

def findVolumeClose (finder : Handle) : Prog WinI ε Unit := win (.findVolumeClose finder)

def volumePathNames (volumeName : QString) : Prog WinI ε (Option (List QString)) :=
  win (.volumePathNames volumeName)

def detail (message : QString) : Prog WinI ε Unit := win (.reporter (.detail message))

end Win

end UsbRestore
