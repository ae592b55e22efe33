-- SUMMARY: Windows error texts, the disks of a volume, and the drive letters of every disk.
import UsbRestore.Win.System

/-!
# Volumes and their disks

Whether a volume is on a disk is asked through an open handle, never inferred from a name.
-/

namespace UsbRestore

open WindowsError

variable {ε : Type}

/-! ## Error texts -/

def windowsErrorMessage (error : Dword) : Prog WinI ε QString := do
  let message := (← Win.formatMessage error).trimmed
  if message.isEmpty then
    return (QStringLiteral "Windows error %1").arg [.number error.toNat]
  else return ((QStringLiteral "%1 (error %2)").arg [message]).arg [.number error.toNat]

/-- What is advised where the code says nothing better. -/
def deviceErrorAdvice : QString :=
  QStringLiteral "Unplug the drive, plug it back in and try again"

/-- The `switch` of `windowsDeviceErrorMessage`: the reason and the advice for a code that is not left
to Windows to word. -/
def deviceErrorWording (error : Dword) : Option (QString × QString) :=
  if error = ERROR_SHARING_VIOLATION ∨ error = ERROR_LOCK_VIOLATION ∨ error = ERROR_BUSY then
    some (QStringLiteral "another program is still using the drive",
      QStringLiteral "Close any files, File Explorer windows and programs using the drive and try again")
  else if error = ERROR_WRITE_PROTECT then
    some (QStringLiteral "the drive is write-protected",
      QStringLiteral ("If it has a write-protect switch, turn it off and try again. If it has none, " ++
        "the drive may have made itself read-only and need replacing"))
  else if error = ERROR_ACCESS_DENIED then
    some (QStringLiteral "Windows refused access to the drive",
      QStringLiteral ("Close any programs using the drive. If it has a write-protect switch, turn it " ++
        "off and try again. If it stays read-only, the drive may have made itself read-only and " ++
        "need replacing"))
  else if error = ERROR_IO_DEVICE ∨ error = ERROR_CRC ∨ error = ERROR_READ_FAULT ∨
      error = ERROR_WRITE_FAULT then
    some (QStringLiteral "the drive could not complete the read or write",
      QStringLiteral ("Unplug it, plug it back in and try again; if it keeps happening, try another " ++
        "USB port or replace the drive"))
  else if error = ERROR_NOT_READY then
    some (QStringLiteral "the drive is not ready", deviceErrorAdvice)
  else if error = ERROR_DEV_NOT_EXIST ∨ error = ERROR_DEVICE_NOT_CONNECTED ∨
      error = ERROR_NO_MEDIA_IN_DRIVE ∨ error = ERROR_FILE_NOT_FOUND ∨
      error = ERROR_PATH_NOT_FOUND then
    some (QStringLiteral "the drive is no longer available",
      QStringLiteral "Plug it back in, refresh the list and select it again")
  else if error = ERROR_DISK_FULL ∨ error = ERROR_HANDLE_DISK_FULL then
    some (QStringLiteral "the drive ran out of room before its reported size",
      QStringLiteral ("Unplug it, plug it back in and try again; if it happens again the drive may be " ++
        "smaller than it claims"))
  else none

/-- The text around a code that the program words, before it is translated. -/
def DeviceErrorFormat : QString := QStringLiteral "%1: %2 (Windows error %3). %4."

def windowsDeviceErrorMessage (installed : Catalog) (context : RestoreMessage) (error : Dword) :
    Prog WinI ε RestoreMessage := do
  match deviceErrorWording error with
  | some (reason, advice) =>
    return (restoreText installed DeviceErrorFormat).arg
      [context, restoreText installed reason, numberMessage error.toNat, restoreText installed advice]
  | none =>
    let message ← windowsErrorMessage error
    return (RestoreMessage.ofText (QStringLiteral "%1: %2. %3.")).arg
      [context, .ofText message, restoreText installed deviceErrorAdvice]

def windowsErrorDetails (context : RestoreMessage) (error : Dword) :
    Prog WinI ε RestoreMessage := do
  let message ← windowsErrorMessage error
  let format : RestoreMessage :=
    { english := QStringLiteral "%1: %2", display := QStringLiteral "%1: %2" }
  return format.arg [context, .ofText message]

/-! ## Disks of a volume -/

/-- How many of the reported entries lie in the returned bytes. -/
def boundedEntryCount (reportedCount : UInt32) (returnedBytes headerBytes entryBytes : UInt64) :
    UInt32 :=
  if entryBytes = 0 ∨ returnedBytes < headerBytes then 0
  else
    let fits := (returnedBytes - headerBytes) / entryBytes
    (min reportedCount.toUInt64 fits).toUInt32

/-- `offsetof(VOLUME_DISK_EXTENTS, Extents)` -/
def ExtentsOffset : Nat := 8

/-- `sizeof(DISK_EXTENT)`, which starts with the number of the disk. -/
def DiskExtentBytes : Nat := 24

/-- `sizeof(VOLUME_DISK_EXTENTS)`, which has room for one extent. -/
def VolumeDiskExtentsBytes : Nat := 32

/-- The disk numbers in an answer, which starts with the number of extents. -/
def diskNumbersIn (returned : Dword) (buffer : QByteArray) : List UInt32 :=
  let count := boundedEntryCount (UInt32.ofNat (buffer.readLe 0 4)) returned.toUInt64
    (UInt64.ofNat ExtentsOffset) (UInt64.ofNat DiskExtentBytes)
  (List.range count.toNat).map fun i =>
    UInt32.ofNat (buffer.readLe (ExtentsOffset + DiskExtentBytes * i) 4)

/-- The loop of `volumeDiskNumbers`: sixteen more extents with every attempt that was short. -/
def readDiskNumbers (handle : Handle) : (attempts : Nat) → (bytes : Nat) →
    Prog WinI ε (List UInt32)
  | 0, _ => return []
  | attempts + 1, bytes => do
    match ← Win.volumeDiskExtents handle bytes with
    | .ok (returned, buffer) => return diskNumbersIn returned buffer
    | .error code =>
      if code ≠ ERROR_MORE_DATA ∧ code ≠ ERROR_INSUFFICIENT_BUFFER then return []
      else readDiskNumbers handle attempts (bytes + DiskExtentBytes * 16)

def volumeDiskNumbers (volumeHandle : Handle) : Prog WinI ε (List UInt32) :=
  readDiskNumbers volumeHandle 5 VolumeDiskExtentsBytes

def openVolumePath (path : QString) (access : Access) : Prog WinI ε (Except Dword Handle) :=
  Win.createFile path access

def volumeHasDiskExtent (volumeHandle : Handle) (diskNumber : UInt32) : Prog WinI ε Bool := do
  let numbers ← volumeDiskNumbers volumeHandle
  return diskNumber ∈ numbers

/-! ## Drive letters -/

/-- `'A'` to `'Z'` -/
def DriveLetters : List QChar := (List.range 26).map fun i => UInt16.ofNat (65 + i)

/-- The bit of a letter in the answer of `GetLogicalDrives`. -/
def hasDrive (drives : Dword) (letter : QChar) : Bool :=
  (drives &&& ((1 : UInt32) <<< (letter - QChar.ofChar 'A').toUInt32)) != 0

/-- The letter with its colon. -/
def driveName (letter : QChar) : QString := (QStringLiteral "%1:").arg [[letter]]

/-- The prefix of device paths. -/
def DevicePrefix : QString := QStringLiteral "\\\\.\\"

/-- A `QHash` from disks to drive letters; an absent key has an empty list. -/
abbrev LettersByDisk := UInt32 → List QString

def LettersByDisk.add (letters : LettersByDisk) (disk : UInt32) (name : QString) : LettersByDisk :=
  if name ∈ letters disk then letters
  else fun other => if other = disk then letters disk ++ [name] else letters other

/-- The loop of `driveLettersByDisk`. -/
def lettersOfDrives (drives : Dword) : List QChar → LettersByDisk → Prog WinI ε LettersByDisk
  | [], letters => return letters
  | letter :: rest, letters => do
    if !hasDrive drives letter then lettersOfDrives drives rest letters
    else
      let name := driveName letter
      match ← openVolumePath (DevicePrefix ++ name) .query with
      | .error _ => lettersOfDrives drives rest letters
      | .ok handle =>
        let disks ← volumeDiskNumbers handle
        Win.closeHandle handle
        lettersOfDrives drives rest (disks.foldl (fun letters disk => letters.add disk name) letters)

def driveLettersByDisk : Prog WinI ε LettersByDisk := do
  let drives ← Win.logicalDrives
  lettersOfDrives drives DriveLetters fun _ => []

end UsbRestore
