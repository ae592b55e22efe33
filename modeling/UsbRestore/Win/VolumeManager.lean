-- SUMMARY: Detaching the volumes of a disk: those without a drive letter first, then by letter.
import UsbRestore.Win.WindowsUtil

/-!
# The volume manager

A `false` of the source with the message it left in `*error` is a failure with that message.
-/

namespace UsbRestore

open WindowsError

variable {ε : Type}

/-! ## Names -/

def withoutTrailingSlash (volumeName : QString) : QString :=
  volumeName.rdropWhile fun c => c == QChar.ofChar '\\'

def normalizedLetter [Host] (value : QString) : QString :=
  let letter := withoutTrailingSlash value.trimmed
  let letter := if letter.getLast? = some (QChar.ofChar ':') then letter.dropLast else letter
  Host.toUpper letter

/-- Whether a path is a letter, a colon and a backslash. -/
def isDriveRoot (path : QString) : Bool :=
  path.length == 3 && path[1]? == some (QChar.ofChar ':') && path[2]? == some (QChar.ofChar '\\')

/-- Empty when there is none. -/
def firstDriveRootFromMultiSz (paths : List QString) : QString := (paths.find? isDriveRoot).getD []

/-- The first drive root of a volume, and whether the question was answered. -/
def firstDriveRootForVolume (volumeName : QString) : Prog WinI ε (QString × Bool) := do
  match ← Win.volumePathNames volumeName with
  | some paths => return (firstDriveRootFromMultiSz paths, true)
  | none => return ([], false)

/-- Unknown counts as lettered. -/
def mayHaveDriveLetter (volumeName : QString) : Prog WinI ε Bool := do
  let (driveRoot, queried) ← firstDriveRootForVolume volumeName
  return !queried || !driveRoot.isEmpty

/-! ## One volume -/

def failWith {α : Type} (context : RestoreMessage) (code : Dword) : Prog WinI RestoreMessage α := do
  let message ← windowsErrorDetails context code
  .fail message

/-- The handle must already be proven to sit on the target disk. -/
def lockAndDismount (installed : Catalog) (handle : Handle) (volumePath : QString) :
    Prog WinI RestoreMessage Unit := do
  match ← Win.lockVolume handle with
  | .error code =>
    failWith ((restoreText installed (QStringLiteral "Could not lock volume %1 before restore")).arg
      [.ofText volumePath]) code
  | .ok () =>
    match ← Win.dismountVolume handle with
    | .error code =>
      failWith ((restoreText installed (QStringLiteral "Could not dismount volume %1 before restore")).arg
        [.ofText volumePath]) code
    | .ok () => return ()

def couldNotOpen {α : Type} (installed : Catalog) (path : QString) (code : Dword) :
    Prog WinI RestoreMessage α :=
  failWith ((restoreText installed (QStringLiteral "Could not open volume %1 before restore")).arg
    [.ofText path]) code

/-! ## Volumes without a letter -/

/-- The loop body of `dismountUnletteredVolumesOnDisk`. -/
def dismountIfUnlettered (installed : Catalog) (diskNumber : UInt32) (name : QString) :
    Prog WinI RestoreMessage Unit := do
  if ← mayHaveDriveLetter name then return ()
  else
    -- Query-only first: write access is not asked for on a volume not proven to be on the target.
    let openName := withoutTrailingSlash name
    match ← openVolumePath openName .query with
    | .error _ => return ()
    | .ok handle =>
      let belongs ← volumeHasDiskExtent handle diskNumber
      let offline ← Win.volumeIsOffline handle
      Win.closeHandle handle
      if !belongs || offline then return ()
      else
        match ← openVolumePath openName .readWrite with
        | .error code => couldNotOpen installed name code
        | .ok handle =>
          if !(← volumeHasDiskExtent handle diskNumber) then Win.closeHandle handle
          else
            (lockAndDismount installed handle name).withCleanup (Win.closeHandle handle)
            Win.detail (((QStringLiteral "Dismounted %1, a volume on disk %2 with no drive letter").arg
              [name]).arg [.number diskNumber.toNat])

/-- The loop over `FindNextVolumeW`. -/
def dismountUnlettered (installed : Catalog) (diskNumber : UInt32) (finder : Handle) :
    (fuel : Nat) → (name : QString) → Prog WinI RestoreMessage Unit
  | 0, _ => .spin
  | fuel + 1, name => do
    dismountIfUnlettered installed diskNumber name
    match ← Win.findNextVolume finder with
    | some next => dismountUnlettered installed diskNumber finder fuel next
    | none => return ()

def dismountUnletteredVolumesOnDisk (installed : Catalog) (fuel : Nat) (diskNumber : UInt32) :
    Prog WinI RestoreMessage Unit := do
  match ← Win.findFirstVolume with
  | none => return ()
  | some (finder, name) =>
    (dismountUnlettered installed diskNumber finder fuel name).withCleanup
      (Win.findVolumeClose finder)

/-! ## Volumes with a letter -/

/-- C and the protected letters, as far as they are given. -/
def protectedSet [Host] (protectedLetters : List QString) : List QString :=
  protectedLetters.foldl (fun found letter =>
    let normalized := normalizedLetter letter
    if !normalized.isEmpty && normalized ∉ found then found ++ [normalized] else found)
    [QStringLiteral "C"]

/-- The errors of `DeleteVolumeMountPointW` that mean there is nothing to remove. -/
def isMissingMountPoint (code : Dword) : Bool :=
  code == ERROR_DIR_NOT_EMPTY || code == ERROR_FILE_NOT_FOUND || code == ERROR_PATH_NOT_FOUND ||
    code == ERROR_NOT_A_REPARSE_POINT

def removeMountPoint (installed : Catalog) (mountPoint : QString) :
    Prog WinI RestoreMessage Unit := do
  match ← Win.deleteVolumeMountPoint mountPoint with
  | .ok () => return ()
  | .error code =>
    if isMissingMountPoint code then return ()
    else
      failWith ((restoreText installed (QStringLiteral "Could not remove mount point %1")).arg
        [.ofText mountPoint]) code

/-- The loop of `removeMountPointsForDisk` over the letters of the disk. -/
def removeMountPoints [Host] (installed : Catalog) (diskNumber : UInt32)
    (protectedLetters : List QString) : List QString → Prog WinI RestoreMessage Unit
  | [] => return ()
  | driveName :: rest => do
    let letter := normalizedLetter driveName
    if letter < QStringLiteral "D" || letter ∈ protectedSet protectedLetters then
      removeMountPoints installed diskNumber protectedLetters rest
    else
      let devicePath := DevicePrefix ++ driveName
      match ← openVolumePath devicePath .readWrite with
      | .error code => couldNotOpen installed devicePath code
      | .ok handle =>
        -- The letter could have been reassigned between the two opens.
        if !(← volumeHasDiskExtent handle diskNumber) then
          Win.closeHandle handle
          removeMountPoints installed diskNumber protectedLetters rest
        else
          let detach : Prog WinI RestoreMessage Unit := do
            lockAndDismount installed handle devicePath
            removeMountPoint installed (driveName ++ [QChar.ofChar '\\'])
          detach.withCleanup (Win.closeHandle handle)
          removeMountPoints installed diskNumber protectedLetters rest

def removeMountPointsForDisk [Host] (installed : Catalog) (diskNumber : UInt32)
    (protectedLetters : List QString) : Prog WinI RestoreMessage Unit := do
  let letters ← driveLettersByDisk
  removeMountPoints installed diskNumber protectedLetters (letters diskNumber)

end UsbRestore
