-- SUMMARY: Messages with an English and a display half, restore steps and the plans of both backends.
import UsbRestore.Core.Disk

/-!
# Restore messages and plans

A backend message is rendered twice when it is built, in English and in the language of
the installed catalog, and remembers how to render itself again.
-/

namespace UsbRestore

/-! ## Messages -/

/-- `RestoreMessage`. `translate` is the closure `m_translate`, or the lookup of `m_source`. -/
structure RestoreMessage where
  english : QString := []
  display : QString := []
  translate : Option (Catalog → QString) := none

namespace RestoreMessage

/-- Text of the operating system or a formatter, the same in every language. -/
def ofText (text : QString) : RestoreMessage := { english := text, display := text }

def isTranslatable (message : RestoreMessage) : Bool := message.translate.isSome

/-- The display text in the language that is installed now. -/
def translated (message : RestoreMessage) (installed : Catalog) : QString :=
  match message.translate with
  | some translate => translate installed
  | none => message.display

/-- Arguments that are texts or numbers come in through `ofText`. -/
def arg (format : RestoreMessage) (args : List RestoreMessage) : RestoreMessage :=
  { english := format.english.arg (args.map english)
    display := format.display.arg (args.map display)
    translate :=
      if format.isTranslatable || args.any isTranslatable then
        some fun installed =>
          (format.translated installed).arg (args.map fun arg => arg.translated installed)
      else none }

def trimmed (message : RestoreMessage) : RestoreMessage :=
  { english := message.english.trimmed
    display := message.display.trimmed
    translate :=
      if message.isTranslatable then some fun installed => (message.translated installed).trimmed
      else none }

end RestoreMessage

/-- `restoreText(source)` while the catalog `installed` is installed. -/
def restoreText (installed : Catalog) (source : QString) : RestoreMessage :=
  { english := source
    display := installed .backend source
    translate := some fun now => now .backend source }

/-- A number as an argument of a message. -/
def numberMessage (n : Nat) : RestoreMessage := .ofText (.number n)

def formatByteSizeMessage [Host] (installed : Catalog) (bytes : UInt64) : RestoreMessage :=
  { english := formatByteSize bytes .english
    display := formatByteSize bytes (.display installed) }

@[simp] theorem english_restoreText (installed : Catalog) (source : QString) :
    (restoreText installed source).english = source := rfl

@[simp] theorem english_arg (format : RestoreMessage) (args : List RestoreMessage) :
    (format.arg args).english = format.english.arg (args.map RestoreMessage.english) := rfl

/-- `checkRestoreError`: the English verdict decides, the display text only explains. -/
def checkRestoreError (installed : Catalog) (check : TextMode → Except QString Unit) :
    Except RestoreMessage Unit :=
  match check .english with
  | .ok () => .ok ()
  | .error english =>
    .error
      { english
        display := match check (.display installed) with
          | .ok () => []
          | .error display => display }

theorem checkRestoreError_ok_iff {installed : Catalog} {check : TextMode → Except QString Unit} :
    checkRestoreError installed check = .ok () ↔ check .english = .ok () := by
  unfold checkRestoreError
  split
  · next h => simp [h]
  · next h => simp [h]

theorem checkRestoreError_error {installed : Catalog} {check : TextMode → Except QString Unit}
    {message : RestoreMessage} (h : checkRestoreError installed check = .error message) :
    check .english = .error message.english := by
  unfold checkRestoreError at h
  split at h
  · cases h
  · next henglish =>
    cases h
    exact henglish

/-! ## Steps -/

inductive RestoreStep where
  | verifyDisk
  | identifyDevice
  | unmount
  | openExclusive
  | openDrive
  | refreshMetadata
  | detachDriveLetters
  | deletePartitions
  | lockDrive
  | clearSignatures
  | resetToRaw
  | writePartitionTable
  | createPartition
  | rereadPartitionTable
  | waitForPartition
  | waitForVolume
  | refreshNewVolume
  | assignDriveLetter
  | format
  | complete
  deriving DecidableEq

def partitionStyleLabel (style : PartitionStyle) (mode : TextMode) : QString :=
  match style with
  | .gpt => QStringLiteral "GPT"
  | .mbr => QStringLiteral "MBR"
  | .unknown => coreText (QStringLiteral "Unknown") mode

def restoreStepMessage (installed : Catalog) (step : RestoreStep) (style : PartitionStyle)
    (fileSystem : FileSystemType) : RestoreMessage :=
  let text (source : QString) := restoreText installed source
  match step with
  | .verifyDisk => text (QStringLiteral "Verifying the selected USB disk")
  | .identifyDevice => text (QStringLiteral "Identifying the block device")
  | .unmount => text (QStringLiteral "Unmounting existing filesystems")
  | .openExclusive => text (QStringLiteral "Opening the device exclusively")
  | .openDrive => text (QStringLiteral "Opening and identifying the physical drive")
  | .refreshMetadata | .refreshNewVolume => text (QStringLiteral "Refreshing Windows disk metadata")
  | .detachDriveLetters => text (QStringLiteral "Detaching existing volumes and drive letters")
  | .deletePartitions => text (QStringLiteral "Deleting existing partition records")
  | .lockDrive => text (QStringLiteral "Locking the physical drive")
  | .clearSignatures => text (QStringLiteral "Clearing old MBR, GPT and ISO signatures")
  | .resetToRaw => text (QStringLiteral "Resetting the disk to RAW")
  | .writePartitionTable =>
    (text (QStringLiteral "Writing the %1 partition table")).arg
      [.ofText (partitionStyleLabel style .english)]
  | .createPartition =>
    (text (QStringLiteral "Creating one %1 data partition")).arg
      [.ofText (partitionStyleLabel style .english)]
  | .rereadPartitionTable => text (QStringLiteral "Re-reading the partition table")
  | .waitForPartition => text (QStringLiteral "Waiting for the new partition to appear")
  | .waitForVolume => text (QStringLiteral "Waiting for Windows to discover the new volume")
  | .assignDriveLetter => text (QStringLiteral "Assigning a drive letter")
  | .format =>
    (text (QStringLiteral "Formatting as %1")).arg [.ofText (fileSystemTypeName fileSystem)]
  | .complete => text (QStringLiteral "Restore complete")

/-- Whether the step changes what is stored on the stick. -/
def changesDiskContents : RestoreStep → Bool
  | .deletePartitions | .clearSignatures | .resetToRaw | .writePartitionTable
  | .createPartition | .format => true
  | .verifyDisk | .identifyDevice | .unmount | .openExclusive | .openDrive | .refreshMetadata
  | .detachDriveLetters | .lockDrive | .rereadPartitionTable | .waitForPartition
  | .waitForVolume | .refreshNewVolume | .assignDriveLetter | .complete => false

def linuxRestorePlan : List RestoreStep :=
  [.verifyDisk, .identifyDevice, .unmount, .openExclusive, .clearSignatures, .writePartitionTable,
    .format, .rereadPartitionTable, .waitForPartition, .complete]

def windowsRestorePlan : List RestoreStep :=
  [.verifyDisk, .openDrive, .refreshMetadata, .detachDriveLetters, .deletePartitions, .lockDrive,
    .clearSignatures, .resetToRaw, .createPartition, .waitForVolume, .refreshNewVolume,
    .assignDriveLetter, .format, .complete]

/-- The 1-based number of the first step that changes the disk; one past the end without. -/
def firstDestructiveStepOf (plan : List RestoreStep) : Nat :=
  plan.findIdx changesDiskContents + 1

/-! ## Counting steps -/

structure RestoreStepCounter where
  plan : List RestoreStep
  done : Nat := 0

/-- The 1-based number of `step`, or 0 without advancing if it is not next. -/
def RestoreStepCounter.advance (counter : RestoreStepCounter) (step : RestoreStep) :
    Nat × RestoreStepCounter :=
  if counter.plan.length ≤ counter.done ∨ counter.plan[counter.done]? ≠ some step then (0, counter)
  else (counter.done + 1, { counter with done := counter.done + 1 })

/-- The step that is next advances the counter. -/
theorem RestoreStepCounter.advance_next {counter : RestoreStepCounter} {step : RestoreStep}
    (h : counter.plan[counter.done]? = some step) :
    counter.advance step = (counter.done + 1, { counter with done := counter.done + 1 }) := by
  have hlt : counter.done < counter.plan.length := (List.getElem?_eq_some_iff.mp h).1
  rw [advance, if_neg]
  rintro (hle | hne)
  · omega
  · exact hne h

theorem firstDestructiveStepOf_windowsRestorePlan :
    firstDestructiveStepOf windowsRestorePlan = 5 := rfl

end UsbRestore
