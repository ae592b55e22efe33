-- SUMMARY: The helper's arguments, exit codes and output lines, and how the client judges a helper run.
import UsbRestore.Core.RestoreMessage
import UsbRestore.Platform.DiskService

/-!
# The restore protocol

Two processes of one build talk through the helper's arguments, its lines on stdout, its exit
code and one token on its stdin. Whatever comes from the other side is a claim to check.
-/

namespace UsbRestore

def RestoreProtocolVersion : Int := 5

def MaxProtocolTextLength : Nat := 2000

def MaxDeviceNameLength : Nat := 64

def MaxVolumeLabelLength : Nat := 11

def DeviceNodePrefix : QString := QStringLiteral "/dev/"

def ProtocolVersionFlag : QString := QStringLiteral "--protocol-version"

def DeviceFlag : QString := QStringLiteral "--device"
def StyleFlag : QString := QStringLiteral "--style"
def FileSystemFlag : QString := QStringLiteral "--filesystem"
def LabelFlag : QString := QStringLiteral "--label"
def ExpectSizeFlag : QString := QStringLiteral "--expect-size"
def ExpectSectorSizeFlag : QString := QStringLiteral "--expect-sector-size"
def ExpectSequenceFlag : QString := QStringLiteral "--expect-sequence"
def ExpectSerialFlag : QString := QStringLiteral "--expect-serial"
def ExpectUniqueIdFlag : QString := QStringLiteral "--expect-unique-id"
def ExpectPathFlag : QString := QStringLiteral "--expect-path"
def ExpectNameFlag : QString := QStringLiteral "--expect-name"
def LanguageFlag : QString := QStringLiteral "--language"

/-- `CancelRequestToken` -/
def CancelRequestToken : List UInt8 := [0x63, 0x61, 0x6E, 0x63, 0x65, 0x6C]

def RestoreExitSuccess : Int := 0
def RestoreExitFailed : Int := 1
def RestoreExitUsage : Int := 2
def RestoreExitCancelled : Int := 3

/-! ## Arguments -/

def isDeviceNameCharacter (character : QChar) : Bool :=
  if character > 0x7F then false
  else
    QChar.isAsciiLetterOrNumber character || character == QChar.ofChar '_' ||
      character == QChar.ofChar '-'

def isVolumeLabelCharacter (character : QChar) : Bool :=
  if character > 0x7F then false
  else
    QChar.isAsciiLetterOrNumber character || character == QChar.ofChar ' ' ||
      character == QChar.ofChar '_' || character == QChar.ofChar '-'

/-- One digit after `result`, checked against `maximum` before it is taken. -/
def parseDecimalFrom (maximum result : Nat) : QString → Option Nat
  | [] => some result
  | c :: text =>
    if !QChar.isDigit c then none
    else
      let digit := c.toNat - 48
      if result > (maximum - digit) / 10 then none
      else parseDecimalFrom maximum (result * 10 + digit) text

/-- Only plain digits, no sign and no white space. -/
def parseDecimal (text : QString) (maximum : Nat) : Option Nat :=
  if text.isEmpty then none else parseDecimalFrom maximum 0 text

def LanguageUsage : QString := QStringLiteral "--language must be \"en\" or \"de\"."

def isPlausibleDeviceNodePath (path : QString) : Bool :=
  if !DeviceNodePrefix.isPrefixOf path then false
  else
    let name := path.drop DeviceNodePrefix.length
    if name.isEmpty || name.length > MaxDeviceNameLength then false
    else name.all isDeviceNameCharacter

def isValidVolumeLabel (label : QString) : Bool :=
  if label.isEmpty || label.length > MaxVolumeLabelLength then false
  else if label.head? = some (QChar.ofChar '-') then false
  else if label.trimmed ≠ label then false
  else label.all isVolumeLabelCharacter

structure RestoreArguments where
  expected : DiskInfo := {}
  style : PartitionStyle := .gpt
  fileSystem : FileSystemType := .exFat
  volumeLabel : QString := []
  displayLanguage : Language := .english

/-- `resolveLanguage` where `uiLanguages` are the languages of the user, the ones it knows. -/
def resolveLanguage (preference : Language) (uiLanguages : List Language) : Language :=
  match preference with
  | .english | .german => preference
  | .system => (uiLanguages.find? fun language => language ≠ .system).getD .english

/-- The flag and the value, unless the value is blank. -/
def appendIfKnown (flag value : QString) : List QString :=
  if !value.trimmed.isEmpty then [flag, value] else []

def buildRestoreArguments (disk : DiskInfo) (style : PartitionStyle) (fileSystem : FileSystemType)
    (volumeLabel : QString) (language : Language) (uiLanguages : List Language) : List QString :=
  [DeviceFlag, disk.deviceId] ++
    [StyleFlag, if style = .mbr then QStringLiteral "mbr" else QStringLiteral "gpt"] ++
    [FileSystemFlag, fileSystemTypeToken fileSystem] ++
    [LabelFlag, volumeLabel] ++
    [ExpectSizeFlag, .number disk.size.toNat] ++
    [ExpectSectorSizeFlag, .number disk.sectorSize.toNat] ++
    (match disk.deviceSequence with
      | some sequence => [ExpectSequenceFlag, .number sequence.toNat]
      | none => []) ++
    appendIfKnown ExpectSerialFlag disk.serialNumber ++
    appendIfKnown ExpectUniqueIdFlag disk.uniqueId ++
    appendIfKnown ExpectPathFlag disk.path ++
    appendIfKnown ExpectNameFlag disk.name ++
    [LanguageFlag,
      if resolveLanguage language uiLanguages = .german then QStringLiteral "de"
      else QStringLiteral "en"]

/-- What `parseRestoreArguments` has gathered while it reads the flags. -/
structure ArgumentDraft where
  result : RestoreArguments := {}
  device : QString := []
  style : QString := []
  fileSystem : QString := []
  size : QString := []
  sectorSize : QString := []
  seen : List QString := []
  sawLanguage : Bool := false

namespace ArgumentDraft

def expecting (draft : ArgumentDraft) (change : DiskInfo → DiskInfo) : ArgumentDraft :=
  { draft with result := { draft.result with expected := change draft.result.expected } }

/-- One flag with its value. -/
def take (draft : ArgumentDraft) (flag value : QString) : Except QString ArgumentDraft :=
  if flag = DeviceFlag then .ok { draft with device := value }
  else if flag = StyleFlag then .ok { draft with style := value }
  else if flag = FileSystemFlag then .ok { draft with fileSystem := value }
  else if flag = LabelFlag then
    .ok { draft with result := { draft.result with volumeLabel := value } }
  else if flag = ExpectSizeFlag then .ok { draft with size := value }
  else if flag = ExpectSectorSizeFlag then .ok { draft with sectorSize := value }
  else if flag = ExpectSequenceFlag then
    match parseDecimal value (2 ^ 64 - 1) with
    | none =>
      .error (QStringLiteral "--expect-sequence must be a positive disk sequence number.")
    | some sequence =>
      if sequence = 0 then
        .error (QStringLiteral "--expect-sequence must be a positive disk sequence number.")
      else
        .ok (draft.expecting fun disk =>
          { disk with deviceSequence := some (UInt64.ofNat sequence) })
  else if flag = ExpectSerialFlag then
    .ok (draft.expecting fun disk => { disk with serialNumber := value })
  else if flag = ExpectUniqueIdFlag then
    .ok (draft.expecting fun disk => { disk with uniqueId := value })
  else if flag = ExpectPathFlag then
    .ok (draft.expecting fun disk => { disk with path := value })
  else if flag = ExpectNameFlag then
    .ok (draft.expecting fun disk => { disk with name := value })
  else if flag = LanguageFlag then
    if value = QStringLiteral "en" then
      .ok { draft with
        result := { draft.result with displayLanguage := .english }
        sawLanguage := true }
    else if value = QStringLiteral "de" then
      .ok { draft with
        result := { draft.result with displayLanguage := .german }
        sawLanguage := true }
    else .error LanguageUsage
  else .error ((QStringLiteral "%1 is not a recognised option.").arg [flag])

/-- The loop over the flags. -/
def readArguments (draft : ArgumentDraft) : List QString → Except QString ArgumentDraft
  | [] => .ok draft
  | [flag] => .error ((QStringLiteral "%1 was given without a value.").arg [flag])
  | flag :: value :: arguments =>
    if draft.seen.contains flag then
      .error ((QStringLiteral "%1 was given more than once.").arg [flag])
    else
      match { draft with seen := draft.seen ++ [flag] }.take flag value with
      | .error error => .error error
      | .ok draft => draft.readArguments arguments

end ArgumentDraft

/-- `--style` and what it stands for. -/
def parseStyle (style : QString) : Option PartitionStyle :=
  if style = QStringLiteral "gpt" then some .gpt
  else if style = QStringLiteral "mbr" then some .mbr
  else none

/-- A number that is plain digits, at most `maximum` and not zero. -/
def parsePositive (text : QString) (maximum : Nat) : Option Nat :=
  (parseDecimal text maximum).filter (fun number => number ≠ 0)

/-- The checks after the loop, in their order. -/
def ArgumentDraft.finish (draft : ArgumentDraft) : Except QString RestoreArguments :=
  if !isPlausibleDeviceNodePath draft.device then
    .error (QStringLiteral "--device must name a block device under /dev.")
  else
    match parseStyle draft.style, parseFileSystemType draft.fileSystem with
    | none, _ => .error (QStringLiteral "--style must be \"gpt\" or \"mbr\".")
    | some _, none =>
      .error
        (QStringLiteral "--filesystem must be \"exfat\", \"fat32\", \"ntfs\" or \"ext4\".")
    | some style, some fileSystem =>
      if !isValidVolumeLabel draft.result.volumeLabel then
        .error
          ((QStringLiteral "--label must be 1 to %1 letters, digits, spaces, \"-\" or \"_\".").arg
            [.number MaxVolumeLabelLength])
      else
        match parsePositive draft.size (2 ^ 64 - 1),
          parsePositive draft.sectorSize (2 ^ 32 - 1) with
        | none, _ => .error (QStringLiteral "--expect-size must be the disk size in bytes.")
        | some _, none =>
          .error
            (QStringLiteral "--expect-sector-size must be the logical sector size in bytes.")
        | some size, some sectorSize =>
          if !draft.sawLanguage then .error LanguageUsage
          else
            .ok { draft.result with
              style
              fileSystem
              expected := { draft.result.expected with
                size := UInt64.ofNat size
                sectorSize := UInt32.ofNat sectorSize
                deviceId := draft.device
                displayId := draft.device } }

def parseRestoreArguments (arguments : List QString) : Except QString RestoreArguments :=
  match ArgumentDraft.readArguments {} arguments with
  | .error error => .error error
  | .ok draft => draft.finish

/-! ## What the arguments promise -/

theorem parseDecimalFrom_le {maximum result n : Nat} {text : QString} (hmax : 9 ≤ maximum)
    (hresult : result ≤ maximum) (h : parseDecimalFrom maximum result text = some n) :
    n ≤ maximum := by
  induction text generalizing result with
  | nil =>
    cases h
    exact hresult
  | cons c text ih =>
    unfold parseDecimalFrom at h
    dsimp only at h
    split_ifs at h with hdigit hlarge
    refine ih ?_ h
    rw [Bool.not_eq_true', Bool.not_eq_false, QChar.isDigit, Bool.and_eq_true, decide_eq_true_eq,
      decide_eq_true_eq, UInt16.le_iff_toNat_le, UInt16.le_iff_toNat_le] at hdigit
    have h57 : c.toNat ≤ 57 := hdigit.2
    omega

/-- A positive number in range. -/
theorem parsePositive_some {text : QString} {maximum n : Nat} (hmax : 9 ≤ maximum)
    (h : parsePositive text maximum = some n) : n ≠ 0 ∧ n ≤ maximum := by
  unfold parsePositive at h
  obtain ⟨hparsed, hne⟩ := Option.filter_eq_some_iff.mp h
  unfold parseDecimal at hparsed
  split_ifs at hparsed
  exact ⟨by simpa using hne, parseDecimalFrom_le hmax (Nat.zero_le _) hparsed⟩

/-- What every accepted argument list says: a device node by a plain name, and a size and a sector
size that are not zero. -/
structure AcceptedArguments (parsed : RestoreArguments) : Prop where
  device : isPlausibleDeviceNodePath parsed.expected.deviceId = true
  size : parsed.expected.size ≠ 0
  sectorSize : parsed.expected.sectorSize ≠ 0

theorem ArgumentDraft.finish_ok {draft : ArgumentDraft} {parsed : RestoreArguments}
    (h : draft.finish = .ok parsed) : AcceptedArguments parsed := by
  unfold ArgumentDraft.finish at h
  split at h
  · cases h
  next hdevice =>
  split at h
  · cases h
  · cases h
  split at h
  · cases h
  split at h
  · cases h
  · cases h
  next size sectorSize hsize hsector =>
  split at h
  · cases h
  cases h
  rw [Bool.not_eq_true', Bool.not_eq_false] at hdevice
  obtain ⟨hsize, hsizeMax⟩ := parsePositive_some (by decide) hsize
  obtain ⟨hsector, hsectorMax⟩ := parsePositive_some (by decide) hsector
  refine ⟨hdevice, fun hzero => hsize ?_, fun hzero => hsector ?_⟩
  · have hnat : (UInt64.ofNat size).toNat = 0 := congrArg UInt64.toNat hzero
    rwa [UInt64.toNat_ofNat_of_lt' (Nat.lt_of_le_of_lt hsizeMax (by decide))] at hnat
  · have hnat : (UInt32.ofNat sectorSize).toNat = 0 := congrArg UInt32.toNat hzero
    rwa [UInt32.toNat_ofNat_of_lt' (Nat.lt_of_le_of_lt hsectorMax (by decide))] at hnat

theorem parseRestoreArguments_ok {arguments : List QString} {parsed : RestoreArguments}
    (h : parseRestoreArguments arguments = .ok parsed) : AcceptedArguments parsed := by
  unfold parseRestoreArguments at h
  split at h
  · cases h
  · exact ArgumentDraft.finish_ok h

end UsbRestore
