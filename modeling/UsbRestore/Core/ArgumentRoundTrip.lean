-- SUMMARY: The arguments built for a disk are accepted with the same request, and the claims judge every disk alike.
import UsbRestore.Core.ArgumentGrammar
import UsbRestore.Core.SafetyFacts

/-!
# The request across the wire

An identifier that is blank is left out, so the record that comes back need not equal the disk that
was selected. What is kept is every verdict about a second disk.
-/

namespace UsbRestore

/-! ## The pairs that are built -/

/-- A value that is not blank. -/
def knownText (value : QString) : Option QString :=
  if !value.trimmed.isEmpty then some value else none

/-- A flag with its value, where there is one. -/
def optionalPair (flag : QString) (value : Option QString) : List (QString × QString) :=
  value.toList.map fun value => (flag, value)

/-- The pairs of `buildRestoreArguments`. -/
def builtPairs (disk : DiskInfo) (style : PartitionStyle) (fileSystem : FileSystemType)
    (volumeLabel : QString) (language : Language) (uiLanguages : List Language) :
    List (QString × QString) :=
  [(DeviceFlag, disk.deviceId),
    (StyleFlag, if style = .mbr then QStringLiteral "mbr" else QStringLiteral "gpt"),
    (FileSystemFlag, fileSystemTypeToken fileSystem), (LabelFlag, volumeLabel),
    (ExpectSizeFlag, .number disk.size.toNat),
    (ExpectSectorSizeFlag, .number disk.sectorSize.toNat)] ++
  optionalPair ExpectSequenceFlag
    (disk.deviceSequence.map fun sequence => .number sequence.toNat) ++
  optionalPair ExpectSerialFlag (knownText disk.serialNumber) ++
  optionalPair ExpectUniqueIdFlag (knownText disk.uniqueId) ++
  optionalPair ExpectPathFlag (knownText disk.path) ++
  optionalPair ExpectNameFlag (knownText disk.name) ++
  [(LanguageFlag, if resolveLanguage language uiLanguages = .german then QStringLiteral "de"
    else QStringLiteral "en")]

section Built

variable {disk : DiskInfo} {style : PartitionStyle} {fileSystem : FileSystemType}
  {volumeLabel : QString} {language : Language} {uiLanguages : List Language}

theorem appendIfKnown_eq (flag value : QString) :
    appendIfKnown flag value = argumentsOf (optionalPair flag (knownText value)) := by
  unfold appendIfKnown knownText
  by_cases hblank : value.trimmed.isEmpty = true <;> simp [hblank, optionalPair, argumentsOf]

theorem argumentsOf_append (left right : List (QString × QString)) :
    argumentsOf (left ++ right) = argumentsOf left ++ argumentsOf right :=
  List.flatMap_append

/-- What is built for the helper is a list of options with one value each, the unknown ones left
out. -/
theorem buildRestoreArguments_eq :
    buildRestoreArguments disk style fileSystem volumeLabel language uiLanguages =
      argumentsOf (builtPairs disk style fileSystem volumeLabel language uiLanguages) := by
  unfold buildRestoreArguments builtPairs
  simp only [argumentsOf_append, appendIfKnown_eq]
  cases disk.deviceSequence <;> rfl

theorem optionalPair_flags (flag : QString) (value : Option QString) :
    ((optionalPair flag value).map Prod.fst).Sublist [flag] := by
  cases value with
  | none => exact List.nil_sublist _
  | some value => exact List.Sublist.refl _

/-- The flags stand in the order in which the parser knows them. -/
theorem builtPairs_flags :
    ((builtPairs disk style fileSystem volumeLabel language uiLanguages).map Prod.fst).Sublist
      KnownFlags := by
  unfold builtPairs
  simp only [List.map_append]
  exact ((((((List.Sublist.refl _).append (optionalPair_flags _ _)).append
    (optionalPair_flags _ _)).append (optionalPair_flags _ _)).append
    (optionalPair_flags _ _)).append (optionalPair_flags _ _)).append (List.Sublist.refl _)

theorem lookup_optionalPair (flag asked : QString) (value : Option QString) :
    (optionalPair flag value).lookup asked = if asked = flag then value else none := by
  cases value with
  | none => simp [optionalPair]
  | some value =>
    by_cases hasked : asked = flag
    · simp [optionalPair, hasked]
    · have hne : (asked == flag) = false := by simpa using hasked
      simp [optionalPair, List.lookup_cons, hne, hasked]

/-- The value that is built for a flag. -/
theorem claimOf_builtPairs (asked : QString) :
    claimOf (builtPairs disk style fileSystem volumeLabel language uiLanguages) asked =
      if asked = DeviceFlag then some disk.deviceId
      else if asked = StyleFlag then
        some (if style = .mbr then QStringLiteral "mbr" else QStringLiteral "gpt")
      else if asked = FileSystemFlag then some (fileSystemTypeToken fileSystem)
      else if asked = LabelFlag then some volumeLabel
      else if asked = ExpectSizeFlag then some (.number disk.size.toNat)
      else if asked = ExpectSectorSizeFlag then some (.number disk.sectorSize.toNat)
      else if asked = ExpectSequenceFlag then
        disk.deviceSequence.map fun sequence => .number sequence.toNat
      else if asked = ExpectSerialFlag then knownText disk.serialNumber
      else if asked = ExpectUniqueIdFlag then knownText disk.uniqueId
      else if asked = ExpectPathFlag then knownText disk.path
      else if asked = ExpectNameFlag then knownText disk.name
      else if asked = LanguageFlag then
        some (if resolveLanguage language uiLanguages = .german then QStringLiteral "de"
          else QStringLiteral "en")
      else none := by
  have hlookup : ∀ (flag value : QString) (rest : List (QString × QString)),
      List.lookup asked ((flag, value) :: rest) =
        if asked = flag then some value else rest.lookup asked := by
    intro flag value rest
    rw [List.lookup_cons]
    by_cases hasked : asked = flag
    · simp [hasked]
    · have hne : (asked == flag) = false := by simpa using hasked
      simp [hne, hasked]
  unfold claimOf builtPairs
  simp only [List.lookup_append, lookup_optionalPair, hlookup, List.lookup_nil]
  by_cases hknown : asked ∈ KnownFlags
  · simp only [KnownFlags, List.mem_cons, List.not_mem_nil, or_false] at hknown
    rcases hknown with rfl | rfl | rfl | rfl | rfl | rfl | rfl | rfl | rfl | rfl | rfl | rfl <;>
      simp +decide only [if_true, if_false, Option.or_some, Option.none_or, Option.or_none,
        Option.getD_none]
  · simp only [KnownFlags, List.mem_cons, List.not_mem_nil, or_false, not_or] at hknown
    obtain ⟨h1, h2, h3, h4, h5, h6, h7, h8, h9, h10, h11, h12⟩ := hknown
    simp only [h1, h2, h3, h4, h5, h6, h7, h8, h9, h10, h11, h12, if_false, Option.or_none]

end Built

/-! ## What the parser makes of them -/

/-- A number within the limit is read back unless it is zero. -/
theorem denotesPositive_number {maximum n : Nat} (hmax : n ≤ maximum) :
    (∃ m, DenotesPositive maximum (.number n) m) ↔ n ≠ 0 := by
  unfold DenotesPositive
  rw [QString.digits_number]
  constructor
  · rintro ⟨m, heq, hpos, -⟩ rfl
    obtain rfl := Option.some.inj heq
    exact absurd hpos (by decide)
  · intro hne
    exact ⟨n, rfl, Nat.one_le_iff_ne_zero.mpr hne, hmax⟩

theorem claimedNumber_number (n : Nat) : claimedNumber (some (.number n)) = some n :=
  QString.digits_number n

/-- What a disk and a label must meet for their arguments to be accepted. -/
structure Claimable (disk : DiskInfo) (volumeLabel : QString) : Prop where
  device : isPlausibleDeviceNodePath disk.deviceId = true
  label : isValidVolumeLabel volumeLabel = true
  size : disk.size ≠ 0
  sectorSize : disk.sectorSize ≠ 0
  sequence : disk.deviceSequence ≠ some 0

section Parsed

variable {disk : DiskInfo} {style : PartitionStyle} {fileSystem : FileSystemType}
  {volumeLabel : QString} {language : Language} {uiLanguages : List Language}

/-- The claims that are built are accepted exactly for a disk and a label that can be claimed. -/
theorem acceptedClaims_builtPairs :
    AcceptedClaims
        (claimOf (builtPairs disk style fileSystem volumeLabel language uiLanguages)) ↔
      Claimable disk volumeLabel := by
  have hclaim := @claimOf_builtPairs disk style fileSystem volumeLabel language uiLanguages
  have hsizeMax : disk.size.toNat ≤ 2 ^ 64 - 1 := Nat.le_pred_of_lt disk.size.toNat_lt
  have hsectorMax : disk.sectorSize.toNat ≤ 2 ^ 32 - 1 := Nat.le_pred_of_lt disk.sectorSize.toNat_lt
  have hsequenceMax : ∀ sequence : UInt64, sequence.toNat ≤ 2 ^ 64 - 1 :=
    fun sequence => Nat.le_pred_of_lt sequence.toNat_lt
  have hdevice := hclaim DeviceFlag
  have hstyle := hclaim StyleFlag
  have hfileSystem := hclaim FileSystemFlag
  have hlabel := hclaim LabelFlag
  have hsize := hclaim ExpectSizeFlag
  have hsectorSize := hclaim ExpectSectorSizeFlag
  have hsequence := hclaim ExpectSequenceFlag
  have hlanguage := hclaim LanguageFlag
  simp +decide only [if_true, if_false] at hdevice hstyle hfileSystem hlabel
  simp +decide only [if_true, if_false] at hsize hsectorSize hsequence hlanguage
  constructor
  · intro h
    obtain ⟨path, hpath, hnodePath⟩ := h.device
    obtain ⟨label, hgiven, hvalid⟩ := h.label
    obtain ⟨sizeText, size, hsizeText, hsizeDenotes⟩ := h.size
    obtain ⟨sectorText, sector, hsectorText, hsectorDenotes⟩ := h.sectorSize
    obtain rfl := Option.some.inj (hdevice.symm.trans hpath)
    obtain rfl := Option.some.inj (hlabel.symm.trans hgiven)
    obtain rfl := Option.some.inj (hsize.symm.trans hsizeText)
    obtain rfl := Option.some.inj (hsectorSize.symm.trans hsectorText)
    refine ⟨hnodePath, hvalid, ?_, ?_, ?_⟩
    · intro hzero
      exact (denotesPositive_number hsizeMax).mp ⟨size, hsizeDenotes⟩ (congrArg UInt64.toNat hzero)
    · intro hzero
      exact (denotesPositive_number hsectorMax).mp ⟨sector, hsectorDenotes⟩
        (congrArg UInt32.toNat hzero)
    · intro hzero
      rw [hzero] at hsequence
      exact (denotesPositive_number (hsequenceMax 0)).mp (h.sequence _ hsequence) rfl
  · intro h
    refine ⟨⟨_, hdevice, h.device⟩, ?_, ⟨_, hfileSystem⟩, ⟨_, hlabel, h.label⟩, ?_, ?_, ?_, ?_⟩
    · rw [hstyle]
      split_ifs
      · exact .inr rfl
      · exact .inl rfl
    · have hne : disk.size.toNat ≠ 0 := fun hzero => h.size (UInt64.toNat_inj.mp hzero)
      obtain ⟨n, hn⟩ := (denotesPositive_number hsizeMax).mpr hne
      exact ⟨_, n, hsize, hn⟩
    · have hne : disk.sectorSize.toNat ≠ 0 := fun hzero => h.sectorSize (UInt32.toNat_inj.mp hzero)
      obtain ⟨n, hn⟩ := (denotesPositive_number hsectorMax).mpr hne
      exact ⟨_, n, hsectorSize, hn⟩
    · rw [hlanguage]
      split_ifs
      · exact .inr rfl
      · exact .inl rfl
    · intro text htext
      rw [hsequence] at htext
      obtain ⟨sequence, hgiven, rfl⟩ := Option.map_eq_some_iff.mp htext
      refine (denotesPositive_number (hsequenceMax sequence)).mpr fun hzero => h.sequence ?_
      rw [hgiven]
      exact congrArg some (UInt64.toNat_inj.mp hzero)

/-- What is built is well formed exactly for a disk that can be claimed. -/
theorem wellFormedArguments_builtPairs :
    WellFormedArguments
        (argumentsOf (builtPairs disk style fileSystem volumeLabel language uiLanguages)) ↔
      Claimable disk volumeLabel := by
  rw [← @acceptedClaims_builtPairs disk style fileSystem volumeLabel language uiLanguages]
  have hflags := argumentFlags_eq_map (length_argumentsOf_even
    (builtPairs disk style fileSystem volumeLabel language uiLanguages))
  rw [argumentPairs_argumentsOf] at hflags
  constructor
  · intro h
    have haccepted := h.accepted
    rwa [argumentPairs_argumentsOf] at haccepted
  · intro h
    refine ⟨length_argumentsOf_even _, ?_, ?_, ?_⟩
    · rw [hflags]
      exact builtPairs_flags.nodup (by decide)
    · rw [hflags]
      exact fun flag hflag => builtPairs_flags.subset hflag
    · rw [argumentPairs_argumentsOf]
      exact h

omit disk style fileSystem volumeLabel in
/-- A preference resolves to a language, not to the system's. -/
theorem resolveLanguage_resolved : resolveLanguage language uiLanguages = .english ∨
    resolveLanguage language uiLanguages = .german := by
  cases language with
  | english => exact .inl rfl
  | german => exact .inr rfl
  | system =>
    unfold resolveLanguage
    cases hfind : uiLanguages.find? fun language => language ≠ .system with
    | none => exact .inl rfl
    | some known =>
      have hknown := List.find?_some hfind
      cases known with
      | system => simp at hknown
      | english => exact .inl rfl
      | german => exact .inr rfl

/-- What comes back: the request as it was, and of the disk what is known of it. -/
theorem argumentsMeant_builtPairs (hstyle : style = .gpt ∨ style = .mbr) :
    argumentsMeant (claimOf (builtPairs disk style fileSystem volumeLabel language uiLanguages)) =
      { expected :=
          { deviceId := disk.deviceId
            displayId := disk.deviceId
            serialNumber := (knownText disk.serialNumber).getD []
            uniqueId := (knownText disk.uniqueId).getD []
            path := (knownText disk.path).getD []
            name := (knownText disk.name).getD []
            deviceSequence := disk.deviceSequence
            size := disk.size
            sectorSize := disk.sectorSize }
        style
        fileSystem
        volumeLabel
        displayLanguage := resolveLanguage language uiLanguages } := by
  have hsequence : (claimedNumber (disk.deviceSequence.map fun sequence =>
      .number sequence.toNat)).map UInt64.ofNat = disk.deviceSequence := by
    cases disk.deviceSequence with
    | none => rfl
    | some sequence =>
      rw [Option.map_some, claimedNumber_number, Option.map_some, UInt64.ofNat_toNat]
  have hlanguage : resolveLanguage language uiLanguages = .english ∨
      resolveLanguage language uiLanguages = .german := resolveLanguage_resolved
  unfold argumentsMeant
  simp +decide only [claimOf_builtPairs, if_true, if_false, hsequence, claimedNumber_number,
    Option.getD_some, Option.bind_some, parseFileSystemType_token, UInt64.ofNat_toNat,
    UInt32.ofNat_toNat]
  rcases hstyle with rfl | rfl <;> rcases hlanguage with hen | hde
  · rw [hen]; simp +decide only [if_false]
  · rw [hde]; simp +decide only [if_true, if_false]
  · rw [hen]; simp +decide only [if_true, if_false]
  · rw [hde]; simp +decide only [if_true]

end Parsed

/-! ## Verdicts -/

section Verdicts

variable [Host]

/-- Blank text and no text are one to the checks. -/
theorem normalizedIdentity_knownText (value : QString) :
    normalizedIdentity ((knownText value).getD []) = normalizedIdentity value := by
  unfold knownText normalizedIdentity
  by_cases hblank : value.trimmed = []
  · simp [hblank]
  · simp [hblank]

/-- A claim that is left out compares as the empty text does, so that nothing is lost on the way. -/
theorem bothKnownAndDifferent_knownText (value other : QString) :
    bothKnownAndDifferent ((knownText value).getD []) other = bothKnownAndDifferent value other := by
  unfold bothKnownAndDifferent
  rw [normalizedIdentity_knownText]

/-- The request survives the wire, and the claims give the verdict of the selected disk on every
second disk, while they pass no target check themselves. -/
theorem buildRestoreArguments_round_trip (disk : DiskInfo) (style : PartitionStyle)
    (fileSystem : FileSystemType) (volumeLabel : QString) (language : Language)
    (uiLanguages : List Language) (hstyle : style = .gpt ∨ style = .mbr) :
    ((∃ parsed, parseRestoreArguments
        (buildRestoreArguments disk style fileSystem volumeLabel language uiLanguages) =
          .ok parsed) ↔ Claimable disk volumeLabel) ∧
    ∀ parsed, parseRestoreArguments
        (buildRestoreArguments disk style fileSystem volumeLabel language uiLanguages) =
          .ok parsed →
      parsed.style = style ∧ parsed.fileSystem = fileSystem ∧ parsed.volumeLabel = volumeLabel ∧
      parsed.displayLanguage = resolveLanguage language uiLanguages ∧
      parsed.expected.deviceId = disk.deviceId ∧ parsed.expected.size = disk.size ∧
      parsed.expected.sectorSize = disk.sectorSize ∧
      parsed.expected.deviceSequence = disk.deviceSequence ∧
      parsed.expected.busType = 0 ∧
      (∀ guard mode, (isSafeRestoreTarget parsed.expected guard mode).isOk = false) ∧
      ∀ current mode, (isSameRestoreTarget parsed.expected current mode).isOk =
        (isSameRestoreTarget disk current mode).isOk := by
  rw [buildRestoreArguments_eq]
  constructor
  · constructor
    · rintro ⟨parsed, hparsed⟩
      exact wellFormedArguments_builtPairs.mp (parseRestoreArguments_eq_ok.mp hparsed).1
    · intro h
      exact ⟨_, parseRestoreArguments_eq_ok.mpr ⟨wellFormedArguments_builtPairs.mpr h, rfl⟩⟩
  · intro parsed hparsed
    obtain ⟨-, hmeant⟩ := parseRestoreArguments_eq_ok.mp hparsed
    rw [argumentPairs_argumentsOf, argumentsMeant_builtPairs hstyle] at hmeant
    subst hmeant
    refine ⟨rfl, rfl, rfl, rfl, rfl, rfl, rfl, rfl, rfl, fun guard mode => ?_,
      fun current mode => ?_⟩
    · rw [← Bool.not_eq_true, isOk_iff, isSafeRestoreTarget_ok_iff]
      intro hsafe
      have hbus : (0 : UInt32) = UsbBusType := hsafe.usb
      exact absurd hbus (by decide)
    · rw [Bool.eq_iff_iff, isOk_iff, isOk_iff, isSameRestoreTarget_ok_iff,
        isSameRestoreTarget_ok_iff]
      constructor
      · rintro ⟨h1, h2, h3, h4, h5, h6, h7, h8⟩
        rw [bothKnownAndDifferent_knownText] at h5 h6 h7 h8
        exact ⟨h1, h2, h3, h4, h5, h6, h7, h8⟩
      · rintro ⟨h1, h2, h3, h4, h5, h6, h7, h8⟩
        rw [← bothKnownAndDifferent_knownText] at h5 h6 h7 h8
        exact ⟨h1, h2, h3, h4, h5, h6, h7, h8⟩

end Verdicts

open SmallStick in
/-- A stick with a blank serial number and a name that looks like a flag comes back whole. -/
theorem buildRestoreArguments_round_trip_small :
    ∃ parsed, parseRestoreArguments (buildRestoreArguments
        { deviceId := QStringLiteral "/dev/sdb", serialNumber := QStringLiteral "  ",
          name := QStringLiteral "--device", size := 8388608 }
        .mbr .fat32 (QStringLiteral "USB") .system []) = .ok parsed ∧
      parsed.style = .mbr ∧ parsed.expected.size = 8388608 ∧ parsed.displayLanguage = .english := by
  obtain ⟨haccepted, hparsed⟩ := buildRestoreArguments_round_trip
    { deviceId := QStringLiteral "/dev/sdb", serialNumber := QStringLiteral "  ",
      name := QStringLiteral "--device", size := 8388608 }
    .mbr .fat32 (QStringLiteral "USB") .system [] (.inr rfl)
  have hclaimable : Claimable
      { deviceId := QStringLiteral "/dev/sdb", serialNumber := QStringLiteral "  ",
        name := QStringLiteral "--device", size := 8388608 } (QStringLiteral "USB") :=
    ⟨by decide, by decide, by decide, by decide, by decide⟩
  obtain ⟨parsed, hok⟩ := haccepted.mpr hclaimable
  obtain ⟨hstyle, -, -, hlanguage, -, hsize, -⟩ := hparsed parsed hok
  exact ⟨parsed, hok, hstyle, hsize, hlanguage⟩

end UsbRestore
