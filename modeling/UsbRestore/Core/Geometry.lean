-- SUMMARY: What the layout, the GPT geometry and the write gate compute, over the natural numbers.
import UsbRestore.Core.PartitionTable

/-!
# Geometry

The core computes one layout several times over, in bytes for the partition and in
sectors for the tables. These lemmas restate each computation over `Nat`, where no
intermediate value wraps, and read off what an accepted request satisfies.
-/

namespace UsbRestore

/-! ## Sector sizes -/

theorem isSupportedSectorSize_cases {sectorSize : UInt32}
    (h : isSupportedSectorSize sectorSize = true) :
    sectorSize = 512 ∨ sectorSize = 1024 ∨ sectorSize = 2048 ∨ sectorSize = 4096 := by
  simpa [isSupportedSectorSize, or_assoc] using h

theorem supportedOr512_of_supported {sectorSize : UInt32}
    (h : isSupportedSectorSize sectorSize = true) : supportedOr512 sectorSize = sectorSize :=
  if_pos h

theorem isSupportedSectorSize_supportedOr512 (sectorSize : UInt32) :
    isSupportedSectorSize (supportedOr512 sectorSize) = true := by
  unfold supportedOr512
  split
  · next h => exact h
  · rfl

theorem supportedOr512_cases (sectorSize : UInt32) :
    supportedOr512 sectorSize = 512 ∨ supportedOr512 sectorSize = 1024 ∨
      supportedOr512 sectorSize = 2048 ∨ supportedOr512 sectorSize = 4096 :=
  isSupportedSectorSize_cases (isSupportedSectorSize_supportedOr512 sectorSize)

theorem effectiveSectorSize_of_supported {sectorSize : UInt32}
    (h : isSupportedSectorSize sectorSize = true) : effectiveSectorSize sectorSize = sectorSize := by
  rcases isSupportedSectorSize_cases h with rfl | rfl | rfl | rfl <;> rfl

/-! ## The partition layout -/

/-- The layout with its constants evaluated: the start is 1 MiB for every sector size. -/
theorem calculateGptLayout_eq (diskSize : UInt64) (sectorSize : UInt32) :
    calculateGptLayout diskSize sectorSize =
      let sector := (supportedOr512 sectorSize).toUInt64
      if diskSize ≤ 1064960 + sector + sector then {}
      else
        let length := (diskSize - 1048576 - (16384 + sector)) / 1048576 * 1048576
        if length = 0 then {} else ⟨1048576, length⟩ := by
  unfold calculateGptLayout gptEntryArraySectors
  rcases supportedOr512_cases sectorSize with h | h | h | h <;> rw [h] <;> rfl

theorem toNat_startLimit (sectorSize : UInt32) :
    (1064960 + (supportedOr512 sectorSize).toUInt64 + (supportedOr512 sectorSize).toUInt64).toNat =
      1064960 + 2 * (supportedOr512 sectorSize).toNat := by
  rcases supportedOr512_cases sectorSize with h | h | h | h <;> rw [h] <;> rfl

theorem toNat_backupGpt (sectorSize : UInt32) :
    (16384 + (supportedOr512 sectorSize).toUInt64).toNat =
      16384 + (supportedOr512 sectorSize).toNat := by
  rcases supportedOr512_cases sectorSize with h | h | h | h <;> rw [h] <;> rfl

/-- A disk with no room between the reserved areas gets no partition. -/
theorem calculateGptLayout_of_small {diskSize : UInt64} {sectorSize : UInt32}
    (h : diskSize.toNat ≤ 1064960 + 2 * (supportedOr512 sectorSize).toNat) :
    calculateGptLayout diskSize sectorSize = {} := by
  have hle : diskSize ≤ 1064960 + (supportedOr512 sectorSize).toUInt64 +
      (supportedOr512 sectorSize).toUInt64 := by
    rw [UInt64.le_iff_toNat_le, toNat_startLimit]
    exact h
  rw [calculateGptLayout_eq]
  simp only [if_pos hle]

/-- Otherwise it gets the whole mebibytes between them, if there are any. -/
theorem calculateGptLayout_of_large {diskSize : UInt64} {sectorSize : UInt32}
    (h : 1064960 + 2 * (supportedOr512 sectorSize).toNat < diskSize.toNat) :
    (calculateGptLayout diskSize sectorSize).length.toNat =
      (diskSize.toNat - 1064960 - (supportedOr512 sectorSize).toNat) / 1048576 * 1048576 := by
  have hd := diskSize.toNat_lt
  have hgt : ¬ diskSize ≤ 1064960 + (supportedOr512 sectorSize).toUInt64 +
      (supportedOr512 sectorSize).toUInt64 := by
    rw [UInt64.le_iff_toNat_le, toNat_startLimit]
    omega
  have hone : (1048576 : UInt64).toNat = 1048576 := rfl
  have hstart : (diskSize - 1048576).toNat = diskSize.toNat - 1048576 :=
    UInt64.toNat_sub_of_le _ _ (by rw [UInt64.le_iff_toNat_le, hone]; omega)
  have hraw : (diskSize - 1048576 - (16384 + (supportedOr512 sectorSize).toUInt64)).toNat =
      diskSize.toNat - 1064960 - (supportedOr512 sectorSize).toNat := by
    rw [UInt64.toNat_sub_of_le, hstart, toNat_backupGpt]
    · omega
    · rw [UInt64.le_iff_toNat_le, hstart, toNat_backupGpt]
      omega
  have hlen : ((diskSize - 1048576 - (16384 + (supportedOr512 sectorSize).toUInt64)) / 1048576 *
      1048576).toNat =
      (diskSize.toNat - 1064960 - (supportedOr512 sectorSize).toNat) / 1048576 * 1048576 := by
    rw [UInt64.toNat_mul, UInt64.toNat_div, hraw, hone]
    exact Nat.mod_eq_of_lt (by omega)
  rw [calculateGptLayout_eq]
  simp only [if_neg hgt]
  split
  · next hzero =>
    rw [hzero] at hlen
    exact hlen
  · exact hlen

/-- What a layout with a partition looks like. -/
structure LayoutFacts (diskSize : UInt64) (sectorSize : UInt32) : Prop where
  start : (calculateGptLayout diskSize sectorSize).startOffset.toNat = 1048576
  length : (calculateGptLayout diskSize sectorSize).length.toNat =
    (diskSize.toNat - 1064960 - (supportedOr512 sectorSize).toNat) / 1048576 * 1048576
  oneMiB_le : 1048576 ≤ (calculateGptLayout diskSize sectorSize).length.toNat
  fits : 1048576 + (calculateGptLayout diskSize sectorSize).length.toNat + 16384 +
    (supportedOr512 sectorSize).toNat ≤ diskSize.toNat

/-- A layout that is not empty starts at the first mebibyte, is a whole number of them, and leaves
room for the backup table. -/
theorem calculateGptLayout_facts {diskSize : UInt64} {sectorSize : UInt32}
    (h : (calculateGptLayout diskSize sectorSize).length ≠ 0) :
    LayoutFacts diskSize sectorSize := by
  by_cases hsize : diskSize.toNat ≤ 1064960 + 2 * (supportedOr512 sectorSize).toNat
  · rw [calculateGptLayout_of_small hsize] at h
    exact absurd rfl h
  have hlarge := calculateGptLayout_of_large (Nat.lt_of_not_le hsize)
  have hpos : (calculateGptLayout diskSize sectorSize).length.toNat ≠ 0 := by
    intro hzero
    exact h (UInt64.toNat_inj.mp hzero)
  have hstart : (calculateGptLayout diskSize sectorSize).startOffset = 1048576 := by
    rw [calculateGptLayout_eq] at h ⊢
    simp only at h ⊢
    split at h
    · exact absurd rfl h
    · next hgt =>
      rw [if_neg hgt]
      split at h
      · exact absurd rfl h
      · next hlen => rw [if_neg hlen]
  exact
    { start := by rw [hstart]; rfl
      length := hlarge
      oneMiB_le := by omega
      fits := by omega }

/-! ## GPT geometry -/

/-- Sectors of a request, and how many the disk has. -/
def PartitionTableRequest.sectorBytes (request : PartitionTableRequest) : Nat :=
  request.sectorSize.toNat

def PartitionTableRequest.sectors (request : PartitionTableRequest) : Nat :=
  request.diskSize.toNat / request.sectorBytes

/-- Sectors of one entry array. -/
def PartitionTableRequest.arraySectors (request : PartitionTableRequest) : Nat :=
  16384 / request.sectorBytes

/-- The numbers behind a supported sector size. -/
structure SectorFacts (request : PartitionTableRequest) : Prop where
  pos : 0 < request.sectorBytes
  le : request.sectorBytes ≤ 4096
  header : 512 ≤ request.sectorBytes
  array : request.arraySectors * request.sectorBytes = 16384
  array_pos : 4 ≤ request.arraySectors
  array_le : request.arraySectors ≤ 32

/-- What the supported sizes of a sector have in common. -/
theorem sectorFacts {request : PartitionTableRequest}
    (h : isSupportedSectorSize request.sectorSize = true) : SectorFacts request := by
  obtain hs | hs | hs | hs := isSupportedSectorSize_cases h <;>
    constructor <;>
    simp [PartitionTableRequest.arraySectors, PartitionTableRequest.sectorBytes, hs]

theorem sectorCount_toNat {request : PartitionTableRequest}
    (h : isSupportedSectorSize request.sectorSize = true) :
    (sectorCount request).toNat = request.sectors := by
  rw [sectorCount, effectiveSectorSize_of_supported h, UInt64.toNat_div, UInt32.toNat_toUInt64]
  rfl

theorem gptEntryArraySectors_toNat {request : PartitionTableRequest}
    (h : isSupportedSectorSize request.sectorSize = true) :
    (gptEntryArraySectors request.sectorSize).toUInt64.toNat = request.arraySectors := by
  obtain hs | hs | hs | hs := isSupportedSectorSize_cases h <;>
    simp only [PartitionTableRequest.arraySectors, PartitionTableRequest.sectorBytes, hs] <;> rfl

/-- Block numbers of a GPT pair: header, array and usable range at both ends. -/
structure GeometryFacts (request : PartitionTableRequest) : Prop where
  sectors : 2 * request.arraySectors + 3 ≤ request.sectors
  lastLba : (gptGeometry request).lastLba.toNat = request.sectors - 1
  primaryEntryLba : (gptGeometry request).primaryEntryLba = 2
  backupEntryLba :
    (gptGeometry request).backupEntryLba.toNat = request.sectors - 1 - request.arraySectors
  firstUsableLba : (gptGeometry request).firstUsableLba.toNat = 2 + request.arraySectors
  lastUsableLba :
    (gptGeometry request).lastUsableLba.toNat = request.sectors - 2 - request.arraySectors

/-- What has to fit on the disk, without wrapping. -/
theorem toNat_neededSectors {request : PartitionTableRequest}
    (h : isSupportedSectorSize request.sectorSize = true) :
    ((gptEntryArraySectors request.sectorSize).toUInt64 * 2 + 3).toNat =
      2 * request.arraySectors + 3 := by
  have hle := (sectorFacts h).array_le
  rw [UInt64.toNat_add, UInt64.toNat_mul, gptEntryArraySectors_toNat h]
  simp only [UInt64.reduceToNat]
  omega

/-- The geometry fits exactly a disk with room for both copies of the table and for one sector
between them. -/
theorem gptGeometry_fits_iff {request : PartitionTableRequest}
    (h : isSupportedSectorSize request.sectorSize = true) :
    (gptGeometry request).fits = true ↔ 2 * request.arraySectors + 3 ≤ request.sectors := by
  have hlt : sectorCount request < (gptEntryArraySectors request.sectorSize).toUInt64 * 2 + 3 ↔
      request.sectors < 2 * request.arraySectors + 3 := by
    rw [UInt64.lt_iff_toNat_lt, sectorCount_toNat h, toNat_neededSectors h]
  unfold gptGeometry
  simp only [hlt]
  split
  · next hsmall => simpa using hsmall
  · next hlarge => simpa using hlarge

/-- Where the geometry fits, the counters of the source compute it without a wrap. -/
theorem gptGeometry_facts {request : PartitionTableRequest}
    (h : isSupportedSectorSize request.sectorSize = true)
    (hfits : (gptGeometry request).fits = true) : GeometryFacts request := by
  have hsectors := (gptGeometry_fits_iff h).mp hfits
  have hle := (sectorFacts h).array_le
  have hcount := sectorCount_toNat h
  have harray := gptEntryArraySectors_toNat h
  have hnot : ¬ sectorCount request < (gptEntryArraySectors request.sectorSize).toUInt64 * 2 + 3 := by
    rw [UInt64.lt_iff_toNat_lt, hcount, toNat_neededSectors h]
    omega
  have hone : (1 : UInt64).toNat = 1 := rfl
  have hlast : (sectorCount request - 1).toNat = request.sectors - 1 := by
    rw [UInt64.toNat_sub_of_le, hcount, hone]
    rw [UInt64.le_iff_toNat_le, hcount, hone]
    omega
  have hbackup : (sectorCount request - 1 -
      (gptEntryArraySectors request.sectorSize).toUInt64).toNat =
      request.sectors - 1 - request.arraySectors := by
    rw [UInt64.toNat_sub_of_le, hlast, harray]
    rw [UInt64.le_iff_toNat_le, hlast, harray]
    omega
  have hfirst : (2 + (gptEntryArraySectors request.sectorSize).toUInt64).toNat =
      2 + request.arraySectors := by
    rw [UInt64.toNat_add, harray]
    simp only [UInt64.reduceToNat]
    omega
  have hlastUsable : (sectorCount request - 1 -
      (gptEntryArraySectors request.sectorSize).toUInt64 - 1).toNat =
      request.sectors - 2 - request.arraySectors := by
    rw [UInt64.toNat_sub_of_le, hbackup, hone]
    · omega
    · rw [UInt64.le_iff_toNat_le, hbackup, hone]
      omega
  have hgeometry : gptGeometry request =
      { fits := true
        arraySectors := gptEntryArraySectors request.sectorSize
        lastLba := sectorCount request - 1
        backupEntryLba :=
          sectorCount request - 1 - (gptEntryArraySectors request.sectorSize).toUInt64
        firstUsableLba := 2 + (gptEntryArraySectors request.sectorSize).toUInt64
        lastUsableLba :=
          sectorCount request - 1 - (gptEntryArraySectors request.sectorSize).toUInt64 - 1 } := by
    unfold gptGeometry
    exact if_neg hnot
  rw [hgeometry] at hfits
  exact
    { sectors := hsectors
      lastLba := by rw [hgeometry]; exact hlast
      primaryEntryLba := by rw [hgeometry]
      backupEntryLba := by rw [hgeometry]; exact hbackup
      firstUsableLba := by rw [hgeometry]; exact hfirst
      lastUsableLba := by rw [hgeometry]; exact hlastUsable }

/-! ## The write gate -/

theorem arg_ne_nil_of_space {s : QString} (h : (32 : QChar) ∈ s) (args : List QString) :
    s.arg args ≠ [] :=
  List.ne_nil_of_mem (QString.mem_arg (by decide) h args)

/-- When the English layout error is empty. -/
structure LayoutAccepted (style : PartitionStyle) (layout : GptLayout) (sectorSize : UInt32) :
    Prop where
  supported : isSupportedSectorSize sectorSize = true
  length : layout.length ≠ 0
  chosen : style = .mbr ∨ style = .gpt
  addressable : style = .mbr →
    (layout.startOffset + layout.length) / sectorSize.toUInt64 ≤ 0xFFFFFFFF

/-- There is no error exactly for an accepted layout. -/
theorem partitionLayoutError_eq_nil_iff {style : PartitionStyle} {layout : GptLayout}
    {sectorSize : UInt32} :
    partitionLayoutError style layout sectorSize .english = [] ↔
      LayoutAccepted style layout sectorSize := by
  constructor
  · intro h
    unfold partitionLayoutError at h
    split at h
    · exact absurd h (arg_ne_nil_of_space (by decide) _)
    next hsupported =>
    split at h
    · exact absurd h (by decide)
    next hlength =>
    split at h
    · exact absurd h (by decide)
    next hstyle =>
    split at h
    · exact absurd h (by decide)
    next haddress =>
    exact
      { supported := by simpa using hsupported
        length := hlength
        chosen := by
          by_cases hmbr : style = .mbr
          · exact .inl hmbr
          · exact .inr (by simpa [hmbr] using hstyle)
        addressable := fun hmbr => UInt64.not_lt.mp fun hgt => haddress ⟨hmbr, hgt⟩ }
  · intro h
    have hstyle : ¬ (style ≠ .mbr ∧ style ≠ .gpt) := by
      rcases h.chosen with hmbr | hgpt
      · simp [hmbr]
      · simp [hgpt]
    have haddress : ¬ (style = .mbr ∧
        (layout.startOffset + layout.length) / sectorSize.toUInt64 > 0xFFFFFFFF) := by
      rintro ⟨hmbr, hgt⟩
      exact UInt64.not_le.mpr hgt (h.addressable hmbr)
    unfold partitionLayoutError
    rw [if_neg (by simp [h.supported]), if_neg h.length, if_neg hstyle, if_neg haddress]

/-- The check succeeds exactly where the layout that is calculated for the disk is accepted. -/
theorem canCreatePartitionLayout_ok_iff {style : PartitionStyle} {disk : DiskInfo} :
    canCreatePartitionLayout style disk .english = .ok () ↔
      LayoutAccepted style (calculateGptLayout disk.size disk.sectorSize) disk.sectorSize := by
  rw [← partitionLayoutError_eq_nil_iff]
  simp only [canCreatePartitionLayout]
  split
  · next h => simpa using h
  · next h => simpa using h

/-- First block of the partition and the block after its last. -/
abbrev PartitionTableRequest.firstLba (request : PartitionTableRequest) : UInt64 :=
  request.layout.startOffset / request.sectorSize.toUInt64

abbrev PartitionTableRequest.endLba (request : PartitionTableRequest) : UInt64 :=
  (request.layout.startOffset + request.layout.length) / request.sectorSize.toUInt64

/-- When the English verdict of the write gate is to accept. -/
structure WritableRequest (request : PartitionTableRequest) : Prop where
  layout : LayoutAccepted request.style request.layout request.sectorSize
  aligned : request.layout.startOffset % request.sectorSize.toUInt64 = 0 ∧
    request.layout.length % request.sectorSize.toUInt64 = 0
  within : sectorCount request ≠ 0 ∧ request.endLba ≤ sectorCount request
  fits : request.style = .gpt → (gptGeometry request).fits = true
  identifiers : request.style = .gpt →
    request.diskGuid.size = 16 ∧ request.partitionGuid.size = 16
  usable : request.style = .gpt →
    (gptGeometry request).firstUsableLba ≤ request.firstLba ∧
      request.endLba - 1 ≤ (gptGeometry request).lastUsableLba
  signature : request.style ≠ .gpt → 4 ≤ request.diskGuid.size

/-- The gate in front of the write opens exactly for a writable request. -/
theorem isWritablePartitionRequest_ok_iff {request : PartitionTableRequest} :
    isWritablePartitionRequest request .english = .ok () ↔ WritableRequest request := by
  constructor
  · intro h
    simp only [isWritablePartitionRequest] at h
    split at h
    · cases h
    next hlayout =>
    split at h
    · cases h
    next haligned =>
    split at h
    · cases h
    next hwithin =>
    have hlayout := partitionLayoutError_eq_nil_iff.mp (by simpa using hlayout)
    have haligned := not_or.mp haligned
    have hwithin := not_or.mp hwithin
    split at h
    · next hgpt =>
      split at h
      · cases h
      next hfits =>
      split at h
      · cases h
      next hguids =>
      split at h
      · cases h
      next husable =>
      exact
        { layout := hlayout
          aligned := ⟨not_not.mp haligned.1, not_not.mp haligned.2⟩
          within := ⟨hwithin.1, UInt64.not_lt.mp hwithin.2⟩
          fits := fun _ => by simpa using hfits
          identifiers := fun _ => by
            have hguids := not_or.mp hguids
            exact ⟨not_not.mp hguids.1, not_not.mp hguids.2⟩
          usable := fun _ => by
            have husable := not_or.mp husable
            exact ⟨UInt64.not_lt.mp husable.1, UInt64.not_lt.mp husable.2⟩
          signature := fun hne => absurd hgpt hne }
    · next hmbr =>
      split at h
      · cases h
      next hsignature =>
      exact
        { layout := hlayout
          aligned := ⟨not_not.mp haligned.1, not_not.mp haligned.2⟩
          within := ⟨hwithin.1, UInt64.not_lt.mp hwithin.2⟩
          fits := fun hgpt => absurd hgpt hmbr
          identifiers := fun hgpt => absurd hgpt hmbr
          usable := fun hgpt => absurd hgpt hmbr
          signature := fun _ => Nat.le_of_not_lt hsignature }
  · intro h
    have hlayout := partitionLayoutError_eq_nil_iff.mpr h.layout
    have haligned := not_or.mpr ⟨not_not.mpr h.aligned.1, not_not.mpr h.aligned.2⟩
    have hwithin := not_or.mpr ⟨h.within.1, UInt64.not_lt.mpr h.within.2⟩
    simp only [isWritablePartitionRequest]
    rw [hlayout, if_neg (by simp), if_neg haligned, if_neg hwithin]
    split
    · next hgpt =>
      have hids := h.identifiers hgpt
      have husable := h.usable hgpt
      rw [if_neg (by simp [h.fits hgpt]), if_neg (by simp [hids]),
        if_neg (not_or.mpr ⟨UInt64.not_lt.mpr husable.1, UInt64.not_lt.mpr husable.2⟩)]
    · next hmbr => rw [if_neg (Nat.not_lt.mpr (h.signature hmbr))]

end UsbRestore
