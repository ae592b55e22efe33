-- SUMMARY: What a disk holds once both its ends are cleared and a partition table is written.
import UsbRestore.Core.GptValidity
import UsbRestore.Core.MbrValidity
import UsbRestore.Core.ZeroRange
import UsbRestore.Linux.Sysfs

/-!
# A prepared disk

The cleared ends, the table and the partition overlap: the table lies inside the ends, and the partition
starts inside the first of them. A reader that knows nothing of the program finds the new table and no
trace of an old one.
-/

namespace UsbRestore

open Bytes

/-! ## Ranges -/

/-- The two ranges that `performLinuxRestore` clears. -/
abbrev PartitionTableRequest.cleared (request : PartitionTableRequest) : SignatureClearRange :=
  signatureClearRange request.diskSize request.sectorSize

def clearEnds (image : Bytes) (clear : SignatureClearRange) : Bytes :=
  (image.clear 0 clear.bytes.toNat).clear clear.tailOffset.toNat clear.bytes.toNat

/-- The writes of `performLinuxRestore` for either style. -/
def writeTable (image : Bytes) (request : PartitionTableRequest) : Bytes :=
  if request.style = .gpt then writeGptPair image request else image.write 0 (buildMbr request)

def InEnds (clear : SignatureClearRange) (i : Nat) : Prop :=
  i < clear.bytes.toNat ∨
    clear.tailOffset.toNat ≤ i ∧ i < clear.tailOffset.toNat + clear.bytes.toNat

def InTable (request : PartitionTableRequest) (i : Nat) : Prop :=
  if request.style = .gpt then
    i < (buildGptPrimary request).size ∨
      (gptBackupOffset request).toNat ≤ i ∧
        i < (gptBackupOffset request).toNat + (buildGptBackup request).size
  else i < (buildMbr request).size

theorem size_writeTable (image : Bytes) (request : PartitionTableRequest) :
    (writeTable image request).size = image.size := by
  unfold writeTable
  split <;> rfl

/-- In the ends, a cleared image holds zeros. -/
theorem byteAt_clearEnds_of_mem (image : Bytes) {clear : SignatureClearRange} {i : Nat}
    (h : InEnds clear i) : (clearEnds image clear).byteAt i = 0 := by
  unfold clearEnds
  rw [byteAt_clear, byteAt_clear]
  rcases h with hhead | htail
  · rw [if_pos (c := 0 ≤ i ∧ _) ⟨Nat.zero_le i, by omega⟩, ite_self]
  · rw [if_pos htail]

/-- Between the ends, clearing changes nothing. -/
theorem byteAt_clearEnds_of_not_mem (image : Bytes) {clear : SignatureClearRange} {i : Nat}
    (h : ¬InEnds clear i) : (clearEnds image clear).byteAt i = image.byteAt i := by
  obtain ⟨hhead, htail⟩ := not_or.mp h
  unfold clearEnds
  rw [byteAt_clear, if_neg htail, byteAt_clear, if_neg]
  omega

/-- Outside its own blocks, the table changes nothing. -/
theorem byteAt_writeTable_of_not_mem (image : Bytes) {request : PartitionTableRequest} {i : Nat}
    (h : ¬InTable request i) : (writeTable image request).byteAt i = image.byteAt i := by
  unfold InTable at h
  unfold writeTable
  split
  · next hgpt =>
    rw [if_pos hgpt] at h
    obtain ⟨hprimary, hbackup⟩ := not_or.mp h
    rw [writeGptPair, byteAt_write_of_not_mem _ (by omega), byteAt_write_of_not_mem _ (by omega)]
  · next hmbr =>
    rw [if_neg hmbr] at h
    exact byteAt_write_of_not_mem _ (by omega)

/-- What is written does not depend on what it replaces. -/
theorem byteAt_writeTable_of_mem (image image' : Bytes) {request : PartitionTableRequest} {i : Nat}
    (h : InTable request i) :
    (writeTable image request).byteAt i = (writeTable image' request).byteAt i := by
  unfold InTable at h
  unfold writeTable
  split
  · next hgpt =>
    rw [if_pos hgpt] at h
    simp only [writeGptPair, byteAt_write]
    by_cases hbackup : (gptBackupOffset request).toNat ≤ i ∧
        i < (gptBackupOffset request).toNat + (buildGptBackup request).size
    · rw [if_pos hbackup, if_pos hbackup]
    · have hprimary : 0 ≤ i ∧ i < 0 + (buildGptPrimary request).size := by omega
      rw [if_neg hbackup, if_neg hbackup, if_pos hprimary, if_pos hprimary]
  · next hmbr =>
    rw [if_neg hmbr] at h
    have hin : 0 ≤ i ∧ i < 0 + (buildMbr request).size := by omega
    rw [byteAt_write, byteAt_write, if_pos hin, if_pos hin]

/-! ## What a prepared disk holds -/

def InPartition (request : PartitionTableRequest) (i : Nat) : Prop :=
  request.layout.startOffset.toNat ≤ i ∧
    i < request.layout.startOffset.toNat + request.layout.length.toNat

/-- The disk that held `before` holds `after`, prepared for the request. Of the partition itself
nothing is said. -/
structure Prepared (request : PartitionTableRequest) (before after : Bytes) : Prop where
  size : after.size = before.size
  /-- The cleared ranges are the two ends of the whole sectors of the disk, and lie apart. -/
  apart : request.cleared.bytes.toNat ≤ request.cleared.tailOffset.toNat
  ends : request.cleared.tailOffset.toNat + request.cleared.bytes.toNat =
    request.sectors * request.sectorBytes
  table : ∀ i, InTable request i → InEnds request.cleared i ∧ ¬InPartition request i
  outside : ∀ i, ¬InEnds request.cleared i → ¬InPartition request i →
    after.byteAt i = before.byteAt i
  cleared : ∀ i, InEnds request.cleared i → ¬InTable request i → ¬InPartition request i →
    after.byteAt i = 0
  /-- A header of a GPT in a block of the ends is one of the two that were written. -/
  headers : ∀ lba, InEnds request.cleared (lba * request.sectorBytes) →
    ¬InPartition request (lba * request.sectorBytes) →
    after.Agree (lba * request.sectorBytes) GptReader.efiPart 0 8 →
      request.style = .gpt ∧ (lba = 1 ∨ lba = GptReader.lastLba after request.sectorBytes)
  detected : detectPartitionStyle after request.sectorSize = request.style
  gpt : request.style = .gpt → GptReader.Accepts after request.sectorBytes ∧
    ∀ lba ∈ [1, GptReader.lastLba after request.sectorBytes],
      GptReader.SoleEntry after
        (GptReader.entryLba after request.sectorBytes lba * request.sectorBytes)
        (gptPartitionTypeGuid request.fileSystem) request.partitionGuid
        (request.layout.startOffset.toNat / request.sectorBytes)
        ((request.layout.startOffset.toNat + request.layout.length.toNat) / request.sectorBytes - 1)
        (request.partitionName.take 36)
  mbr : request.style = .mbr → after.Agree 0 (buildMbr request) 0 request.sectorBytes ∧
    MbrContents (buildMbr request) request

/-- The partition before anything is written to it: zeros as far as it lies in the ends. -/
def Fresh (request : PartitionTableRequest) (before after : Bytes) : Prop :=
  ∀ i, InPartition request i →
    (InEnds request.cleared i → after.byteAt i = 0) ∧
      (¬InEnds request.cleared i → after.byteAt i = before.byteAt i)

/-- What the disk holds in each of its parts but the partition. -/
structure Layered (request : PartitionTableRequest) (before after : Bytes) : Prop where
  size : after.size = before.size
  outside : ∀ i, ¬InEnds request.cleared i → ¬InPartition request i →
    after.byteAt i = before.byteAt i
  cleared : ∀ i, InEnds request.cleared i → ¬InTable request i → ¬InPartition request i →
    after.byteAt i = 0
  written : ∀ i, InTable request i → after.byteAt i = (writeTable before request).byteAt i

section

variable {request : PartitionTableRequest} {before after : Bytes}

/-! ## The ends -/

/-- A disk large enough to be restored has ends with room for a table. -/
structure EndsFit (request : PartitionTableRequest) : Prop where
  room : 32768 ≤ request.cleared.bytes.toNat
  apart : request.cleared.bytes.toNat ≤ request.cleared.tailOffset.toNat
  ends : request.cleared.tailOffset.toNat + request.cleared.bytes.toNat =
    request.sectors * request.sectorBytes

/-- Both ends fit on every disk that is large enough to be restored. -/
theorem endsFit (hsupported : isSupportedSectorSize request.sectorSize = true)
    (hminimum : MinimumRestoreTargetBytes ≤ request.diskSize) : EndsFit request := by
  have hsector := sectorFacts hsupported
  have hpos := hsector.pos
  have hle := hsector.le
  have hminimum : 8388608 ≤ request.diskSize.toNat := UInt64.le_iff_toNat_le.mp hminimum
  have hquarter : (request.diskSize / 4).toNat = request.diskSize.toNat / 4 := UInt64.toNat_div _ _
  obtain ⟨limit, hlow, hhigh, hbytes⟩ : ∃ limit : UInt64, 2097152 ≤ limit.toNat ∧
      limit.toNat ≤ request.diskSize.toNat ∧ request.cleared.bytes =
        limit / request.sectorSize.toUInt64 * request.sectorSize.toUInt64 := by
    refine ⟨if request.diskSize / 4 < SignatureClearBytes then request.diskSize / 4
      else SignatureClearBytes, ?_, ?_, ?_⟩
    · split
      · omega
      · decide
    · split
      · omega
      · next hless =>
        have := UInt64.le_iff_toNat_le.mp (UInt64.not_lt.mp hless)
        omega
    · rw [PartitionTableRequest.cleared, signatureClearRange, supportedOr512_of_supported hsupported]
  have hbytes' : request.cleared.bytes.toNat =
      limit.toNat / request.sectorBytes * request.sectorBytes := by
    rw [hbytes, toNat_roundDown]
    rfl
  have hroom : 32768 ≤ request.cleared.bytes.toNat := by
    have hwhole := Nat.div_add_mod limit.toNat request.sectorBytes
    have hrest := Nat.mod_lt limit.toNat hpos
    rw [Nat.mul_comm] at hwhole
    omega
  have hne : request.cleared.bytes ≠ 0 := by
    intro hzero
    rw [hzero] at hroom
    cases hroom
  have hfits : ClearRangeFits request.diskSize request.cleared := signatureClearRange_fits hne
  refine ⟨hroom, hfits.apart, ?_⟩
  have hinside := hfits.inside
  have htail : request.cleared.tailOffset = (request.diskSize - request.cleared.bytes) /
      request.sectorSize.toUInt64 * request.sectorSize.toUInt64 := by
    rw [PartitionTableRequest.cleared, signatureClearRange, supportedOr512_of_supported hsupported]
    exact if_pos (UInt64.pos_iff_ne_zero.mpr (by
      rwa [PartitionTableRequest.cleared, signatureClearRange,
        supportedOr512_of_supported hsupported] at hne))
  have htail' : request.cleared.tailOffset.toNat =
      request.sectors * request.sectorBytes - request.cleared.bytes.toNat := by
    rw [htail, toNat_roundDown, Checked.toNat_sub (by omega), hbytes', ← Nat.sub_mul,
      Nat.mul_comm _ request.sectorBytes]
    exact congrArg (· * request.sectorBytes) (Nat.sub_mul_div _ _ _)
  have hbelow : limit.toNat / request.sectorBytes ≤ request.sectors := Nat.div_le_div_right hhigh
  have hbelow' := Nat.mul_le_mul_right request.sectorBytes hbelow
  omega

/-! ## The table -/

section Accepted

variable (hlayout : request.layout = calculateGptLayout request.diskSize request.sectorSize)
  (hgate : WritableRequest request) (hends : EndsFit request)

include hgate

theorem style_of_ne_gpt (h : request.style ≠ .gpt) : request.style = .mbr :=
  hgate.layout.chosen.resolve_right h

include hlayout

/-- The gate makes sure of what the MBR is to hold. -/
theorem buildMbr_contents_of_gate (h : request.style ≠ .gpt) :
    MbrContents (buildMbr request) request := by
  have hsupported := hgate.layout.supported
  refine buildMbr_contents_of_blocks (blockFacts hlayout hsupported hgate.layout.length) hsupported
    ?_ (hgate.signature h)
  exact UInt64.le_iff_toNat_le.mp (hgate.layout.addressable (style_of_ne_gpt hgate h))

/-- The table ends before the partition and starts again after it. -/
theorem inTable_not_inPartition {i : Nat} (h : InTable request i) : ¬InPartition request i := by
  have hsupported := hgate.layout.supported
  have hblocks := blockFacts hlayout hsupported hgate.layout.length
  have hle := hblocks.sector.le
  have hstart := hblocks.start
  unfold InPartition
  unfold InTable at h
  split at h
  · next hgpt =>
    have hbefore := hblocks.beforeBackup
    have hend : request.endLba.toNat * request.sectorBytes ≤
        (request.sectors - 1 - request.arraySectors) * request.sectorBytes :=
      Nat.mul_le_mul_right _ (by omega)
    rw [hblocks.endLba] at hend
    rw [size_buildGptPrimary hsupported, gptBackupOffset_toNat hsupported (hgate.fits hgpt),
      show GptReader.arrayBytes = 16384 from rfl] at h
    omega
  · next hmbr =>
    rw [(buildMbr_contents_of_gate hlayout hgate hmbr).size] at h
    omega

include hends

/-- The table lies within the cleared ends. -/
theorem inTable_inEnds {i : Nat} (h : InTable request i) : InEnds request.cleared i := by
  have hsupported := hgate.layout.supported
  have hle := (sectorFacts hsupported).le
  have hroom := hends.room
  have hdisk := hends.ends
  unfold InTable at h
  split at h
  · next hgpt =>
    have hend := gptBackupOffset_end hsupported (hgate.fits hgpt)
    rw [size_buildGptPrimary hsupported, size_buildGptBackup hsupported] at h
    rw [show GptReader.arrayBytes = 16384 from rfl] at h hend
    rcases h with hprimary | ⟨hlow, hhigh⟩
    · exact .inl (by omega)
    · exact .inr ⟨by omega, by omega⟩
  · next hmbr =>
    rw [(buildMbr_contents_of_gate hlayout hgate hmbr).size] at h
    exact .inl (by omega)

/-! ## Headers -/

omit hlayout hends in
/-- No block of the entry array starts as a header does. -/
theorem buildEntryArray_no_header (hgpt : request.style = .gpt) {k : Nat}
    (hk : k * request.sectorBytes < GptReader.arrayBytes) :
    (buildEntryArray request).byteAt (k * request.sectorBytes) ≠ GptReader.efiPart.byteAt 0 := by
  have hentry := buildEntryArray_soleEntry request (hgate.identifiers hgpt).2
  have hsector := sectorFacts hgate.layout.supported
  cases k with
  | zero =>
    have hfirst := hentry.typeGuid 0 (by decide)
    rw [Nat.zero_mul]
    rw [Nat.zero_add] at hfirst
    rw [hfirst]
    unfold gptPartitionTypeGuid
    split
    · decide
    · decide
  | succ k =>
    have hlow : request.sectorBytes ≤ (k + 1) * request.sectorBytes := Nat.le_mul_of_pos_left _ k.succ_pos
    have hheader := hsector.header
    have hzero := hentry.others ((k + 1) * request.sectorBytes) (by omega) hk
    rw [Nat.zero_add] at hzero
    rw [hzero]
    decide

omit hlayout hends in
/-- No block of an entry array can be taken for a header. -/
theorem arrayBlock_no_header {image : Bytes} (hpair : PairOnDisk image request)
    (hgpt : request.style = .gpt) (primary : Bool) {k : Nat}
    (hk : k * request.sectorBytes < GptReader.arrayBytes) :
    image.byteAt (((arrayLba request primary).toNat + k) * request.sectorBytes) ≠
      GptReader.efiPart.byteAt 0 := by
  have harray := hpair.array primary (k * request.sectorBytes) hk
  rw [← Nat.add_mul, Nat.zero_add] at harray
  rw [harray]
  exact buildEntryArray_no_header hgate hgpt hk

omit hlayout hgate hends in
theorem byteAt_buildProtectiveMbr_zero : (buildProtectiveMbr request).byteAt 0 = 0 := by
  unfold buildProtectiveMbr
  dsimp only
  rw [byteAt_writeMbrSignature_frame _ (by omega), byteAt_writeLe32_frame _ (by omega),
    byteAt_writeLe32_frame _ (by omega), byteAt_write_of_not_mem _ (.inl (by omega)), byteAt_zeros]

omit hlayout hends in
/-- The pair stands where it was written. -/
theorem pairOnDisk_of_written (hgpt : request.style = .gpt)
    (hwritten : ∀ i, InTable request i → after.byteAt i = (writeTable before request).byteAt i) :
    PairOnDisk after request := by
  have hsupported := hgate.layout.supported
  have hfits := hgate.fits hgpt
  have hgeometry := gptGeometry_facts hsupported hfits
  have hpair := writeGptPair_pairOnDisk hsupported hfits before
  have hend := gptBackupOffset_end hsupported hfits
  have hoffset := gptBackupOffset_toNat hsupported hfits
  have hsame : ∀ offset count, (∀ k < count, InTable request (offset + k)) →
      after.Agree offset (writeGptPair before request) offset count := by
    intro offset count htable k hk
    rw [hwritten _ (htable k hk), writeTable, if_pos hgpt]
  have hfront : ∀ offset count, offset + count ≤ 2 * request.sectorBytes + GptReader.arrayBytes →
      ∀ k < count, InTable request (offset + k) := by
    intro offset count hle k hk
    rw [InTable, if_pos hgpt, size_buildGptPrimary hsupported]
    exact .inl (by omega)
  have hback : ∀ offset count, offset + count ≤ GptReader.arrayBytes + request.sectorBytes →
      ∀ k < count, InTable request ((gptBackupOffset request).toNat + offset + k) := by
    intro offset count hle k hk
    rw [InTable, if_pos hgpt, size_buildGptBackup hsupported]
    exact .inr ⟨by omega, by omega⟩
  have hlast : (gptGeometry request).lastLba.toNat * request.sectorBytes =
      (gptBackupOffset request).toNat + GptReader.arrayBytes := by
    rw [hgeometry.lastLba, Nat.sub_one_mul, ← hend]
    omega
  constructor
  case mbr => exact (hsame _ _ (hfront 0 _ (by omega))).trans hpair.mbr
  case header =>
    intro primary
    refine (hsame _ _ ?_).trans (hpair.header primary)
    cases primary with
    | true =>
      rw [show (headerLba request true).toNat = 1 from rfl, Nat.one_mul]
      exact hfront _ _ (by omega)
    | false =>
      change ∀ k < _, InTable request ((gptGeometry request).lastLba.toNat * _ + k)
      rw [hlast]
      exact hback _ _ (by omega)
  case array =>
    intro primary
    refine (hsame _ _ ?_).trans (hpair.array primary)
    cases primary with
    | true =>
      have htwo : (arrayLba request true).toNat = 2 := by
        simp only [arrayLba, if_true, hgeometry.primaryEntryLba, UInt64.reduceToNat]
      rw [htwo]
      exact hfront _ _ (by omega)
    | false =>
      have hbackup : (arrayLba request false).toNat * request.sectorBytes =
          (gptBackupOffset request).toNat + 0 := by
        rw [hoffset, Nat.add_zero, ← hgeometry.backupEntryLba]
        rfl
      rw [hbackup]
      exact hback _ _ (by omega)

omit hends in
/-- Where the bytes of the table are the written ones, the MBR is read back. -/
theorem mbrOnDisk_of_written (hmbr : request.style ≠ .gpt)
    (hwritten : ∀ i, InTable request i → after.byteAt i = (writeTable before request).byteAt i) :
    after.Agree 0 (buildMbr request) 0 request.sectorBytes := by
  have hsize := (buildMbr_contents_of_gate hlayout hgate hmbr).size
  intro k hk
  rw [Nat.zero_add, hwritten k, writeTable, if_neg hmbr]
  · rw [← hsize] at hk
    have hstored := byteAt_write_of_mem (o := 0) before hk
    rwa [Nat.zero_add] at hstored
  · rw [InTable, if_neg hmbr, hsize]
    exact hk

omit hends in
/-- A block of the table that starts as a header does. -/
theorem header_positions (hsize : after.size = request.diskSize.toNat)
    (hwritten : ∀ i, InTable request i → after.byteAt i = (writeTable before request).byteAt i)
    {lba : Nat} (htable : InTable request (lba * request.sectorBytes))
    (hbyte : after.byteAt (lba * request.sectorBytes) = GptReader.efiPart.byteAt 0) :
    request.style = .gpt ∧ (lba = 1 ∨ lba = GptReader.lastLba after request.sectorBytes) := by
  have hsupported := hgate.layout.supported
  have hsector := sectorFacts hsupported
  have hpos := hsector.pos
  by_cases hgpt : request.style = .gpt
  · have hfits := hgate.fits hgpt
    have hpair := pairOnDisk_of_written hgate hgpt hwritten
    have hgeometry := gptGeometry_facts hsupported hfits
    unfold InTable at htable
    rw [if_pos hgpt] at htable
    refine ⟨hgpt, ?_⟩
    rcases htable with hprimary | ⟨hlow, hhigh⟩
    · rw [size_buildGptPrimary hsupported] at hprimary
      match lba, hprimary, hbyte with
      | 0, _, hbyte =>
        have hmbr := hpair.mbr 0 hpos
        rw [Nat.zero_add] at hmbr
        rw [Nat.zero_mul, hmbr, byteAt_buildProtectiveMbr_zero] at hbyte
        exact absurd hbyte (by decide)
      | 1, _, _ => exact .inl rfl
      | k + 2, hprimary, hbyte =>
        have htwo : (arrayLba request true).toNat = 2 := by
          simp only [arrayLba, if_true, hgeometry.primaryEntryLba, UInt64.reduceToNat]
        have hk : k * request.sectorBytes < GptReader.arrayBytes := by
          rw [Nat.add_mul] at hprimary
          omega
        have hno := arrayBlock_no_header hgate hpair hgpt true hk
        rw [htwo, Nat.add_comm] at hno
        exact absurd hbyte hno
    · have hbackup : (arrayLba request false).toNat =
          request.sectors - 1 - request.arraySectors := hgeometry.backupEntryLba
      rw [size_buildGptBackup hsupported] at hhigh
      rw [gptBackupOffset_toNat hsupported hfits, ← hbackup] at hlow hhigh
      obtain ⟨k, rfl⟩ := Nat.exists_eq_add_of_le (Nat.le_of_mul_le_mul_right hlow hpos)
      have hroom := hgeometry.sectors
      by_cases hk : k * request.sectorBytes < GptReader.arrayBytes
      · exact absurd hbyte (arrayBlock_no_header hgate hpair hgpt false hk)
      · -- The block after the backup array is the last one.
        have harray : request.arraySectors * request.sectorBytes = GptReader.arrayBytes :=
          hsector.array
        have hat : k = request.arraySectors := by
          rw [Nat.add_mul] at hhigh
          have hlt : k * request.sectorBytes < (request.arraySectors + 1) * request.sectorBytes := by
            rw [Nat.succ_mul]
            omega
          have hle : request.arraySectors * request.sectorBytes ≤ k * request.sectorBytes := by omega
          have hlt' := Nat.lt_of_mul_lt_mul_right hlt
          have hle' := Nat.le_of_mul_le_mul_right hle hpos
          omega
        have hlast : GptReader.lastLba after request.sectorBytes = request.sectors - 1 := by
          rw [GptReader.lastLba, hsize]
          rfl
        exact .inr (by omega)
  · have hmbr := buildMbr_contents_of_gate hlayout hgate hgpt
    unfold InTable at htable
    rw [if_neg hgpt, hmbr.size] at htable
    obtain rfl : lba = 0 := by
      refine Nat.eq_zero_of_not_pos fun hlba => ?_
      have := Nat.le_mul_of_pos_left request.sectorBytes hlba
      omega
    have hfirst := mbrOnDisk_of_written hlayout hgate hgpt hwritten 0 hpos
    rw [Nat.zero_add] at hfirst
    rw [Nat.zero_mul, hfirst, hmbr.bootCode 0 (by omega)] at hbyte
    exact absurd hbyte (by decide)

/-! ## The style that is read back -/

omit hlayout hends in
/-- A table in place of the first sectors, and what stands where a header would. -/
theorem detectPartitionStyle_eq {image : Bytes} (hsector : request.sectorBytes + 8 ≤ image.size)
    (hmark : image.byteAt 510 = 0x55 ∧ image.byteAt 511 = 0xAA) :
    detectPartitionStyle image request.sectorSize =
      if (image.slice request.sectorBytes 8).toList = gptSignature.toList then .gpt else .mbr := by
  have hsupported := hgate.layout.supported
  have hheader := (sectorFacts hsupported).header
  have hread : min 8 (image.size - request.sectorBytes) = 8 := by omega
  have hfirst : ¬(image.left request.sectorBytes).size < 512 := by
    rw [size_left]
    omega
  unfold detectPartitionStyle
  rw [effectiveSectorSize_of_supported hsupported]
  change (if (image.left request.sectorBytes).size < 512 then _ else
    if (image.slice request.sectorBytes (min 8 (image.size - request.sectorBytes))).toList =
      gptSignature.toList then _ else _) = _
  rw [if_neg hfirst, hread]
  split
  · rfl
  · exact if_pos hmark

/-- The style that is detected afterwards is the requested one. -/
theorem Layered.detected (h : Layered request before after)
    (hsize : before.size = request.diskSize.toNat) :
    detectPartitionStyle after request.sectorSize = request.style := by
  have hsupported := hgate.layout.supported
  have hsector := sectorFacts hsupported
  have hheader := hsector.header
  have hle := hsector.le
  have hroom := hends.room
  have hapart := hends.apart
  have hdisk := hends.ends
  have hafter : after.size = request.diskSize.toNat := h.size.trans hsize
  have hsectors : request.sectors * request.sectorBytes ≤ request.diskSize.toNat :=
    Nat.div_mul_le_self _ _
  have hsecond : request.sectorBytes + 8 ≤ after.size := by omega
  by_cases hgpt : request.style = .gpt
  · have hfits := hgate.fits hgpt
    have hpair := pairOnDisk_of_written hgate hgpt h.written
    have hmbr := hpair.protectiveMbr hsupported hfits hafter
    have hfirst := (hpair.validHeader hsupported true).signature
    rw [show (headerLba request true).toNat = 1 from rfl, Nat.one_mul] at hfirst
    rw [detectPartitionStyle_eq hgate hsecond hmbr.signature, if_pos, hgpt]
    exact toList_slice_congr hfirst
  · have hcontents := buildMbr_contents_of_gate hlayout hgate hgpt
    have hstored := mbrOnDisk_of_written hlayout hgate hgpt h.written
    have hbyte : ∀ i < request.sectorBytes, after.byteAt i = (buildMbr request).byteAt i := by
      intro i hi
      have hagree := hstored i hi
      rwa [Nat.zero_add] at hagree
    have hblank : after.byteAt request.sectorBytes = 0 := by
      refine h.cleared _ (.inl (by omega)) ?_ ?_
      · rw [InTable, if_neg hgpt, hcontents.size]
        exact Nat.lt_irrefl _
      · have hstart := (blockFacts hlayout hsupported hgate.layout.length).start
        unfold InPartition
        omega
    rw [detectPartitionStyle_eq hgate hsecond, if_neg, style_of_ne_gpt hgate hgpt]
    · intro hsame
      have hhead := congrArg List.head? hsame
      have hletter : after.byteAt request.sectorBytes = gptSignature.byteAt 0 := by
        simpa [toList, gptSignature, List.range_succ_eq_map] using hhead
      rw [hblank] at hletter
      exact absurd hletter (by decide)
    · rw [hbyte _ (by omega), hbyte _ (by omega)]
      exact hcontents.mark

/-! ## The whole disk -/

/-- A table over cleared ends makes a prepared disk. -/
theorem Layered.prepared (h : Layered request before after)
    (hsize : before.size = request.diskSize.toNat) : Prepared request before after := by
  have hsupported := hgate.layout.supported
  have hafter : after.size = request.diskSize.toNat := h.size.trans hsize
  constructor
  case size => exact h.size
  case apart => exact hends.apart
  case ends => exact hends.ends
  case table =>
    exact fun i hi => ⟨inTable_inEnds hlayout hgate hends hi,
      inTable_not_inPartition hlayout hgate hi⟩
  case outside => exact h.outside
  case cleared => exact h.cleared
  case headers =>
    intro lba hi hno hagree
    have hfirst := hagree 0 (by decide)
    rw [Nat.add_zero] at hfirst
    by_cases htable : InTable request (lba * request.sectorBytes)
    · exact header_positions hlayout hgate hafter h.written htable hfirst
    · rw [h.cleared _ hi htable hno] at hfirst
      exact absurd hfirst (by decide)
  case detected => exact h.detected hlayout hgate hends hsize
  case gpt =>
    intro hgpt
    have hfits := hgate.fits hgpt
    have hblocks := blockFacts hlayout hsupported hgate.layout.length
    have hafterArray := hblocks.afterArray
    have hnonempty := hblocks.nonempty
    have hbefore := hblocks.beforeBackup
    have hpair := pairOnDisk_of_written hgate hgpt h.written
    obtain ⟨hentryFirst, hentryLast, -, -⟩ := entryLbas_toNat hsupported hblocks
    refine ⟨hpair.accepts hsupported hfits (by omega) hafter, ?_⟩
    refine forall_header (P := fun lba => GptReader.SoleEntry after
      (GptReader.entryLba after request.sectorBytes lba * request.sectorBytes) _ _ _ _ _)
      hsupported hfits hafter fun primary => ?_
    rw [hpair.entryLba hsupported primary, ← hentryFirst, ← hentryLast]
    exact (buildEntryArray_soleEntry request (hgate.identifiers hgpt).2).of_agree
      (hpair.array primary)
  case mbr =>
    intro hmbr
    have hne : request.style ≠ .gpt := by
      rw [hmbr]
      decide
    exact ⟨mbrOnDisk_of_written hlayout hgate hne h.written,
      buildMbr_contents_of_gate hlayout hgate hne⟩

/-- Clearing both ends and writing the table. -/
theorem layered_writeTable :
    Layered request before (writeTable (clearEnds before request.cleared) request) ∧
      Fresh request before (writeTable (clearEnds before request.cleared) request) := by
  constructor
  · constructor
    case size => exact size_writeTable _ _
    case outside =>
      intro i hi _
      rw [byteAt_writeTable_of_not_mem _ fun h => hi (inTable_inEnds hlayout hgate hends h),
        byteAt_clearEnds_of_not_mem _ hi]
    case cleared =>
      intro i hi hno _
      rw [byteAt_writeTable_of_not_mem _ hno, byteAt_clearEnds_of_mem _ hi]
    case written =>
      intro i hi
      exact byteAt_writeTable_of_mem _ _ hi
  · intro i hi
    rw [byteAt_writeTable_of_not_mem _ fun h => inTable_not_inPartition hlayout hgate h hi]
    exact ⟨byteAt_clearEnds_of_mem _, byteAt_clearEnds_of_not_mem _⟩

omit hends in
/-- What a formatter does to the partition. -/
theorem Layered.format (h : Layered request before after) {after' : Bytes}
    (hsize : after'.size = after.size)
    (hsame : ∀ i, ¬InPartition request i → after'.byteAt i = after.byteAt i) :
    Layered request before after' where
  size := hsize.trans h.size
  outside := fun i hi hno => (hsame i hno).trans (h.outside i hi hno)
  cleared := fun i hi htable hno => (hsame i hno).trans (h.cleared i hi htable hno)
  written := fun i hi =>
    (hsame i (inTable_not_inPartition hlayout hgate hi)).trans (h.written i hi)

end Accepted

end

end UsbRestore
