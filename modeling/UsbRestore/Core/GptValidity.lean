-- SUMMARY: Every accepted GPT request yields a disk that the independent reader accepts.
import UsbRestore.Core.GptWriter

/-!
# Validity of the GPT pair

From the pieces on the disk to the reader's verdict, for every disk size, supported
sector size, filesystem, pair of identifiers and partition name.
-/

namespace UsbRestore

open Bytes (Agree)

variable {request : PartitionTableRequest} {image : Bytes}

/-! ## The protective MBR -/

/-- The bytes of the first sector that the reader looks at. -/
structure ProtectiveContents (request : PartitionTableRequest) (mbr : QByteArray) : Prop where
  type : mbr.byteAt 450 = 0xEE
  first : mbr.readLe 454 4 = 1
  span : mbr.readLe 458 4 = (min (sectorCount request - 1) MbrMaxSectors).toUInt32.toNat
  others : ∀ i, 462 ≤ i → i < 510 → mbr.byteAt i = 0
  signature : mbr.byteAt 510 = 0x55 ∧ mbr.byteAt 511 = 0xAA

theorem byteAt_writeMbrSignature_frame (b : QByteArray) {i : Nat} (h : i < 510 ∨ 512 ≤ i) :
    (writeMbrSignature b).byteAt i = b.byteAt i := by
  rw [writeMbrSignature, Bytes.byteAt_set_ne _ _ (by omega), Bytes.byteAt_set_ne _ _ (by omega)]

theorem readLe_writeMbrSignature_frame (b : QByteArray) {i count : Nat} (h : i + count ≤ 510) :
    (writeMbrSignature b).readLe i count = b.readLe i count :=
  Bytes.readLe_congr fun _ _ => byteAt_writeMbrSignature_frame b (by omega)

theorem writeMbrSignature_signature (b : QByteArray) :
    (writeMbrSignature b).byteAt 510 = 0x55 ∧ (writeMbrSignature b).byteAt 511 = 0xAA := by
  rw [writeMbrSignature, Bytes.byteAt_set_self, Bytes.byteAt_set_ne _ _ (by omega),
    Bytes.byteAt_set_self]
  exact ⟨rfl, rfl⟩

/-- The protective table has one entry, of the protective type, over all that its counters can reach
of the disk. -/
theorem buildProtectiveMbr_contents (request : PartitionTableRequest) :
    ProtectiveContents request (buildProtectiveMbr request) := by
  unfold buildProtectiveMbr
  constructor
  case type =>
    rw [byteAt_writeMbrSignature_frame _ (by omega), byteAt_writeLe32_frame _ (by omega),
      byteAt_writeLe32_frame _ (by omega)]
    exact Bytes.byteAt_write_of_mem (o := 446) (i := 4) _ (by decide)
  case first =>
    rw [readLe_writeMbrSignature_frame _ (by omega), readLe_writeLe32_frame _ (by omega),
      readLe_writeLe32]
    rfl
  case span => rw [readLe_writeMbrSignature_frame _ (by omega), readLe_writeLe32]
  case others =>
    intro i hi hlt
    have hpast : 446 + (Bytes.ofList [0, 0, 2, 0, 238, 255, 255, 255]).size ≤ i :=
      Nat.le_trans (by decide) hi
    rw [byteAt_writeMbrSignature_frame _ (.inl hlt), byteAt_writeLe32_frame _ (by omega),
      byteAt_writeLe32_frame _ (by omega), Bytes.byteAt_write_of_not_mem _ (.inr hpast),
      Bytes.byteAt_zeros]
  case signature => exact writeMbrSignature_signature _

/-- The span is the number of sectors after the first, as far as 32 bits reach. -/
theorem toNat_protectiveSpan (hsupported : isSupportedSectorSize request.sectorSize = true)
    (hfits : (gptGeometry request).fits = true) :
    (min (sectorCount request - 1) MbrMaxSectors).toUInt32.toNat =
      min (request.sectors - 1) 0xFFFFFFFF := by
  have hsectors := (gptGeometry_facts hsupported hfits).sectors
  have hcount := sectorCount_toNat hsupported
  have hone : (1 : UInt64).toNat = 1 := rfl
  have hmax : MbrMaxSectors.toNat = 0xFFFFFFFF := rfl
  have hlast : (sectorCount request - 1).toNat = request.sectors - 1 := by
    rw [UInt64.toNat_sub_of_le, hcount, hone]
    rw [UInt64.le_iff_toNat_le, hcount, hone]
    omega
  have hmin : min (sectorCount request - 1) MbrMaxSectors =
      if sectorCount request - 1 ≤ MbrMaxSectors then sectorCount request - 1
      else MbrMaxSectors := rfl
  rw [hmin, UInt64.toNat_toUInt32]
  split
  · next hle =>
    have hnat := UInt64.le_iff_toNat_le.mp hle
    rw [hlast, hmax] at hnat
    rw [hlast, Nat.min_eq_left hnat]
    omega
  · next hgt =>
    have hnat := UInt64.lt_iff_toNat_lt.mp (UInt64.not_le.mp hgt)
    rw [hlast, hmax] at hnat
    rw [hmax, Nat.min_eq_right (Nat.le_of_lt hnat)]

/-! ## Fields of the headers on the disk -/

section OnDisk

variable (hdisk : PairOnDisk image request)
  (hsupported : isSupportedSectorSize request.sectorSize = true)
include hdisk hsupported

/-- Either header is found at its sector. -/
theorem PairOnDisk.header_bytes (primary : Bool) :
    Agree image ((headerLba request primary).toNat * request.sectorBytes)
      (buildHeader request (buildEntryArray request) primary) 0 92 :=
  (hdisk.header primary).mono (d := 0) (by have := (sectorFacts hsupported).header; omega)

/-- Either header has the signature, the sizes, its own address and the two checksums of a valid
one. -/
theorem PairOnDisk.validHeader (primary : Bool) :
    GptReader.ValidHeader image request.sectorBytes (headerLba request primary).toNat :=
  validHeader_of_agree hsupported (size_buildEntryArray request)
    (hdisk.header_bytes hsupported primary) (hdisk.array primary)

theorem PairOnDisk.alternateLba (primary : Bool) :
    GptReader.alternateLba image request.sectorBytes (headerLba request primary).toNat =
      (partnerLba request primary).toNat := by
  rw [GptReader.alternateLba, field_of_agree (hdisk.header_bytes hsupported primary) (by omega),
    (buildHeader_contents request _ primary).alternateLba]

/-- Either header names the sector of its own array. -/
theorem PairOnDisk.entryLba (primary : Bool) :
    GptReader.entryLba image request.sectorBytes (headerLba request primary).toNat =
      (arrayLba request primary).toNat := by
  rw [GptReader.entryLba, field_of_agree (hdisk.header_bytes hsupported primary) (by omega),
    (buildHeader_contents request _ primary).entryLba]

theorem PairOnDisk.firstUsable (primary : Bool) :
    GptReader.firstUsable image request.sectorBytes (headerLba request primary).toNat =
      (gptGeometry request).firstUsableLba.toNat := by
  rw [GptReader.firstUsable, field_of_agree (hdisk.header_bytes hsupported primary) (by omega),
    (buildHeader_contents request _ primary).firstUsable]

theorem PairOnDisk.lastUsable (primary : Bool) :
    GptReader.lastUsable image request.sectorBytes (headerLba request primary).toNat =
      (gptGeometry request).lastUsableLba.toNat := by
  rw [GptReader.lastUsable, field_of_agree (hdisk.header_bytes hsupported primary) (by omega),
    (buildHeader_contents request _ primary).lastUsable]

end OnDisk

/-! ## The verdict -/

section Verdict

variable (hdisk : PairOnDisk image request)
  (hsupported : isSupportedSectorSize request.sectorSize = true)
  (hfits : (gptGeometry request).fits = true)
  (hroom : 2 * request.arraySectors + 4 ≤ request.sectors)
  (hsize : image.size = request.diskSize.toNat)
include hdisk hsupported hfits hroom hsize

omit hdisk hroom in
/-- The reader's two header positions are the writers' two headers. -/
theorem headerLba_positions : (headerLba request true).toNat = 1 ∧
    (headerLba request false).toNat = GptReader.lastLba image request.sectorBytes := by
  constructor
  · rfl
  · change (gptGeometry request).lastLba.toNat = _
    rw [(gptGeometry_facts hsupported hfits).lastLba, GptReader.lastLba, hsize]
    rfl

omit hdisk hroom in
/-- The reader visits the headers at the first and at the last sector: what holds of both holds of
all it visits. -/
theorem forall_header {P : Nat → Prop} (h : ∀ primary, P (headerLba request primary).toNat) :
    ∀ lba ∈ [1, GptReader.lastLba image request.sectorBytes], P lba := by
  obtain ⟨hfirst, hlast⟩ := headerLba_positions hsupported hfits hsize
  intro lba hlba
  simp only [List.mem_cons, List.not_mem_nil, or_false] at hlba
  rcases hlba with rfl | rfl
  · exact hfirst ▸ h true
  · exact hlast ▸ h false

/-- The usable sectors of either header lie between the two copies of the table. -/
theorem PairOnDisk.validUsable (primary : Bool) :
    GptReader.ValidUsable image request.sectorBytes (headerLba request primary).toNat := by
  have hgeometry := gptGeometry_facts hsupported hfits
  have hfirst := hdisk.firstUsable hsupported primary
  have hlast := hdisk.lastUsable hsupported primary
  rw [hgeometry.firstUsableLba] at hfirst
  rw [hgeometry.lastUsableLba] at hlast
  have harray : GptReader.arrayBytes / request.sectorBytes = request.arraySectors := rfl
  constructor
  case nonempty => omega
  case headers =>
    refine forall_header (P := fun lba => GptReader.OutsideUsable image request.sectorBytes
      (headerLba request primary).toNat lba 1) hsupported hfits hsize ?_
    intro other
    rw [GptReader.OutsideUsable, hfirst, hlast]
    cases other with
    | true =>
      left
      change 1 + 1 ≤ _
      omega
    | false =>
      right
      change _ < (gptGeometry request).lastLba.toNat
      rw [hgeometry.lastLba]
      omega
  case arrays =>
    refine forall_header (P := fun lba => GptReader.OutsideUsable image request.sectorBytes
      (headerLba request primary).toNat (GptReader.entryLba image request.sectorBytes lba)
      (GptReader.arrayBytes / request.sectorBytes)) hsupported hfits hsize ?_
    intro other
    rw [GptReader.OutsideUsable, hfirst, hlast, hdisk.entryLba hsupported, harray]
    cases other with
    | true =>
      left
      have htwo : (arrayLba request true).toNat = 2 := by
        simp only [arrayLba, if_true, hgeometry.primaryEntryLba, UInt64.reduceToNat]
      omega
    | false =>
      right
      change _ < (gptGeometry request).backupEntryLba.toNat
      rw [hgeometry.backupEntryLba]
      omega

omit hroom in
/-- The first sector protects the whole disk. -/
theorem PairOnDisk.protectiveMbr : GptReader.ProtectiveMbr image request.sectorBytes := by
  have hheader := (sectorFacts hsupported).header
  have hcontents := buildProtectiveMbr_contents request
  have hbyte : ∀ i, i < 512 → image.byteAt i = (buildProtectiveMbr request).byteAt i := by
    intro i hi
    have := hdisk.mbr i (by omega)
    rwa [Nat.zero_add] at this
  have hread : ∀ i count, i + count ≤ 512 →
      image.readLe i count = (buildProtectiveMbr request).readLe i count := by
    intro i count hle
    exact Bytes.readLe_congr fun k hk => hbyte (i + k) (by omega)
  constructor
  case type => rw [hbyte _ (by omega), hcontents.type]
  case first => rw [hread _ _ (by omega), hcontents.first]
  case span =>
    rw [hread _ _ (by omega), hcontents.span, toNat_protectiveSpan hsupported hfits,
      GptReader.lastLba, hsize]
    rfl
  case others =>
    intro i hi hlt
    rw [hbyte _ (by omega), hcontents.others i hi hlt]
  case signature =>
    rw [hbyte _ (by omega), hbyte _ (by omega)]
    exact hcontents.signature

/-- The reader accepts an image with both copies on it: the protective table, both headers and both
arrays. -/
theorem PairOnDisk.accepts : GptReader.Accepts image request.sectorBytes := by
  obtain ⟨hfirst, hlast⟩ := headerLba_positions hsupported hfits hsize
  constructor
  case mbr => exact hdisk.protectiveMbr hsupported hfits hsize
  case primary => exact hfirst ▸ hdisk.validHeader hsupported true
  case backup => exact hlast ▸ hdisk.validHeader hsupported false
  case alternates =>
    have hprimary := hdisk.alternateLba hsupported true
    have hbackup := hdisk.alternateLba hsupported false
    rw [hfirst] at hprimary
    rw [hlast] at hbackup
    exact ⟨hprimary.trans hlast, hbackup.trans hfirst⟩
  case usable =>
    exact forall_header hsupported hfits hsize (hdisk.validUsable hsupported hfits hroom hsize)
  case arrays =>
    have hprimary := hdisk.entryLba hsupported true
    have hbackup := hdisk.entryLba hsupported false
    rw [hfirst] at hprimary
    rw [hlast] at hbackup
    rw [hprimary, hbackup]
    exact (hdisk.array true).trans (hdisk.array false).symm

end Verdict

/-! ## What the reader finds -/

/-- A GPT disk that holds the partition of a request and nothing else. -/
structure HoldsRequest (image : Bytes) (request : PartitionTableRequest) : Prop where
  accepted : GptReader.Accepts image request.sectorBytes
  diskGuid : ∀ lba ∈ [1, GptReader.lastLba image request.sectorBytes],
    Agree image (lba * request.sectorBytes + 56) request.diskGuid 0 16
  entry : ∀ lba ∈ [1, GptReader.lastLba image request.sectorBytes],
    GptReader.SoleEntry image
      (GptReader.entryLba image request.sectorBytes lba * request.sectorBytes)
      (gptPartitionTypeGuid request.fileSystem) request.partitionGuid
      (request.layout.startOffset.toNat / request.sectorBytes)
      ((request.layout.startOffset.toNat + request.layout.length.toNat) / request.sectorBytes - 1)
      (request.partitionName.take 36)
  inside : ∀ lba ∈ [1, GptReader.lastLba image request.sectorBytes],
    GptReader.firstUsable image request.sectorBytes lba ≤
        request.layout.startOffset.toNat / request.sectorBytes ∧
      (request.layout.startOffset.toNat + request.layout.length.toNat) / request.sectorBytes - 1 ≤
        GptReader.lastUsable image request.sectorBytes lba

/-- First and last block of the partition, as the entry names them. -/
theorem entryLbas_toNat (hsupported : isSupportedSectorSize request.sectorSize = true)
    (hblocks : BlockFacts request) :
    (entryFirstLba request).toNat = request.layout.startOffset.toNat / request.sectorBytes ∧
      (entryLastLba request).toNat =
        (request.layout.startOffset.toNat + request.layout.length.toNat) / request.sectorBytes - 1 ∧
      request.firstLba.toNat = request.layout.startOffset.toNat / request.sectorBytes ∧
      request.endLba.toNat =
        (request.layout.startOffset.toNat + request.layout.length.toNat) / request.sectorBytes := by
  have hpos := hblocks.sector.pos
  have hnonempty := hblocks.nonempty
  have hone : (1 : UInt64).toNat = 1 := rfl
  have hfirst : request.firstLba.toNat =
      request.layout.startOffset.toNat / request.sectorBytes := by
    rw [← hblocks.first, Nat.mul_div_cancel _ hpos]
  have hend : request.endLba.toNat =
      (request.layout.startOffset.toNat + request.layout.length.toNat) / request.sectorBytes := by
    rw [← hblocks.endLba, Nat.mul_div_cancel _ hpos]
  refine ⟨?_, ?_, hfirst, hend⟩
  · rw [entryFirstLba, effectiveSectorSize_of_supported hsupported, hfirst]
  · rw [entryLastLba, effectiveSectorSize_of_supported hsupported, ← hend, UInt64.toNat_sub_of_le,
      hone]
    rw [UInt64.le_iff_toNat_le, hone]
    exact Nat.lt_of_le_of_lt (Nat.zero_le _) hnonempty

/-- The pair written for an accepted request on a calculated layout, on any disk of the
request's size, is a valid GPT that holds exactly the partition asked for. -/
theorem writeGptPair_holdsRequest (hstyle : request.style = .gpt)
    (hlayout : request.layout = calculateGptLayout request.diskSize request.sectorSize)
    (hwritable : isWritablePartitionRequest request .english = .ok ())
    (hsize : image.size = request.diskSize.toNat) :
    HoldsRequest (writeGptPair image request) request := by
  have hgate := isWritablePartitionRequest_ok_iff.mp hwritable
  have hsupported := hgate.layout.supported
  have hfits := hgate.fits hstyle
  have hblocks := blockFacts hlayout hsupported hgate.layout.length
  have hgeometry := gptGeometry_facts hsupported hfits
  have hafter := hblocks.afterArray
  have hnonempty := hblocks.nonempty
  have hbefore := hblocks.beforeBackup
  have hdisk := writeGptPair_pairOnDisk hsupported hfits image
  have hroom : 2 * request.arraySectors + 4 ≤ request.sectors := by omega
  obtain ⟨hentryFirst, hentryLast, hfirst, hend⟩ := entryLbas_toNat hsupported hblocks
  constructor
  case accepted => exact hdisk.accepts hsupported hfits hroom hsize
  case diskGuid =>
    refine forall_header (P := fun lba => Agree (writeGptPair image request)
      (lba * request.sectorBytes + 56) request.diskGuid 0 16) hsupported hfits hsize ?_
    intro primary
    exact ((hdisk.header_bytes hsupported primary).mono (by omega)).trans
      (Nat.zero_add 56 ▸ buildHeader_diskGuid request _ primary (hgate.identifiers hstyle).1)
  case entry =>
    refine forall_header (P := fun lba => GptReader.SoleEntry (writeGptPair image request)
      (GptReader.entryLba (writeGptPair image request) request.sectorBytes lba *
        request.sectorBytes) (gptPartitionTypeGuid request.fileSystem) request.partitionGuid
      (request.layout.startOffset.toNat / request.sectorBytes)
      ((request.layout.startOffset.toNat + request.layout.length.toNat) /
        request.sectorBytes - 1)
      (request.partitionName.take 36)) hsupported hfits hsize ?_
    intro primary
    rw [hdisk.entryLba hsupported primary, ← hentryFirst, ← hentryLast]
    exact (buildEntryArray_soleEntry request (hgate.identifiers hstyle).2).of_agree
      (hdisk.array primary)
  case inside =>
    refine forall_header (P := fun lba =>
      GptReader.firstUsable (writeGptPair image request) request.sectorBytes lba ≤
          request.layout.startOffset.toNat / request.sectorBytes ∧
        (request.layout.startOffset.toNat + request.layout.length.toNat) /
            request.sectorBytes - 1 ≤
          GptReader.lastUsable (writeGptPair image request) request.sectorBytes lba)
      hsupported hfits hsize ?_
    intro primary
    rw [hdisk.firstUsable hsupported primary, hdisk.lastUsable hsupported primary,
      hgeometry.firstUsableLba, hgeometry.lastUsableLba, ← hfirst, ← hend]
    exact ⟨hafter, by omega⟩

/-- The request for an empty 8 MiB stick. -/
def smallGptRequest : PartitionTableRequest :=
  { diskSize := 8388608
    layout := calculateGptLayout 8388608 512
    diskGuid := Bytes.ofList (List.replicate 16 0xA5)
    partitionGuid := Bytes.ofList (List.replicate 16 0x5A)
    partitionName := QStringLiteral "USB" }

theorem writeGptPair_holdsRequest_small :
    HoldsRequest (writeGptPair (Bytes.zeros 8388608) smallGptRequest) smallGptRequest :=
  writeGptPair_holdsRequest rfl rfl rfl rfl

end UsbRestore
