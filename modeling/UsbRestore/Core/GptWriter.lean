-- SUMMARY: The GPT pair the writers put on a disk is one that the independent reader accepts.
import UsbRestore.Core.GptReader
import UsbRestore.Core.Preflight

/-!
# The written GPT pair

The pieces the writers assemble, where each of them lands on the disk, and the reading
of every field back from there.
-/

namespace UsbRestore

open Bytes (Agree)

/-! ## Reading fields of a buffer under construction -/

theorem readLe_writeLe32 (b : QByteArray) (o : Nat) (v : UInt32) :
    (writeLe32 b o v).readLe o 4 = v.toNat :=
  Bytes.readLe_write_le b o 4 v.toNat_lt

theorem readLe_writeLe64 (b : QByteArray) (o : Nat) (v : UInt64) :
    (writeLe64 b o v).readLe o 8 = v.toNat :=
  Bytes.readLe_write_le b o 8 v.toNat_lt

theorem byteAt_writeLe16_frame (b : QByteArray) {o : Nat} {v : UInt16} {i : Nat}
    (h : i < o ∨ o + 2 ≤ i) : (writeLe16 b o v).byteAt i = b.byteAt i :=
  Bytes.byteAt_write_of_not_mem b h

theorem byteAt_writeLe32_frame (b : QByteArray) {o : Nat} {v : UInt32} {i : Nat}
    (h : i < o ∨ o + 4 ≤ i) : (writeLe32 b o v).byteAt i = b.byteAt i :=
  Bytes.byteAt_write_of_not_mem b h

theorem byteAt_writeLe64_frame (b : QByteArray) {o : Nat} {v : UInt64} {i : Nat}
    (h : i < o ∨ o + 8 ≤ i) : (writeLe64 b o v).byteAt i = b.byteAt i :=
  Bytes.byteAt_write_of_not_mem b h

theorem byteAt_writeBytes_frame (b : QByteArray) {o : Nat} {v : QByteArray} {length i : Nat}
    (h : i < o ∨ o + length ≤ i) : (writeBytes b o v length).byteAt i = b.byteAt i := by
  apply Bytes.byteAt_write_of_not_mem
  rw [Bytes.size_left]
  omega

theorem byteAt_writeBytes (b : QByteArray) {o : Nat} {v : QByteArray} {length i : Nat}
    (hi : i < length) (hv : length ≤ v.size) :
    (writeBytes b o v length).byteAt (o + i) = v.byteAt i := by
  apply Bytes.byteAt_write_of_mem
  rw [Bytes.size_left]
  omega

/-- A field that does not overlap the stored one keeps its value. -/
theorem readLe_writeLe16_frame (b : QByteArray) {o : Nat} {v : UInt16} {i count : Nat}
    (h : i + count ≤ o ∨ o + 2 ≤ i) : (writeLe16 b o v).readLe i count = b.readLe i count :=
  Bytes.readLe_write_frame b h

theorem readLe_writeLe32_frame (b : QByteArray) {o : Nat} {v : UInt32} {i count : Nat}
    (h : i + count ≤ o ∨ o + 4 ≤ i) : (writeLe32 b o v).readLe i count = b.readLe i count :=
  Bytes.readLe_write_frame b h

theorem readLe_writeLe64_frame (b : QByteArray) {o : Nat} {v : UInt64} {i count : Nat}
    (h : i + count ≤ o ∨ o + 8 ≤ i) : (writeLe64 b o v).readLe i count = b.readLe i count :=
  Bytes.readLe_write_frame b h

theorem readLe_writeBytes_frame (b : QByteArray) {o : Nat} {v : QByteArray}
    {length i count : Nat} (h : i + count ≤ o ∨ o + length ≤ i) :
    (writeBytes b o v length).readLe i count = b.readLe i count := by
  apply Bytes.readLe_write_frame
  rw [Bytes.size_left]
  omega

/-! ## The entry array -/

theorem byteAt_writeName_frame (name : QString) (b : QByteArray) {o i : Nat}
    (h : i < o ∨ o + 2 * name.length ≤ i) : (writeName b o name).byteAt i = b.byteAt i := by
  induction name generalizing b o with
  | nil => rfl
  | cons c name ih =>
    rw [List.length_cons] at h
    rw [writeName, ih _ (by omega), byteAt_writeLe16_frame _ (by omega)]

theorem readLe_writeName_frame (name : QString) (b : QByteArray) {o i count : Nat}
    (h : i + count ≤ o ∨ o + 2 * name.length ≤ i) :
    (writeName b o name).readLe i count = b.readLe i count :=
  Bytes.readLe_congr fun _ _ => byteAt_writeName_frame name b (by omega)

theorem size_writeName (name : QString) (b : QByteArray) (o : Nat) :
    (writeName b o name).size = b.size := by
  induction name generalizing b o with
  | nil => rfl
  | cons c name ih => rw [writeName, ih]; rfl

/-- Every code unit of the name reads back, and what follows it is as before. -/
theorem readLe_writeName (name : QString) (b : QByteArray) (o i : Nat)
    (hb : ∀ j, (b.readLe (o + 2 * j) 2) = 0) :
    (writeName b o name).readLe (o + 2 * i) 2 = (name.getD i 0).toNat := by
  induction name generalizing b o i with
  | nil =>
    rw [writeName]
    simpa using hb i
  | cons c name ih =>
    cases i with
    | zero =>
      rw [writeName, readLe_writeName_frame _ _ (by omega)]
      exact Bytes.readLe_write_le b o 2 c.toNat_lt
    | succ i =>
      have hrest : ∀ j, (writeLe16 b o c).readLe (o + 2 + 2 * j) 2 = 0 := by
        intro j
        rw [readLe_writeLe16_frame _ (by omega), ← hb (j + 1)]
        congr 1
        omega
      rw [writeName, List.getD_cons_succ, ← ih (writeLe16 b o c) (o + 2) i hrest]
      congr 1
      omega

theorem readLe_zeros (n o count : Nat) : (Bytes.zeros n).readLe o count = 0 := by
  induction count generalizing o with
  | zero => rfl
  | succ count ih => simp [Bytes.readLe, ih]

theorem size_gptPartitionTypeGuid (fileSystem : FileSystemType) :
    (gptPartitionTypeGuid fileSystem).size = 16 := by
  cases fileSystem <;> rfl

variable (request : PartitionTableRequest)

theorem size_buildEntryArray : (buildEntryArray request).size = GptReader.arrayBytes := by
  simp only [buildEntryArray, size_writeName]
  rfl

/-- The array names the one partition of the request. -/
theorem buildEntryArray_soleEntry (h : request.partitionGuid.size = 16) :
    GptReader.SoleEntry (buildEntryArray request) 0 (gptPartitionTypeGuid request.fileSystem)
      request.partitionGuid (entryFirstLba request).toNat (entryLastLba request).toNat
      (request.partitionName.take 36) := by
  have hname : (request.partitionName.take 36).length ≤ 36 := by simp
  have htype := size_gptPartitionTypeGuid request.fileSystem
  unfold buildEntryArray
  constructor
  case typeGuid =>
    intro k hk
    simp (disch := omega) only [byteAt_writeName_frame, byteAt_writeLe64_frame,
      byteAt_writeBytes_frame]
    rw [byteAt_writeBytes _ hk (by omega), Nat.zero_add]
  case partitionGuid =>
    intro k hk
    simp (disch := omega) only [byteAt_writeName_frame, byteAt_writeLe64_frame]
    rw [Nat.zero_add, Nat.zero_add]
    exact byteAt_writeBytes _ hk (by omega)
  case first =>
    simp (disch := omega) only [readLe_writeName_frame, readLe_writeLe64_frame,
      readLe_writeLe64, Nat.zero_add]
  case last =>
    simp (disch := omega) only [readLe_writeName_frame, readLe_writeLe64_frame,
      readLe_writeLe64, Nat.zero_add]
  case attributes =>
    simp (disch := omega) only [readLe_writeName_frame, readLe_writeLe64, Nat.zero_add]
    rfl
  case name =>
    intro i _
    rw [Nat.zero_add]
    apply readLe_writeName
    intro j
    simp (disch := omega) only [readLe_writeLe64_frame, readLe_writeBytes_frame]
    exact readLe_zeros _ _ _
  case others =>
    intro i hi _
    simp (disch := omega) only [byteAt_writeName_frame, byteAt_writeLe64_frame,
      byteAt_writeBytes_frame, Nat.zero_add]
    exact Bytes.byteAt_zeros _ _

/-! ## The header -/

variable (entries : QByteArray) (primary : Bool)

/-- Block of a header and of its partner, and of its entry array. -/
def headerLba : UInt64 := if primary then 1 else (gptGeometry request).lastLba

def partnerLba : UInt64 := if primary then (gptGeometry request).lastLba else 1

def arrayLba : UInt64 :=
  if primary then (gptGeometry request).primaryEntryLba else (gptGeometry request).backupEntryLba

/-- The fields of a header before its checksum is filled in. -/
structure HeaderContents (header : QByteArray) : Prop where
  signature : Agree header 0 GptReader.efiPart 0 8
  size : header.readLe 12 4 = 92
  myLba : header.readLe 24 8 = (headerLba request primary).toNat
  alternateLba : header.readLe 32 8 = (partnerLba request primary).toNat
  firstUsable : header.readLe 40 8 = (gptGeometry request).firstUsableLba.toNat
  lastUsable : header.readLe 48 8 = (gptGeometry request).lastUsableLba.toNat
  entryLba : header.readLe 72 8 = (arrayLba request primary).toNat
  entryCount : header.readLe 80 4 = 128
  entrySize : header.readLe 84 4 = 128
  arrayChecksum : header.readLe 88 4 = (gptCrc32 entries).toNat

/-- Even before its checksum is stored, the header holds every field that the reader asks for. -/
theorem headerFields_contents :
    HeaderContents request entries primary (headerFields request entries primary) := by
  unfold headerFields
  constructor
  case signature =>
    intro k hk
    simp (disch := omega) only [byteAt_writeLe32_frame, byteAt_writeLe64_frame,
      byteAt_writeBytes_frame]
    rw [byteAt_writeBytes _ hk (Nat.le_refl 8), Nat.zero_add]
    rfl
  all_goals
    simp (disch := omega) only [readLe_writeLe32_frame, readLe_writeLe64_frame,
      readLe_writeBytes_frame, readLe_writeLe32, readLe_writeLe64, headerLba, partnerLba, arrayLba]
  all_goals rfl

theorem headerFields_diskGuid (h : request.diskGuid.size = 16) :
    Agree (headerFields request entries primary) 56 request.diskGuid 0 16 := by
  intro k hk
  unfold headerFields
  simp (disch := omega) only [byteAt_writeLe32_frame, byteAt_writeLe64_frame, Nat.zero_add]
  exact byteAt_writeBytes _ hk (by omega)

/-- The checksum field is zero while the checksum is taken. -/
theorem headerFields_checksum_zero {i : Nat} (hi : i < 4) :
    (headerFields request entries primary).byteAt (16 + i) = 0 := by
  unfold headerFields
  simp (disch := omega) only [byteAt_writeLe32_frame, byteAt_writeLe64_frame,
    byteAt_writeBytes_frame]
  have hwrite : ∀ b : QByteArray, (writeLe32 b 16 0).byteAt (16 + i) = 0 := by
    intro b
    rw [writeLe32, Bytes.byteAt_write_of_mem b hi]
    simp [Bytes.le]
  exact hwrite _

theorem size_headerFields (h : isSupportedSectorSize request.sectorSize = true) :
    (headerFields request entries primary).size = request.sectorBytes := by
  unfold headerFields
  rw [effectiveSectorSize_of_supported h]
  rfl

/-- The table-driven checksum of the source is that of the reflected polynomial, on any bytes. -/
theorem gptCrc32_eq (data : QByteArray) : gptCrc32 data = Crc32.crc32 data.toList := by
  rw [gptCrc32, Crc32.foldl_tableUpdate, Crc32.crc32]

/-- The header with `checksum` in the field that the checksum leaves out. -/
def storeChecksum (header : QByteArray) (checksum : UInt32) : QByteArray :=
  writeLe32 header 16 checksum

/-- What `buildHeader` stores: the checksum of the 92 bytes while the field is zero. -/
def zeroedChecksum (header : QByteArray) : UInt32 :=
  gptCrc32 ((storeChecksum header 0).left GptHeaderSize.toNat)

/-- The checksum that is stored last is the one that stays. -/
theorem storeChecksum_storeChecksum (header : QByteArray) (checksum checksum' : UInt32) :
    storeChecksum (storeChecksum header checksum) checksum' = storeChecksum header checksum' := by
  refine Bytes.ext rfl fun i => ?_
  by_cases hin : 16 ≤ i ∧ i < 20
  · obtain ⟨k, rfl⟩ := Nat.exists_eq_add_of_le hin.1
    have hk : ∀ value : UInt32, k < (Bytes.le 4 value.toNat).size :=
      fun value => Nat.lt_of_add_lt_add_left hin.2
    simp only [storeChecksum, writeLe32, Bytes.byteAt_write_of_mem _ (hk _)]
  · have hout : i < 16 ∨ 16 + 4 ≤ i := by omega
    simp only [storeChecksum, byteAt_writeLe32_frame _ hout]

/-- The checksum does not depend on what its field holds. -/
theorem zeroedChecksum_storeChecksum (header : QByteArray) (checksum : UInt32) :
    zeroedChecksum (storeChecksum header checksum) = zeroedChecksum header := by
  rw [zeroedChecksum, storeChecksum_storeChecksum, zeroedChecksum]

/-- A header is its fields with their checksum stored, taken while that field is zero. -/
theorem buildHeader_eq_storeChecksum :
    buildHeader request entries primary =
      storeChecksum (headerFields request entries primary)
        (zeroedChecksum (headerFields request entries primary)) := by
  have hzero : storeChecksum (headerFields request entries primary) 0 =
      headerFields request entries primary := by
    refine Bytes.ext rfl fun i => ?_
    by_cases hin : 16 ≤ i ∧ i < 20
    · obtain ⟨k, rfl⟩ := Nat.exists_eq_add_of_le hin.1
      rw [storeChecksum, writeLe32, Bytes.byteAt_write_of_mem _ (by rw [Bytes.size_le]; omega),
        headerFields_checksum_zero _ _ _ (by omega)]
      simp [Bytes.le]
    · rw [storeChecksum, byteAt_writeLe32_frame _ (by omega)]
  rw [zeroedChecksum, hzero]
  rfl

/-- The table-driven checksum is the one that is taken bit by bit, and a header that it is stored
in verifies, as every header that is built does. -/
theorem gptCrc32_isCrc32 :
    (∀ data, gptCrc32 data = Crc32.bitwiseCrc32 data.toList) ∧
      (∀ header, (storeChecksum header (zeroedChecksum header)).readLe 16 4 =
        (zeroedChecksum (storeChecksum header (zeroedChecksum header))).toNat) ∧
      ∀ request entries primary, (buildHeader request entries primary).readLe 16 4 =
        (zeroedChecksum (buildHeader request entries primary)).toNat := by
  have hstored : ∀ header, (storeChecksum header (zeroedChecksum header)).readLe 16 4 =
      (zeroedChecksum (storeChecksum header (zeroedChecksum header))).toNat := by
    intro header
    rw [zeroedChecksum_storeChecksum, storeChecksum, readLe_writeLe32]
  refine ⟨fun data => ?_, hstored, fun request entries primary => ?_⟩
  · rw [gptCrc32_eq, Crc32.crc32_eq_bitwiseCrc32]
  · rw [buildHeader_eq_storeChecksum]
    exact hstored _

/-- Filling in the checksum changes no other field. -/
theorem HeaderContents.writeChecksum {request : PartitionTableRequest} {entries : QByteArray}
    {primary : Bool} {header : QByteArray} (h : HeaderContents request entries primary header)
    (checksum : UInt32) : HeaderContents request entries primary (writeLe32 header 16 checksum) := by
  constructor
  case signature =>
    intro k hk
    rw [byteAt_writeLe32_frame _ (by omega)]
    exact h.signature k hk
  all_goals rw [readLe_writeLe32_frame _ (by omega)]
  · exact h.size
  · exact h.myLba
  · exact h.alternateLba
  · exact h.firstUsable
  · exact h.lastUsable
  · exact h.entryLba
  · exact h.entryCount
  · exact h.entrySize
  · exact h.arrayChecksum

/-- So does the finished header, since storing the checksum leaves those fields alone. -/
theorem buildHeader_contents :
    HeaderContents request entries primary (buildHeader request entries primary) :=
  (headerFields_contents request entries primary).writeChecksum _

theorem buildHeader_diskGuid (h : request.diskGuid.size = 16) :
    Agree (buildHeader request entries primary) 56 request.diskGuid 0 16 := by
  intro k hk
  rw [buildHeader, byteAt_writeLe32_frame _ (by omega)]
  exact headerFields_diskGuid request entries primary h k hk

/-- Zeroing the checksum of a finished header gives back what the checksum was taken of. -/
theorem buildHeader_checksum (h : isSupportedSectorSize request.sectorSize = true) :
    (buildHeader request entries primary).readLe 16 4 =
      (Crc32.crc32 (((buildHeader request entries primary).slice 0 92).write 16
        (Bytes.zeros 4)).toList).toNat := by
  have hheader := (sectorFacts h).header
  have hfields := size_headerFields request entries primary h
  have hzeroed : (((buildHeader request entries primary).slice 0 92).write 16
      (Bytes.zeros 4)).toList =
      ((headerFields request entries primary).left GptHeaderSize.toNat).toList := by
    apply Bytes.toList_congr
    · rw [Bytes.size_write, Bytes.size_slice, Bytes.size_left, hfields]
      exact (Nat.min_eq_left (Nat.le_trans (by decide) hheader)).symm
    · intro k _
      rw [Nat.zero_add, Bytes.byteAt_left]
      by_cases hk : 16 ≤ k ∧ k < 20
      · obtain ⟨i, rfl⟩ := Nat.exists_eq_add_of_le hk.1
        rw [Bytes.byteAt_write_of_mem _ (by rw [Bytes.size_zeros]; omega),
          headerFields_checksum_zero _ _ _ (by omega)]
        rfl
      · rw [Bytes.byteAt_write_of_not_mem _ (by rw [Bytes.size_zeros]; omega), Bytes.byteAt_slice,
          buildHeader, byteAt_writeLe32_frame _ (by omega), Nat.zero_add]
  rw [hzeroed, ← gptCrc32_eq, buildHeader, readLe_writeLe32]

/-! ## Headers and arrays on a disk -/

section OnDisk

variable {request} {entries} {primary} {image : Bytes} {sector : Nat}

/-- A field of the image is the one of the header that was copied there. -/
theorem field_of_agree {header : QByteArray} {lba offset count : Nat}
    (h : Agree image (lba * sector) header 0 92) (hfield : offset + count ≤ 92) :
    GptReader.field image sector lba offset count = header.readLe offset count := by
  have hsub := h.mono hfield
  rw [Nat.zero_add] at hsub
  exact Bytes.readLe_congr hsub

/-- A header and its array, found where the header says, are valid. -/
theorem validHeader_of_agree (hsupported : isSupportedSectorSize request.sectorSize = true)
    (hsize : entries.size = GptReader.arrayBytes)
    (hheader : Agree image ((headerLba request primary).toNat * sector)
      (buildHeader request entries primary) 0 92)
    (harray : Agree image ((arrayLba request primary).toNat * sector) entries 0
      GptReader.arrayBytes) :
    GptReader.ValidHeader image sector (headerLba request primary).toNat := by
  have hcontents := buildHeader_contents request entries primary
  have hslice : ((image.slice ((headerLba request primary).toNat * sector) 92).write 16
      (Bytes.zeros 4)).toList =
      (((buildHeader request entries primary).slice 0 92).write 16 (Bytes.zeros 4)).toList := by
    refine Bytes.toList_congr (by rw [Bytes.size_write, Bytes.size_write, Bytes.size_slice,
      Bytes.size_slice]) ?_
    intro k hk
    rw [Nat.zero_add]
    simp only [Bytes.byteAt_write, Bytes.byteAt_slice]
    split
    · rfl
    · exact hheader k hk
  have hentries : (image.slice ((arrayLba request primary).toNat * sector)
      GptReader.arrayBytes).toList = entries.toList := by
    apply Bytes.toList_congr
    · rw [Bytes.size_slice, hsize]
    · intro k hk
      rw [Nat.zero_add, Bytes.byteAt_slice, harray k hk, Nat.zero_add]
  constructor
  case signature => exact (hheader.mono (by omega : 0 + 8 ≤ 92)).trans hcontents.signature
  case size => rw [field_of_agree hheader (by omega), hcontents.size]
  case checksum =>
    rw [field_of_agree hheader (by omega), hslice, buildHeader_checksum _ _ _ hsupported]
  case myLba => rw [field_of_agree hheader (by omega), hcontents.myLba]
  case entryCount => rw [field_of_agree hheader (by omega), hcontents.entryCount]
  case entrySize => rw [field_of_agree hheader (by omega), hcontents.entrySize]
  case arrayChecksum =>
    rw [field_of_agree hheader (by omega), GptReader.entryLba, field_of_agree hheader (by omega),
      hcontents.entryLba, hentries, hcontents.arrayChecksum, gptCrc32_eq]

end OnDisk

/-! ## The pieces of the two writes -/

section Pieces

variable {request} (hsupported : isSupportedSectorSize request.sectorSize = true)
include hsupported

theorem size_buildProtectiveMbr : (buildProtectiveMbr request).size = request.sectorBytes := by
  unfold buildProtectiveMbr
  rw [effectiveSectorSize_of_supported hsupported]
  rfl

theorem size_buildHeader : (buildHeader request entries primary).size = request.sectorBytes :=
  size_headerFields request entries primary hsupported

theorem size_entryPadding : (entryPadding request (buildEntryArray request)).size = 0 := by
  rw [entryPadding, size_buildEntryArray, effectiveSectorSize_of_supported hsupported]
  obtain hs | hs | hs | hs := isSupportedSectorSize_cases hsupported <;> rw [hs] <;> rfl

theorem size_buildGptPrimary :
    (buildGptPrimary request).size = 2 * request.sectorBytes + GptReader.arrayBytes := by
  simp only [buildGptPrimary, Bytes.size_append, size_buildProtectiveMbr hsupported,
    size_buildHeader _ _ hsupported, size_buildEntryArray, size_entryPadding hsupported]
  omega

theorem size_buildGptBackup :
    (buildGptBackup request).size = GptReader.arrayBytes + request.sectorBytes := by
  simp only [buildGptBackup, Bytes.size_append, size_buildHeader _ _ hsupported,
    size_buildEntryArray, size_entryPadding hsupported]
  omega

theorem buildGptPrimary_mbr :
    Agree (buildGptPrimary request) 0 (buildProtectiveMbr request) 0 request.sectorBytes := by
  have hmbr := size_buildProtectiveMbr hsupported
  unfold buildGptPrimary
  refine (Bytes.agree_append_left _ _ ?_).trans ((Bytes.agree_append_left _ _ ?_).trans
    (Bytes.agree_append_left _ _ ?_)) <;> simp only [Bytes.size_append, hmbr] <;> omega

/-- The header is the second sector of the primary structures. -/
theorem buildGptPrimary_header :
    Agree (buildGptPrimary request) request.sectorBytes
      (buildHeader request (buildEntryArray request) true) 0 request.sectorBytes := by
  have hmbr := size_buildProtectiveMbr hsupported
  have hheader := size_buildHeader (buildEntryArray request) true hsupported
  have hlast := Bytes.agree_append_right (buildProtectiveMbr request)
    (buildHeader request (buildEntryArray request) true) 0 request.sectorBytes
  rw [hmbr, Nat.add_zero] at hlast
  unfold buildGptPrimary
  refine (Bytes.agree_append_left _ _ ?_).trans ((Bytes.agree_append_left _ _ ?_).trans hlast) <;>
    simp only [Bytes.size_append, hmbr, hheader] <;> omega

/-- The entry array follows the primary header. -/
theorem buildGptPrimary_array :
    Agree (buildGptPrimary request) (2 * request.sectorBytes) (buildEntryArray request) 0
      GptReader.arrayBytes := by
  have hmbr := size_buildProtectiveMbr hsupported
  have hheader := size_buildHeader (buildEntryArray request) true hsupported
  have hlast := Bytes.agree_append_right ((buildProtectiveMbr request).append
    (buildHeader request (buildEntryArray request) true)) (buildEntryArray request) 0
    GptReader.arrayBytes
  rw [Bytes.size_append, hmbr, hheader, Nat.add_zero, ← Nat.two_mul] at hlast
  unfold buildGptPrimary
  refine (Bytes.agree_append_left _ _ ?_).trans hlast
  simp only [Bytes.size_append, hmbr, hheader, size_buildEntryArray]
  omega

omit hsupported in
theorem buildGptBackup_array :
    Agree (buildGptBackup request) 0 (buildEntryArray request) 0 GptReader.arrayBytes := by
  unfold buildGptBackup
  refine (Bytes.agree_append_left _ _ ?_).trans (Bytes.agree_append_left _ _ ?_) <;>
    simp only [Bytes.size_append, size_buildEntryArray] <;> omega

/-- The backup ends with its header. -/
theorem buildGptBackup_header :
    Agree (buildGptBackup request) GptReader.arrayBytes
      (buildHeader request (buildEntryArray request) false) 0 request.sectorBytes := by
  have hlast := Bytes.agree_append_right
    ((buildEntryArray request).append (entryPadding request (buildEntryArray request)))
    (buildHeader request (buildEntryArray request) false) 0 request.sectorBytes
  rw [Bytes.size_append, size_buildEntryArray, size_entryPadding hsupported] at hlast
  exact hlast

end Pieces

/-! ## The written disk -/

/-- The two writes of `performLinuxRestore` for a GPT disk. -/
def writeGptPair (image : Bytes) (request : PartitionTableRequest) : Bytes :=
  (image.write 0 (buildGptPrimary request)).write (gptBackupOffset request).toNat
    (buildGptBackup request)

/-- Where the pieces of a GPT pair lie on a disk. -/
structure PairOnDisk (image : Bytes) (request : PartitionTableRequest) : Prop where
  mbr : Agree image 0 (buildProtectiveMbr request) 0 request.sectorBytes
  header : ∀ primary, Agree image ((headerLba request primary).toNat * request.sectorBytes)
    (buildHeader request (buildEntryArray request) primary) 0 request.sectorBytes
  array : ∀ primary, Agree image ((arrayLba request primary).toNat * request.sectorBytes)
    (buildEntryArray request) 0 GptReader.arrayBytes

section Written

variable {request} (hsupported : isSupportedSectorSize request.sectorSize = true)
  (hfits : (gptGeometry request).fits = true)
include hsupported hfits

/-- The backup begins as many sectors before the last one as its entry array takes. -/
theorem gptBackupOffset_toNat : (gptBackupOffset request).toNat =
    (request.sectors - 1 - request.arraySectors) * request.sectorBytes := by
  have hgeometry := gptGeometry_facts hsupported hfits
  have hdisk := request.diskSize.toNat_lt
  have hle : (request.sectors - 1 - request.arraySectors) * request.sectorBytes ≤
      request.diskSize.toNat :=
    Nat.le_trans (Nat.mul_le_mul_right _ (Nat.le_trans (Nat.sub_le _ _) (Nat.sub_le _ _)))
      (Nat.div_mul_le_self _ _)
  rw [gptBackupOffset, if_pos hfits, effectiveSectorSize_of_supported hsupported, UInt64.toNat_mul,
    hgeometry.backupEntryLba, UInt32.toNat_toUInt64]
  exact Nat.mod_eq_of_lt (by change _ * request.sectorBytes < _; omega)

/-- The pair ends with the last whole sector. -/
theorem gptBackupOffset_end : (gptBackupOffset request).toNat + GptReader.arrayBytes +
    request.sectorBytes = request.sectors * request.sectorBytes := by
  have hsectors := (gptGeometry_facts hsupported hfits).sectors
  have harray : request.arraySectors * request.sectorBytes = GptReader.arrayBytes :=
    (sectorFacts hsupported).array
  obtain ⟨rest, hrest⟩ := Nat.exists_eq_add_of_le hsectors
  have hsub : request.sectors - 1 - request.arraySectors = request.arraySectors + 2 + rest := by
    omega
  rw [gptBackupOffset_toNat hsupported hfits, hsub, hrest]
  simp only [Nat.add_mul, Nat.mul_assoc, harray]
  omega

/-- On a disk that the geometry fits, the two copies do not overlap. -/
theorem primary_before_backup :
    2 * request.sectorBytes + GptReader.arrayBytes ≤ (gptBackupOffset request).toNat := by
  have hsectors := (gptGeometry_facts hsupported hfits).sectors
  have harray : request.arraySectors * request.sectorBytes = GptReader.arrayBytes :=
    (sectorFacts hsupported).array
  have hle : (2 + request.arraySectors) * request.sectorBytes ≤
      (request.sectors - 1 - request.arraySectors) * request.sectorBytes :=
    Nat.mul_le_mul_right _ (by omega)
  rw [gptBackupOffset_toNat hsupported hfits]
  rwa [Nat.add_mul, harray] at hle

/-- After both writes both copies are on the disk, since the second write leaves the first copy
alone. -/
theorem writeGptPair_pairOnDisk (image : Bytes) : PairOnDisk (writeGptPair image request) request := by
  have hgeometry := gptGeometry_facts hsupported hfits
  have hprimary := size_buildGptPrimary hsupported
  have hbackup := size_buildGptBackup hsupported
  have hbefore := primary_before_backup hsupported hfits
  have hoffset := gptBackupOffset_toNat hsupported hfits
  have hend := gptBackupOffset_end hsupported hfits
  have hfront : ∀ offset count, offset + count ≤ 2 * request.sectorBytes + GptReader.arrayBytes →
      Agree (writeGptPair image request) offset (buildGptPrimary request) offset count := by
    intro offset count hle
    have hframe : Agree (writeGptPair image request) offset
        (image.write 0 (buildGptPrimary request)) offset count :=
      Bytes.agree_write_frame _ (.inl (Nat.le_trans hle hbefore))
    have hself := (Bytes.agree_write image 0 (buildGptPrimary request)).mono
      (d := offset) (n := count) (by omega)
    rw [Nat.zero_add] at hself
    exact hframe.trans hself
  have hback : ∀ offset count, offset + count ≤ GptReader.arrayBytes + request.sectorBytes →
      Agree (writeGptPair image request) ((gptBackupOffset request).toNat + offset)
        (buildGptBackup request) offset count := by
    intro offset count hle
    have hself := (Bytes.agree_write (image.write 0 (buildGptPrimary request))
      (gptBackupOffset request).toNat (buildGptBackup request)).mono
      (d := offset) (n := count) (by omega)
    rwa [Nat.zero_add] at hself
  have hlast : (gptGeometry request).lastLba.toNat * request.sectorBytes =
      (gptBackupOffset request).toNat + GptReader.arrayBytes := by
    rw [hgeometry.lastLba, Nat.sub_one_mul, ← hend]
    omega
  constructor
  case mbr => exact (hfront 0 _ (by omega)).trans (buildGptPrimary_mbr hsupported)
  case header =>
    intro primary
    cases primary with
    | true =>
      have hone : (headerLba request true).toNat * request.sectorBytes = request.sectorBytes :=
        Nat.one_mul _
      rw [hone]
      exact (hfront _ _ (by omega)).trans (buildGptPrimary_header hsupported)
    | false =>
      change Agree _ ((gptGeometry request).lastLba.toNat * request.sectorBytes) _ 0 _
      rw [hlast]
      exact (hback _ _ (by omega)).trans (buildGptBackup_header hsupported)
  case array =>
    intro primary
    cases primary with
    | true =>
      have htwo : (arrayLba request true).toNat = 2 := by
        simp only [arrayLba, if_true, hgeometry.primaryEntryLba, UInt64.reduceToNat]
      rw [htwo]
      exact (hfront _ _ (by omega)).trans (buildGptPrimary_array hsupported)
    | false =>
      have hbackupLba : (arrayLba request false).toNat * request.sectorBytes =
          (gptBackupOffset request).toNat := by
        rw [hoffset, ← hgeometry.backupEntryLba]
        rfl
      have hzero := hback 0 GptReader.arrayBytes (by omega)
      rw [Nat.add_zero] at hzero
      rw [hbackupLba]
      exact hzero.trans buildGptBackup_array

end Written

end UsbRestore
