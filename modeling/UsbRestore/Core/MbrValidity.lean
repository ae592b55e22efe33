-- SUMMARY: What the sector of an accepted MBR request holds: the one entry, its CHS fields, and zeros.
import Mathlib.Data.Nat.ModEq
import UsbRestore.Core.GptValidity
import UsbRestore.Core.Preflight

/-!
# The MBR

Cylinder, head and sector share three bytes, ten bits of them for the cylinder. The marker of a
block past their reach is also how the last block within their reach is written.
-/

namespace UsbRestore

/-! ## CHS fields -/

structure ChsAddress where
  cylinder : Nat
  head : Nat
  sector : Nat

/-- The three bytes from `offset` on: head, sector with two bits of the cylinder, the other eight. -/
def readChs (table : Bytes) (offset : Nat) : ChsAddress where
  cylinder := (table.byteAt (offset + 1)).toNat / 64 * 256 + (table.byteAt (offset + 2)).toNat
  head := (table.byteAt offset).toNat
  sector := (table.byteAt (offset + 1)).toNat % 64

/-- The block of an address with 255 heads and 63 sectors per track, sectors counted from one. -/
def ChsAddress.lba (address : ChsAddress) : Nat :=
  (address.cylinder * 255 + address.head) * 63 + (address.sector - 1)

def chsCylinder (lba : Nat) : Nat := lba / (255 * 63)

/-- The last block of cylinder 1023. -/
def LastChsBlock : Nat := 1024 * 255 * 63 - 1

structure IsChsMarker (table : Bytes) (offset : Nat) : Prop where
  head : table.byteAt offset = 0xFE
  sector : table.byteAt (offset + 1) = 0xFF
  cylinder : table.byteAt (offset + 2) = 0xFF

/-- The field of a block. -/
structure ChsFieldOf (table : Bytes) (offset lba : Nat) : Prop where
  exact : chsCylinder lba ≤ 1023 → (readChs table offset).lba = lba ∧
    (readChs table offset).head < 255 ∧ 1 ≤ (readChs table offset).sector
  marker : 1023 < chsCylinder lba → IsChsMarker table offset
  marker_iff : IsChsMarker table offset ↔ 1023 < chsCylinder lba ∨ lba = LastChsBlock

theorem and_0xC0 (byte : Fin 256) : byte.val &&& 0xC0 = byte.val / 64 * 64 := by
  revert byte
  decide +kernel

theorem or_shifted (sector : Fin 64) (bits : Fin 4) :
    sector.val ||| bits.val * 64 = bits.val * 64 + sector.val := by
  revert sector bits
  decide +kernel

/-- The byte that the sector and the high bits of the cylinder share. -/
theorem sharedByte_toNat {sector cylinder : UInt64} (hsector : sector.toNat < 64)
    (hcylinder : cylinder.toNat ≤ 1023) :
    ((sector &&& (0x3F : UInt64)) ||| ((cylinder >>> 2) &&& (0xC0 : UInt64))).toUInt8.toNat =
      cylinder.toNat / 256 * 64 + sector.toNat := by
  have hlow : (sector &&& (0x3F : UInt64)).toNat = sector.toNat := by
    rw [UInt64.toNat_and]
    exact (Nat.and_two_pow_sub_one_eq_mod _ 6).trans (Nat.mod_eq_of_lt hsector)
  have hshift : (cylinder >>> 2).toNat = cylinder.toNat / 4 := by
    rw [UInt64.toNat_shiftRight]
    exact Nat.shiftRight_eq_div_pow _ 2
  have hhigh : ((cylinder >>> 2) &&& (0xC0 : UInt64)).toNat = cylinder.toNat / 256 * 64 := by
    rw [UInt64.toNat_and, hshift]
    have hmask := and_0xC0 ⟨cylinder.toNat / 4, by omega⟩
    dsimp only at hmask
    exact hmask.trans (by omega)
  have hor := or_shifted ⟨sector.toNat, hsector⟩ ⟨cylinder.toNat / 256, by omega⟩
  rw [UInt64.toNat_toUInt8, UInt64.toNat_or, hlow, hhigh, hor]
  exact Nat.mod_eq_of_lt (by dsimp only; omega)

theorem byteAt_writeChs_frame (table : QByteArray) {offset i : Nat} {lba : UInt64}
    (h : i < offset ∨ offset + 3 ≤ i) : (writeChs table offset lba).byteAt i = table.byteAt i := by
  have h0 : i ≠ offset := by omega
  have h1 : i ≠ offset + 1 := by omega
  have h2 : i ≠ offset + 2 := by omega
  unfold writeChs
  dsimp only
  split
  · rw [Bytes.byteAt_set_ne _ _ h2, Bytes.byteAt_set_ne _ _ h1, Bytes.byteAt_set_ne _ _ h0]
  · rw [Bytes.byteAt_set_ne _ _ h2, Bytes.byteAt_set_ne _ _ h1, Bytes.byteAt_set_ne _ _ h0]

@[simp] theorem size_writeChs (table : QByteArray) (offset : Nat) (lba : UInt64) :
    (writeChs table offset lba).size = table.size := by
  unfold writeChs
  dsimp only
  split <;> rfl

/-- Three bytes set in a row read back. -/
theorem byteAt_set_three (table : Bytes) (offset : Nat) (a b c : UInt8) :
    (((table.set offset a).set (offset + 1) b).set (offset + 2) c).byteAt offset = a ∧
    (((table.set offset a).set (offset + 1) b).set (offset + 2) c).byteAt (offset + 1) = b ∧
    (((table.set offset a).set (offset + 1) b).set (offset + 2) c).byteAt (offset + 2) = c := by
  refine ⟨?_, ?_, Bytes.byteAt_set_self _ _ _⟩
  · rw [Bytes.byteAt_set_ne _ _ (by omega), Bytes.byteAt_set_ne _ _ (by omega),
      Bytes.byteAt_set_self]
  · rw [Bytes.byteAt_set_ne _ _ (by omega), Bytes.byteAt_set_self]

/-- Cylinder, head and sector of a block make the block again. -/
theorem chs_lba (lba : Nat) :
    (chsCylinder lba * 255 + lba / 63 % 255) * 63 + lba % 63 = lba := by
  have hcylinder : chsCylinder lba = lba / 63 / 255 := by
    rw [chsCylinder, Nat.mul_comm 255, Nat.div_div_eq_div_mul]
  rw [hcylinder, Nat.mul_comm _ 255, Nat.div_add_mod, Nat.mul_comm _ 63, Nat.div_add_mod]

/-- The three bytes that are written are the address that the reader expects. -/
theorem chsFieldOf_writeChs (table : QByteArray) (offset : Nat) (lba : UInt64) :
    ChsFieldOf (writeChs table offset lba) offset lba.toNat := by
  have htracks : (lba / (MbrHeads * MbrSectorsPerTrack)).toNat = chsCylinder lba.toNat :=
    UInt64.toNat_div _ _
  by_cases hfar : 1023 < lba / (MbrHeads * MbrSectorsPerTrack)
  · have hcylinder : 1023 < chsCylinder lba.toNat := by
      rw [← htracks]
      exact UInt64.lt_iff_toNat_lt.mp hfar
    obtain ⟨h0, h1, h2⟩ := byteAt_set_three table offset 0xFE 0xFF 0xFF
    unfold writeChs
    rw [if_pos hfar]
    have hmarker := IsChsMarker.mk h0 h1 h2
    exact ⟨fun hnear => absurd hcylinder (Nat.not_lt.mpr hnear), fun _ => hmarker,
      iff_of_true hmarker (.inl hcylinder)⟩
  · have hnear : chsCylinder lba.toNat ≤ 1023 := by
      rw [← htracks]
      exact Nat.le_of_not_lt fun h => hfar (UInt64.lt_iff_toNat_lt.mpr h)
    have hhead : ((lba / MbrSectorsPerTrack) % MbrHeads).toUInt8.toNat = lba.toNat / 63 % 255 := by
      rw [UInt64.toNat_toUInt8, UInt64.toNat_mod, UInt64.toNat_div]
      exact Nat.mod_eq_of_lt (Nat.lt_trans (Nat.mod_lt _ (by decide)) (by decide))
    have hsector : ((lba % MbrSectorsPerTrack) + 1).toNat = lba.toNat % 63 + 1 := by
      have hlt : lba.toNat % 63 < 63 := Nat.mod_lt _ (by decide)
      rw [UInt64.toNat_add, UInt64.toNat_mod]
      exact Nat.mod_eq_of_lt (Nat.lt_trans (Nat.succ_lt_succ hlt) (by decide))
    have hshared := @sharedByte_toNat ((lba % MbrSectorsPerTrack) + 1)
      (lba / (MbrHeads * MbrSectorsPerTrack))
      (by rw [hsector]; omega) (by rw [htracks]; exact hnear)
    have hlow : (lba / (MbrHeads * MbrSectorsPerTrack)).toUInt8.toNat =
        chsCylinder lba.toNat % 256 := by
      rw [UInt64.toNat_toUInt8, htracks]
    rw [htracks, hsector] at hshared
    obtain ⟨h0, h1, h2⟩ := byteAt_set_three table offset
      ((lba / MbrSectorsPerTrack) % MbrHeads).toUInt8
      ((((lba % MbrSectorsPerTrack) + (1 : UInt64)) &&& (0x3F : UInt64)) |||
        (((lba / (MbrHeads * MbrSectorsPerTrack)) >>> 2) &&& (0xC0 : UInt64))).toUInt8
      (lba / (MbrHeads * MbrSectorsPerTrack)).toUInt8
    have hblock := chs_lba lba.toNat
    unfold writeChs
    rw [if_neg hfar]
    dsimp only
    refine ⟨fun _ => ?_, fun hover => absurd hnear (Nat.not_le.mpr hover), ?_⟩
    · unfold readChs ChsAddress.lba
      dsimp only
      rw [h0, h1, h2, hhead, hshared, hlow]
      omega
    · rw [or_iff_right (Nat.not_lt.mpr hnear)]
      constructor
      · rintro ⟨hm0, hm1, hm2⟩
        have hmHead : lba.toNat / 63 % 255 = 254 :=
          hhead.symm.trans (congrArg UInt8.toNat (h0.symm.trans hm0))
        have hmShared : chsCylinder lba.toNat / 256 * 64 + (lba.toNat % 63 + 1) = 255 :=
          hshared.symm.trans (congrArg UInt8.toNat (h1.symm.trans hm1))
        have hmLow : chsCylinder lba.toNat % 256 = 255 :=
          hlow.symm.trans (congrArg UInt8.toNat (h2.symm.trans hm2))
        unfold LastChsBlock
        omega
      · intro hlast
        have hcylinder : chsCylinder lba.toNat = 1023 := by
          rw [hlast]
          rfl
        rw [hcylinder] at hshared hlow
        refine ⟨?_, ?_, ?_⟩
        · rw [h0, ← UInt8.toNat_inj, hhead, hlast]
          rfl
        · rw [h1, ← UInt8.toNat_inj, hshared, hlast]
          rfl
        · rw [h2, ← UInt8.toNat_inj, hlow]
          rfl

theorem ChsFieldOf.congr {table other : Bytes} {offset lba : Nat}
    (h : Bytes.Agree table offset other offset 3) (hfield : ChsFieldOf other offset lba) :
    ChsFieldOf table offset lba := by
  have h0 : table.byteAt offset = other.byteAt offset := h 0 (by omega)
  have h1 : table.byteAt (offset + 1) = other.byteAt (offset + 1) := h 1 (by omega)
  have h2 : table.byteAt (offset + 2) = other.byteAt (offset + 2) := h 2 (by omega)
  have hread : readChs table offset = readChs other offset := by
    unfold readChs
    rw [h0, h1, h2]
  have hmarker : IsChsMarker table offset ↔ IsChsMarker other offset := by
    constructor
    · rintro ⟨hm0, hm1, hm2⟩
      exact ⟨h0.symm.trans hm0, h1.symm.trans hm1, h2.symm.trans hm2⟩
    · rintro ⟨hm0, hm1, hm2⟩
      exact ⟨h0.trans hm0, h1.trans hm1, h2.trans hm2⟩
  refine ⟨fun hnear => ?_, fun hfar => hmarker.mpr (hfield.marker hfar),
    hmarker.trans hfield.marker_iff⟩
  rw [hread]
  exact hfield.exact hnear

/-! ## The whole sector -/

/-- What an MBR for `request` holds. -/
structure MbrContents (table : Bytes) (request : PartitionTableRequest) : Prop where
  size : table.size = request.sectorBytes
  bootCode : ∀ i, i < 440 → table.byteAt i = 0
  diskSignature : ∀ i, i < 4 → table.byteAt (440 + i) = request.diskGuid.byteAt i
  reserved : table.byteAt 444 = 0 ∧ table.byteAt 445 = 0
  status : table.byteAt 446 = 0
  firstChs : ChsFieldOf table 447 (request.layout.startOffset.toNat / request.sectorBytes)
  type : table.byteAt 450 = mbrPartitionType request.fileSystem
  lastChs : ChsFieldOf table 451
    ((request.layout.startOffset.toNat + request.layout.length.toNat) / request.sectorBytes - 1)
  firstLba : table.readLe 454 4 = request.layout.startOffset.toNat / request.sectorBytes
  count : table.readLe 458 4 = request.layout.length.toNat / request.sectorBytes
  otherEntries : ∀ i, 462 ≤ i → i < 510 → table.byteAt i = 0
  mark : table.byteAt 510 = 0x55 ∧ table.byteAt 511 = 0xAA
  rest : ∀ i, 512 ≤ i → table.byteAt i = 0

section Contents

variable {request : PartitionTableRequest}

theorem effectiveSectorSize_toNat (h : isSupportedSectorSize request.sectorSize = true) :
    (effectiveSectorSize request.sectorSize).toUInt64.toNat = request.sectorBytes := by
  rw [effectiveSectorSize_of_supported h]
  exact UInt32.toNat_toUInt64 _

/-- A number that fits 32 bits is written unclipped. -/
theorem clipped_toNat {value : UInt64} (h : value.toNat ≤ 0xFFFFFFFF) :
    (min value MbrMaxSectors).toUInt32.toNat = value.toNat := by
  have hmin : min value MbrMaxSectors = value := if_pos (UInt64.le_iff_toNat_le.mpr h)
  rw [hmin, UInt64.toNat_toUInt32]
  exact Nat.mod_eq_of_lt (Nat.lt_of_le_of_lt h (by decide))

/-- The sector holds what each field writer put there: nothing else writes to its bytes. -/
theorem buildMbr_contents_of_blocks (hblocks : BlockFacts request)
    (hsupported : isSupportedSectorSize request.sectorSize = true)
    (haddress : request.endLba.toNat ≤ 0xFFFFFFFF) (hguid : 4 ≤ request.diskGuid.size) :
    MbrContents (buildMbr request) request := by
  have hpos := hblocks.sector.pos
  have hsector := effectiveSectorSize_toNat hsupported
  have hend := hblocks.endLba
  have hnonempty := hblocks.nonempty
  have hfirst : (request.layout.startOffset /
      (effectiveSectorSize request.sectorSize).toUInt64).toNat =
        request.layout.startOffset.toNat / request.sectorBytes := by
    rw [UInt64.toNat_div, hsector]
  have hspan : (request.layout.length /
      (effectiveSectorSize request.sectorSize).toUInt64).toNat =
        request.layout.length.toNat / request.sectorBytes := by
    rw [UInt64.toNat_div, hsector]
  have hstartDvd : request.sectorBytes ∣ request.layout.startOffset.toNat :=
    ⟨request.firstLba.toNat, by rw [Nat.mul_comm, hblocks.first]⟩
  have hsum : request.layout.startOffset.toNat / request.sectorBytes +
      request.layout.length.toNat / request.sectorBytes = request.endLba.toNat := by
    rw [← Nat.add_div_of_dvd_right hstartDvd, ← hend, Nat.mul_div_cancel _ hpos]
  have hlast : (request.layout.startOffset / (effectiveSectorSize request.sectorSize).toUInt64 +
      request.layout.length / (effectiveSectorSize request.sectorSize).toUInt64 - 1).toNat =
        request.endLba.toNat - 1 := by
    have hadd : (request.layout.startOffset / (effectiveSectorSize request.sectorSize).toUInt64 +
        request.layout.length / (effectiveSectorSize request.sectorSize).toUInt64).toNat =
          request.endLba.toNat := by
      rw [UInt64.toNat_add, hfirst, hspan, hsum]
      exact Nat.mod_eq_of_lt request.endLba.toNat_lt
    rw [UInt64.toNat_sub_of_le _ _ ?_, hadd]
    · rfl
    · rw [UInt64.le_iff_toNat_le, hadd]
      exact Nat.lt_of_le_of_lt (Nat.zero_le _) hnonempty
  have hlastLba : (request.layout.startOffset.toNat + request.layout.length.toNat) /
      request.sectorBytes - 1 = request.endLba.toNat - 1 := by
    rw [← hend, Nat.mul_div_cancel _ hpos]
  unfold buildMbr
  dsimp only
  rw [if_pos hguid]
  constructor
  · simp [writeMbrSignature, writeLe32, writeBytes, hsector]
  · intro i hi
    simp (disch := omega) only [byteAt_writeMbrSignature_frame, byteAt_writeLe32_frame,
      byteAt_writeChs_frame, Bytes.byteAt_set_ne, byteAt_writeBytes_frame, Bytes.byteAt_zeros]
  · intro i hi
    simp (disch := omega) only [byteAt_writeMbrSignature_frame, byteAt_writeLe32_frame,
      byteAt_writeChs_frame, Bytes.byteAt_set_ne]
    rw [byteAt_writeBytes _ hi (by rw [Bytes.size_left]; omega), Bytes.byteAt_left]
  · constructor <;>
      simp (disch := omega) only [byteAt_writeMbrSignature_frame, byteAt_writeLe32_frame,
        byteAt_writeChs_frame, Bytes.byteAt_set_ne, byteAt_writeBytes_frame, Bytes.byteAt_zeros]
  · simp (disch := omega) only [byteAt_writeMbrSignature_frame, byteAt_writeLe32_frame,
      byteAt_writeChs_frame, Bytes.byteAt_set_ne, Bytes.byteAt_set_self]
  · rw [← hfirst]
    generalize (writeBytes _ 440 _ 4).set 446 _ = table
    refine ChsFieldOf.congr (fun k hk => ?_) (chsFieldOf_writeChs table 447 _)
    simp (disch := omega) only [byteAt_writeMbrSignature_frame, byteAt_writeLe32_frame,
      byteAt_writeChs_frame, Bytes.byteAt_set_ne]
  · simp (disch := omega) only [byteAt_writeMbrSignature_frame, byteAt_writeLe32_frame,
      byteAt_writeChs_frame, Bytes.byteAt_set_self]
  · rw [hlastLba, ← hlast]
    generalize (writeChs _ 447 _).set 450 _ = table
    refine ChsFieldOf.congr (fun k hk => ?_) (chsFieldOf_writeChs table 451 _)
    simp (disch := omega) only [byteAt_writeMbrSignature_frame, byteAt_writeLe32_frame]
  · rw [readLe_writeMbrSignature_frame _ (by omega), readLe_writeLe32_frame _ (by omega), readLe_writeLe32, clipped_toNat, hfirst]
    omega
  · rw [readLe_writeMbrSignature_frame _ (by omega), readLe_writeLe32, clipped_toNat, hspan]
    omega
  · intro i hlow hhigh
    simp (disch := omega) only [byteAt_writeMbrSignature_frame, byteAt_writeLe32_frame,
      byteAt_writeChs_frame, Bytes.byteAt_set_ne, byteAt_writeBytes_frame, Bytes.byteAt_zeros]
  · exact writeMbrSignature_signature _
  · intro i hi
    simp (disch := omega) only [byteAt_writeMbrSignature_frame, byteAt_writeLe32_frame,
      byteAt_writeChs_frame, Bytes.byteAt_set_ne, byteAt_writeBytes_frame, Bytes.byteAt_zeros]

end Contents

/-- The MBR of every calculated layout that the gate accepts. -/
theorem buildMbr_contents {request : PartitionTableRequest} (hstyle : request.style = .mbr)
    (hlayout : request.layout = calculateGptLayout request.diskSize request.sectorSize)
    (haccepted : isWritablePartitionRequest request .english = .ok ()) :
    MbrContents (buildMbr request) request := by
  have hwritable := isWritablePartitionRequest_ok_iff.mp haccepted
  have hsupported := hwritable.layout.supported
  refine buildMbr_contents_of_blocks (blockFacts hlayout hsupported hwritable.layout.length)
    hsupported ?_ (hwritable.signature (by rw [hstyle]; decide))
  exact UInt64.le_iff_toNat_le.mp (hwritable.layout.addressable hstyle)

/-- An MBR for the layout of an 8 MiB stick. -/
theorem buildMbr_contents_small :
    ∃ request : PartitionTableRequest, request.diskSize = 8388608 ∧
      MbrContents (buildMbr request) request :=
  ⟨{ style := .mbr, diskSize := 8388608, layout := ⟨1048576, 6291456⟩,
     diskGuid := Bytes.zeros 16 }, rfl, buildMbr_contents rfl rfl rfl⟩

/-- The marker also stands for a block it could address: on sectors of 1024 bytes a partition of
16064 MiB ends with the last block of cylinder 1023, whose own address is the marker. -/
theorem buildMbr_marker_within_reach :
    ∃ request : PartitionTableRequest, request.style = .mbr ∧
      request.layout = calculateGptLayout request.diskSize request.sectorSize ∧
      isWritablePartitionRequest request .english = .ok () ∧
      IsChsMarker (buildMbr request) 451 ∧
      chsCylinder ((request.layout.startOffset.toNat + request.layout.length.toNat) /
        request.sectorBytes - 1) = 1023 := by
  refine ⟨{ style := .mbr, diskSize := 16846422016, sectorSize := 1024,
            layout := ⟨1048576, 16844324864⟩, diskGuid := Bytes.zeros 16 }, rfl, rfl, rfl, ?_, ?_⟩
  · exact ⟨by decide +kernel, by decide +kernel, by decide +kernel⟩
  · decide +kernel

end UsbRestore
