-- SUMMARY: Which requests the write gate rightly accepts: all but those whose end wraps and MBR partitions in sector 0.
import UsbRestore.Core.Geometry

/-!
# Soundness of the write gate

The gate adds the start and the length of the partition in 64 bits. Where the sum wraps it compares
a small number with the end of the disk, and for an MBR nothing keeps the partition off the sector
the table itself is in. Everything else it accepts is a partition that lies where it should.
-/

namespace UsbRestore

namespace PartitionTableRequest

/-- First byte of the partition and the byte after its last, as numbers. -/
def startByte (request : PartitionTableRequest) : Nat := request.layout.startOffset.toNat

def endByte (request : PartitionTableRequest) : Nat :=
  request.layout.startOffset.toNat + request.layout.length.toNat

/-- The end of the partition as the code computes it. -/
def wrappedEnd (request : PartitionTableRequest) : Nat := request.endByte % 2 ^ 64

def Holds (request : PartitionTableRequest) (byte : Nat) : Prop :=
  request.startByte ≤ byte ∧ byte < request.endByte

/-- `byte` lies in the `count` sectors from `lba` on. -/
def InSectors (request : PartitionTableRequest) (lba count byte : Nat) : Prop :=
  lba * request.sectorBytes ≤ byte ∧ byte < (lba + count) * request.sectorBytes

end PartitionTableRequest

open PartitionTableRequest

/-- A partition that lies where it should. -/
structure SoundRequest (request : PartitionTableRequest) : Prop where
  start : request.sectorBytes ∣ request.layout.startOffset.toNat
  length : request.sectorBytes ∣ request.layout.length.toNat
  nonempty : 0 < request.layout.length.toNat
  within : request.layout.startOffset.toNat + request.layout.length.toNat ≤
    request.sectors * request.sectorBytes
  gpt : request.style = .gpt → ∀ byte, request.Holds byte →
    ¬request.InSectors 0 2 byte ∧ ¬request.InSectors 2 request.arraySectors byte ∧
      ¬request.InSectors (request.sectors - 1 - request.arraySectors) request.arraySectors byte ∧
      ¬request.InSectors (request.sectors - 1) 1 byte
  mbr : request.style = .mbr →
    (∀ byte, request.Holds byte → ¬request.InSectors 0 1 byte) ∧
      request.firstLba.toNat < 2 ^ 32 ∧
      (request.layout.length / request.sectorSize.toUInt64).toNat < 2 ^ 32 ∧
      min request.firstLba MbrMaxSectors = request.firstLba ∧
      min (request.layout.length / request.sectorSize.toUInt64) MbrMaxSectors =
        request.layout.length / request.sectorSize.toUInt64

/-- What the gate overlooks. -/
def Misplaced (request : PartitionTableRequest) : Prop :=
  2 ^ 64 ≤ request.layout.startOffset.toNat + request.layout.length.toNat ∨
    request.style = .mbr ∧ request.layout.startOffset = 0

/-! ## Sectors and bytes -/

section Accepted

variable {request : PartitionTableRequest}

theorem sectorSize_toNat : request.sectorSize.toUInt64.toNat = request.sectorBytes :=
  UInt32.toNat_toUInt64 _

/-- A sector divides the range of the counters, so that a sum that wraps keeps its alignment. -/
theorem sectorBytes_dvd_pow (h : isSupportedSectorSize request.sectorSize = true) :
    request.sectorBytes ∣ 2 ^ 64 := by
  obtain hs | hs | hs | hs := isSupportedSectorSize_cases h <;>
    simp only [PartitionTableRequest.sectorBytes, hs] <;> decide

theorem dvd_iff_mod_eq_zero {bytes : UInt64} :
    bytes % request.sectorSize.toUInt64 = 0 ↔ request.sectorBytes ∣ bytes.toNat := by
  rw [← UInt64.toNat_inj, UInt64.toNat_mod, sectorSize_toNat]
  exact (Nat.dvd_iff_mod_eq_zero).symm

/-- The sum of the source is the one that wraps. -/
theorem wrappedEnd_eq :
    (request.layout.startOffset + request.layout.length).toNat = request.wrappedEnd :=
  UInt64.toNat_add _ _

/-- Whole sectors stay whole where the sum wraps. -/
theorem sectorBytes_dvd_wrappedEnd (h : isSupportedSectorSize request.sectorSize = true)
    (hstart : request.sectorBytes ∣ request.layout.startOffset.toNat)
    (hlength : request.sectorBytes ∣ request.layout.length.toNat) :
    request.sectorBytes ∣ request.wrappedEnd :=
  (Nat.dvd_mod_iff (sectorBytes_dvd_pow h)).mpr ((Nat.dvd_add_right hstart).mpr hlength)

theorem endLba_mul (hdvd : request.sectorBytes ∣ request.wrappedEnd) :
    request.endLba.toNat * request.sectorBytes = request.wrappedEnd := by
  rw [PartitionTableRequest.endLba, UInt64.toNat_div, wrappedEnd_eq, sectorSize_toNat]
  exact Nat.div_mul_cancel hdvd

theorem endLba_le_iff (hpos : 0 < request.sectorBytes)
    (hdvd : request.sectorBytes ∣ request.wrappedEnd) (sectors : Nat) :
    request.endLba.toNat ≤ sectors ↔ request.wrappedEnd ≤ sectors * request.sectorBytes := by
  rw [← endLba_mul hdvd]
  exact (Nat.mul_le_mul_right_iff hpos).symm

theorem firstLba_mul (hdvd : request.sectorBytes ∣ request.layout.startOffset.toNat) :
    request.firstLba.toNat * request.sectorBytes = request.layout.startOffset.toNat := by
  rw [PartitionTableRequest.firstLba, UInt64.toNat_div, sectorSize_toNat]
  exact Nat.div_mul_cancel hdvd

theorem sectors_mul_le : request.sectors * request.sectorBytes ≤ request.diskSize.toNat :=
  Nat.div_mul_le_self _ _

/-- The usable range of a GPT in bytes. A wrapped end of zero has no last block and is refused. -/
theorem usable_iff (hsupported : isSupportedSectorSize request.sectorSize = true)
    (hfits : (gptGeometry request).fits = true)
    (hstart : request.sectorBytes ∣ request.layout.startOffset.toNat)
    (hdvd : request.sectorBytes ∣ request.wrappedEnd) :
    ((gptGeometry request).firstUsableLba ≤ request.firstLba ∧
      request.endLba - 1 ≤ (gptGeometry request).lastUsableLba) ↔
    (2 + request.arraySectors) * request.sectorBytes ≤ request.startByte ∧
      0 < request.wrappedEnd ∧
      request.wrappedEnd + (request.arraySectors + 1) * request.sectorBytes ≤
        request.sectors * request.sectorBytes := by
  have hsector := sectorFacts hsupported
  have hgeometry := gptGeometry_facts hsupported hfits
  have hroom := hgeometry.sectors
  have hcount := sectorCount_toNat hsupported
  have hcountMax := (sectorCount request).toNat_lt
  have hend := endLba_mul hdvd
  rw [UInt64.le_iff_toNat_le, UInt64.le_iff_toNat_le, hgeometry.firstUsableLba,
    hgeometry.lastUsableLba, startByte, ← firstLba_mul hstart,
    Nat.mul_le_mul_right_iff hsector.pos, ← hend, ← Nat.add_mul,
    Nat.mul_le_mul_right_iff hsector.pos]
  refine and_congr_right fun _ => ?_
  by_cases hzero : request.endLba = 0
  · have hlast : (request.endLba - 1).toNat = 2 ^ 64 - 1 := by rw [hzero]; rfl
    have hnone : request.endLba.toNat = 0 := by rw [hzero]; rfl
    rw [hlast, hnone]
    omega
  · have hpos : 0 < request.endLba.toNat :=
      Nat.pos_of_ne_zero fun h => hzero (UInt64.toNat_inj.mp h)
    have hlast : (request.endLba - 1).toNat = request.endLba.toNat - 1 :=
      UInt64.toNat_sub_of_le _ _ (UInt64.le_iff_toNat_le.mpr hpos)
    have hbytes : 0 < request.endLba.toNat * request.sectorBytes := Nat.mul_pos hpos hsector.pos
    rw [hlast]
    omega

/-- The address limit of an MBR in bytes. -/
theorem addressable_iff (hpos : 0 < request.sectorBytes)
    (hdvd : request.sectorBytes ∣ request.wrappedEnd) :
    request.endLba ≤ 0xFFFFFFFF ↔ request.wrappedEnd ≤ 0xFFFFFFFF * request.sectorBytes := by
  rw [UInt64.le_iff_toNat_le]
  exact endLba_le_iff hpos hdvd 0xFFFFFFFF

/-! ## What the gate accepts -/

/-- The conditions of the gate over the numbers. -/
structure GateAccepts (request : PartitionTableRequest) : Prop where
  supported : isSupportedSectorSize request.sectorSize = true
  start : request.sectorBytes ∣ request.layout.startOffset.toNat
  length : request.sectorBytes ∣ request.layout.length.toNat
  nonempty : 0 < request.layout.length.toNat
  sectors : 0 < request.sectors
  within : request.wrappedEnd ≤ request.sectors * request.sectorBytes
  style : request.style = .mbr ∧ request.wrappedEnd ≤ 0xFFFFFFFF * request.sectorBytes ∧
      4 ≤ request.diskGuid.size ∨
    request.style = .gpt ∧ 2 * request.arraySectors + 3 ≤ request.sectors ∧
      request.diskGuid.size = 16 ∧ request.partitionGuid.size = 16 ∧
      (2 + request.arraySectors) * request.sectorBytes ≤ request.startByte ∧
      0 < request.wrappedEnd ∧
      request.wrappedEnd + (request.arraySectors + 1) * request.sectorBytes ≤
        request.sectors * request.sectorBytes

/-- What the gate asks for, said about the naturals and the sum that wraps. -/
theorem writableRequest_iff : WritableRequest request ↔ GateAccepts request := by
  constructor
  · intro h
    have hsupported := h.layout.supported
    have hpos := (sectorFacts hsupported).pos
    have hstart := dvd_iff_mod_eq_zero.mp h.aligned.1
    have hlength := dvd_iff_mod_eq_zero.mp h.aligned.2
    have hdvd := sectorBytes_dvd_wrappedEnd hsupported hstart hlength
    have hcount := sectorCount_toNat hsupported
    refine ⟨hsupported, hstart, hlength, ?_, ?_, ?_, ?_⟩
    · exact Nat.pos_of_ne_zero fun hzero => h.layout.length (UInt64.toNat_inj.mp hzero)
    · rw [← hcount]
      exact Nat.pos_of_ne_zero fun hzero => h.within.1 (UInt64.toNat_inj.mp hzero)
    · rw [← endLba_le_iff hpos hdvd, ← hcount]
      exact UInt64.le_iff_toNat_le.mp h.within.2
    · rcases h.layout.chosen with hmbr | hgpt
      · refine .inl ⟨hmbr, (addressable_iff hpos hdvd).mp (h.layout.addressable hmbr), ?_⟩
        exact h.signature (by rw [hmbr]; decide)
      · have hfits := h.fits hgpt
        exact .inr ⟨hgpt, (gptGeometry_fits_iff hsupported).mp hfits, (h.identifiers hgpt).1,
          (h.identifiers hgpt).2, (usable_iff hsupported hfits hstart hdvd).mp (h.usable hgpt)⟩
  · rintro ⟨hsupported, hstart, hlength, hnonempty, hsectors, hwithin, hstyle⟩
    have hpos := (sectorFacts hsupported).pos
    have hdvd := sectorBytes_dvd_wrappedEnd hsupported hstart hlength
    have hcount := sectorCount_toNat hsupported
    have hnotZero : request.layout.length ≠ 0 := by
      rintro hzero
      rw [hzero] at hnonempty
      exact absurd hnonempty (by decide)
    have hsome : sectorCount request ≠ 0 := by
      intro hzero
      rw [← hcount, hzero] at hsectors
      exact absurd hsectors (by decide)
    have hend : request.endLba ≤ sectorCount request := by
      rw [UInt64.le_iff_toNat_le, hcount]
      exact (endLba_le_iff hpos hdvd _).mpr hwithin
    rcases hstyle with ⟨hmbr, haddress, hguid⟩ | ⟨hgpt, hfits, hdisk, hpartition, husable⟩
    · have hnotGpt : request.style ≠ .gpt := by rw [hmbr]; decide
      exact
        { layout := ⟨hsupported, hnotZero, .inl hmbr, fun _ => (addressable_iff hpos hdvd).mpr haddress⟩
          aligned := ⟨dvd_iff_mod_eq_zero.mpr hstart, dvd_iff_mod_eq_zero.mpr hlength⟩
          within := ⟨hsome, hend⟩
          fits := fun hgpt => absurd hgpt hnotGpt
          identifiers := fun hgpt => absurd hgpt hnotGpt
          usable := fun hgpt => absurd hgpt hnotGpt
          signature := fun _ => hguid }
    · have hnotMbr : request.style ≠ .mbr := by rw [hgpt]; decide
      have hfits := (gptGeometry_fits_iff hsupported).mpr hfits
      exact
        { layout := ⟨hsupported, hnotZero, .inr hgpt, fun hmbr => absurd hmbr hnotMbr⟩
          aligned := ⟨dvd_iff_mod_eq_zero.mpr hstart, dvd_iff_mod_eq_zero.mpr hlength⟩
          within := ⟨hsome, hend⟩
          fits := fun _ => hfits
          identifiers := fun _ => ⟨hdisk, hpartition⟩
          usable := fun _ => (usable_iff hsupported hfits hstart hdvd).mpr husable
          signature := fun hne => absurd hgpt hne }

/-! ## What of it is sound -/

/-- A request that the gate accepts and whose layout is not misplaced is sound: its sectors are
whole, on the disk and clear of the tables. -/
theorem soundRequest_of_placed (h : GateAccepts request) (hplaced : ¬Misplaced request) :
    SoundRequest request := by
  obtain ⟨hsupported, hstart, hlength, hnonempty, hsectors, hwithin, hstyle⟩ := h
  obtain ⟨hnowrap, hnotTable⟩ := not_or.mp hplaced
  have hpos := (sectorFacts hsupported).pos
  have hend : request.wrappedEnd = request.endByte := Nat.mod_eq_of_lt (Nat.lt_of_not_le hnowrap)
  have hfirst := firstLba_mul hstart
  rw [hend] at hwithin
  refine ⟨hstart, hlength, hnonempty, hwithin, ?_, ?_⟩
  · rintro hgpt byte ⟨hlow, hhigh⟩
    rcases hstyle with ⟨hmbr, -⟩ | ⟨-, hfits, -, -, hafter, -, hbefore⟩
    · rw [hmbr] at hgpt
      cases hgpt
    rw [hend] at hbefore
    have hbackup : (request.sectors - 1 - request.arraySectors) * request.sectorBytes +
        (request.arraySectors + 1) * request.sectorBytes =
          request.sectors * request.sectorBytes := by
      rw [← Nat.add_mul]
      exact congrArg (· * request.sectorBytes) (by omega)
    have hlast : (request.sectors - 1 - request.arraySectors) * request.sectorBytes ≤
        (request.sectors - 1) * request.sectorBytes :=
      Nat.mul_le_mul_right _ (Nat.sub_le _ _)
    have htable : 2 * request.sectorBytes ≤ (2 + request.arraySectors) * request.sectorBytes :=
      Nat.mul_le_mul_right _ (Nat.le_add_right _ _)
    unfold InSectors
    refine ⟨?_, ?_, ?_, ?_⟩
    · rintro ⟨-, hin⟩
      omega
    · rintro ⟨-, hin⟩
      omega
    · rintro ⟨hin, -⟩
      omega
    · rintro ⟨hin, -⟩
      omega
  · intro hmbr
    rcases hstyle with ⟨-, haddress, -⟩ | ⟨hgpt, -⟩
    case inr =>
      rw [hmbr] at hgpt
      cases hgpt
    rw [hend] at haddress
    have hstartPos : 0 < request.layout.startOffset.toNat :=
      Nat.pos_of_ne_zero fun hzero => hnotTable ⟨hmbr, UInt64.toNat_inj.mp hzero⟩
    have hsector : request.sectorBytes ≤ request.layout.startOffset.toNat :=
      Nat.le_of_dvd hstartPos hstart
    have hmax : MbrMaxSectors.toNat = 0xFFFFFFFF := rfl
    have hfirstMax : request.firstLba.toNat ≤ 0xFFFFFFFF := by
      rw [← Nat.mul_le_mul_right_iff hpos, hfirst]
      exact Nat.le_trans (Nat.le_add_right _ _) haddress
    have hspanMax : (request.layout.length / request.sectorSize.toUInt64).toNat ≤ 0xFFFFFFFF := by
      rw [← Nat.mul_le_mul_right_iff hpos, UInt64.toNat_div, sectorSize_toNat,
        Nat.div_mul_cancel hlength]
      exact Nat.le_trans (Nat.le_add_left _ _) haddress
    refine ⟨?_, Nat.lt_of_le_of_lt hfirstMax (by decide), Nat.lt_of_le_of_lt hspanMax (by decide),
      ?_, ?_⟩
    · rintro byte ⟨hlow, -⟩ ⟨-, hin⟩
      rw [Nat.zero_add, Nat.one_mul] at hin
      exact absurd (Nat.lt_of_le_of_lt hlow hin) (Nat.not_lt.mpr hsector)
    · exact if_pos (UInt64.le_iff_toNat_le.mpr (hmax ▸ hfirstMax))
    · exact if_pos (UInt64.le_iff_toNat_le.mpr (hmax ▸ hspanMax))

/-- A misplaced layout lies on the tables or beyond the end of the disk, so that the request is not
sound. -/
theorem not_soundRequest_of_misplaced (hsupported : isSupportedSectorSize request.sectorSize = true)
    (h : Misplaced request) : ¬SoundRequest request := by
  intro hsound
  rcases h with hwrap | ⟨hmbr, hzero⟩
  · have hdisk := request.diskSize.toNat_lt
    exact absurd (Nat.le_trans hwrap (Nat.le_trans hsound.within sectors_mul_le))
      (Nat.not_le.mpr hdisk)
  · have hnone : request.layout.startOffset.toNat = 0 := by rw [hzero]; rfl
    have hnonempty := hsound.nonempty
    refine (hsound.mbr hmbr).1 0 ⟨?_, ?_⟩ ⟨?_, ?_⟩
    · exact Nat.le_of_eq hnone
    · exact Nat.lt_of_lt_of_le hnonempty (Nat.le_add_left _ _)
    · exact Nat.le_of_eq (Nat.zero_mul _)
    · rw [Nat.zero_add, Nat.one_mul]
      exact (sectorFacts hsupported).pos

end Accepted

/-- Requests that pass every check of the gate and are misplaced all the same. -/
def SlipsThrough (request : PartitionTableRequest) : Prop :=
  GateAccepts request ∧ Misplaced request

/-- What the gate accepts is sound except for the requests that slip through. -/
theorem isWritablePartitionRequest_sound_iff (request : PartitionTableRequest) :
    ((isWritablePartitionRequest request .english = .ok () → SoundRequest request) ↔
      ¬SlipsThrough request) ∧
    (isWritablePartitionRequest request .english = .ok () →
      (SoundRequest request ↔ ¬Misplaced request)) := by
  rw [isWritablePartitionRequest_ok_iff, writableRequest_iff]
  have hsound : GateAccepts request → (SoundRequest request ↔ ¬Misplaced request) := by
    intro haccepts
    refine ⟨fun hsound hmisplaced => ?_, soundRequest_of_placed haccepts⟩
    exact not_soundRequest_of_misplaced haccepts.supported hmisplaced hsound
  refine ⟨⟨?_, ?_⟩, hsound⟩
  · rintro h ⟨haccepts, hmisplaced⟩
    exact (hsound haccepts).mp (h haccepts) hmisplaced
  · intro hslips haccepts
    exact (hsound haccepts).mpr fun hmisplaced => hslips ⟨haccepts, hmisplaced⟩

/-- Two sectors, the last one below 2⁶⁴ and the first of the disk, pass as one partition of an 8 MiB
disk; and so does an MBR partition that starts with the table. -/
theorem isWritablePartitionRequest_unsound :
    ∃ wrapping atTable : PartitionTableRequest,
      isWritablePartitionRequest wrapping .english = .ok () ∧ ¬SoundRequest wrapping ∧
      isWritablePartitionRequest atTable .english = .ok () ∧ ¬SoundRequest atTable := by
  refine ⟨{ style := .mbr, diskSize := 8388608, layout := ⟨18446744073709551104, 1024⟩,
            diskGuid := Bytes.zeros 16 },
    { style := .mbr, diskSize := 8388608, layout := ⟨0, 512⟩, diskGuid := Bytes.zeros 16 },
    rfl, ?_, rfl, ?_⟩
  · exact not_soundRequest_of_misplaced rfl (.inl (by decide))
  · exact not_soundRequest_of_misplaced rfl (.inr ⟨rfl, rfl⟩)

end UsbRestore
