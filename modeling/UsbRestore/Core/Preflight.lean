-- SUMMARY: The layout check before a restore accepts exactly what the write gate accepts.
import UsbRestore.Core.Geometry

/-!
# Preflight and write gate

`canCreatePartitionLayout` judges the layout in bytes before anything is touched;
`isWritablePartitionRequest` judges the same layout in sectors when the disk is about to be
erased. On calculated layouts they agree, and what they accept can be cleared and written.
-/

namespace UsbRestore

/-- Where the calculated partition lies, in sectors. -/
structure BlockFacts (request : PartitionTableRequest) : Prop where
  sector : SectorFacts request
  first : request.firstLba.toNat * request.sectorBytes = request.layout.startOffset.toNat
  start : request.layout.startOffset.toNat = 1048576
  endLba : request.endLba.toNat * request.sectorBytes =
    request.layout.startOffset.toNat + request.layout.length.toNat
  afterArray : 2 + request.arraySectors ≤ request.firstLba.toNat
  nonempty : request.firstLba.toNat < request.endLba.toNat
  beforeBackup : request.endLba.toNat + request.arraySectors + 1 ≤ request.sectors
  aligned : request.layout.startOffset % request.sectorSize.toUInt64 = 0 ∧
    request.layout.length % request.sectorSize.toUInt64 = 0

theorem sector_dvd_oneMiB {request : PartitionTableRequest}
    (h : isSupportedSectorSize request.sectorSize = true) :
    request.sectorBytes ∣ 1048576 := by
  obtain hs | hs | hs | hs := isSupportedSectorSize_cases h <;>
    simp only [PartitionTableRequest.sectorBytes, hs] <;> decide

theorem blockFacts {request : PartitionTableRequest}
    (hlayout : request.layout = calculateGptLayout request.diskSize request.sectorSize)
    (hsupported : isSupportedSectorSize request.sectorSize = true)
    (hlength : request.layout.length ≠ 0) : BlockFacts request := by
  have hfacts := calculateGptLayout_facts (hlayout ▸ hlength)
  have hsector := sectorFacts hsupported
  obtain ⟨hstart, hlen, hone, hfits⟩ := hfacts
  rw [← hlayout] at hstart hlen hone hfits
  rw [supportedOr512_of_supported hsupported] at hlen hfits
  change _ + request.sectorBytes ≤ _ at hfits
  have hdisk := request.diskSize.toNat_lt
  have hsectorNat : request.sectorSize.toUInt64.toNat = request.sectorBytes :=
    UInt32.toNat_toUInt64 _
  obtain ⟨blocks, hblocks⟩ := sector_dvd_oneMiB hsupported
  obtain ⟨mebibytes, hmebibytes⟩ : 1048576 ∣ request.layout.length.toNat :=
    ⟨_, by rw [hlen, Nat.mul_comm]⟩
  have hsum : (request.layout.startOffset + request.layout.length).toNat =
      request.layout.startOffset.toNat + request.layout.length.toNat := by
    rw [UInt64.toNat_add]
    exact Nat.mod_eq_of_lt (by omega)
  have hfirst : request.firstLba.toNat * request.sectorBytes = 1048576 := by
    rw [UInt64.toNat_div, hsectorNat, hstart]
    exact Nat.div_mul_cancel (sector_dvd_oneMiB hsupported)
  have hlenDvd : request.sectorBytes ∣ request.layout.length.toNat :=
    Dvd.dvd.trans (sector_dvd_oneMiB hsupported) ⟨mebibytes, hmebibytes⟩
  have hend : request.endLba.toNat * request.sectorBytes =
      request.layout.startOffset.toNat + request.layout.length.toNat := by
    rw [UInt64.toNat_div, hsectorNat, hsum, hstart]
    exact Nat.div_mul_cancel ((Nat.dvd_add_right (sector_dvd_oneMiB hsupported)).mpr hlenDvd)
  have harray := hsector.array
  have hpos := hsector.pos
  have hle := hsector.le
  have hbefore : request.endLba.toNat + request.arraySectors + 1 ≤ request.sectors := by
    rw [PartitionTableRequest.sectors, Nat.le_div_iff_mul_le hpos, Nat.add_mul, Nat.add_mul, hend,
      harray]
    omega
  have hafter : 2 + request.arraySectors ≤ request.firstLba.toNat := by
    refine Nat.le_of_mul_le_mul_right ?_ hpos
    rw [hfirst, Nat.add_mul, harray]
    omega
  have hnonempty : request.firstLba.toNat < request.endLba.toNat := by
    refine Nat.lt_of_mul_lt_mul_right (a := request.sectorBytes) ?_
    rw [hfirst, hend]
    omega
  exact
    { sector := hsector
      first := by rw [hfirst, hstart]
      start := hstart
      endLba := hend
      afterArray := hafter
      nonempty := hnonempty
      beforeBackup := hbefore
      aligned := by
        constructor <;> rw [← UInt64.toNat_inj, UInt64.toNat_mod, hsectorNat]
        · rw [hstart]
          exact Nat.mod_eq_zero_of_dvd (sector_dvd_oneMiB hsupported)
        · exact Nat.mod_eq_zero_of_dvd hlenDvd }

/-- The sectors of a calculated partition leave room for both headers and both arrays. -/
theorem BlockFacts.fits {request : PartitionTableRequest} (h : BlockFacts request) :
    2 * request.arraySectors + 3 ≤ request.sectors := by
  have hafter := h.afterArray
  have hnonempty := h.nonempty
  have hbefore := h.beforeBackup
  omega

/-- A layout that preflight accepts passes the write gate. -/
theorem writableRequest_of_layoutAccepted {request : PartitionTableRequest}
    (hlayout : request.layout = calculateGptLayout request.diskSize request.sectorSize)
    (hdisk : request.diskGuid.size = 16) (hpartition : request.partitionGuid.size = 16)
    (h : LayoutAccepted request.style request.layout request.sectorSize) :
    WritableRequest request := by
  have hblocks := blockFacts hlayout h.supported h.length
  have hcount := sectorCount_toNat h.supported
  have hfits := (gptGeometry_fits_iff h.supported).mpr hblocks.fits
  have hgeometry := gptGeometry_facts h.supported hfits
  have hbefore := hblocks.beforeBackup
  have hone : (1 : UInt64).toNat = 1 := rfl
  have hlast : (request.endLba - 1).toNat = request.endLba.toNat - 1 := by
    have := hblocks.nonempty
    rw [UInt64.toNat_sub_of_le, hone]
    rw [UInt64.le_iff_toNat_le, hone]
    omega
  exact
    { layout := h
      aligned := hblocks.aligned
      within := by
        rw [ne_eq, ← UInt64.toNat_inj, UInt64.le_iff_toNat_le, hcount]
        exact ⟨by simp only [UInt64.toNat_zero]; omega, by omega⟩
      fits := fun _ => hfits
      identifiers := fun _ => ⟨hdisk, hpartition⟩
      usable := fun _ => by
        rw [UInt64.le_iff_toNat_le, UInt64.le_iff_toNat_le, hlast, hgeometry.firstUsableLba,
          hgeometry.lastUsableLba]
        exact ⟨hblocks.afterArray, by omega⟩
      signature := fun _ => by omega }

/-- Preflight and write gate give one verdict on every calculated layout. -/
theorem canCreatePartitionLayout_iff_isWritable {request : PartitionTableRequest}
    {disk : DiskInfo} (hsize : request.diskSize = disk.size)
    (hsector : request.sectorSize = disk.sectorSize)
    (hlayout : request.layout = calculateGptLayout disk.size disk.sectorSize)
    (hdisk : request.diskGuid.size = 16) (hpartition : request.partitionGuid.size = 16) :
    canCreatePartitionLayout request.style disk .english = .ok () ↔
      isWritablePartitionRequest request .english = .ok () := by
  rw [canCreatePartitionLayout_ok_iff, isWritablePartitionRequest_ok_iff, ← hlayout, ← hsector]
  rw [← hsize, ← hsector] at hlayout
  exact ⟨writableRequest_of_layoutAccepted hlayout hdisk hpartition, fun h => h.layout⟩

end UsbRestore
