-- SUMMARY: Which ranges may be zeroed, and the two ends of a disk that are.
import UsbRestore.Base.Checked
import UsbRestore.Base.Zeroing
import UsbRestore.Core.Geometry

/-!
# Ranges to zero

A range is zeroed in whole sectors or not at all. The two ranges at the ends of a disk always are
whole sectors of the disk, and lie apart.
-/

namespace UsbRestore

/-- Whole sectors. -/
def SectorAligned (offset bytes : UInt64) (sectorSize : UInt32) : Prop :=
  sectorSize.toNat ∣ offset.toNat ∧ sectorSize.toNat ∣ bytes.toNat

theorem unalignedZeroRangeError_isEmpty_iff {offset bytes : UInt64} {sectorSize : UInt32}
    (hsupported : isSupportedSectorSize sectorSize = true) :
    (unalignedZeroRangeError offset bytes sectorSize .english).isEmpty = true ↔
      SectorAligned offset bytes sectorSize := by
  have hmod : ∀ value : UInt64, value % sectorSize.toUInt64 = 0 ↔ sectorSize.toNat ∣ value.toNat := by
    intro value
    rw [← UInt64.toNat_inj, UInt64.toNat_mod, UInt32.toNat_toUInt64, Nat.dvd_iff_mod_eq_zero]
    rfl
  rw [List.isEmpty_iff]
  simp only [unalignedZeroRangeError, supportedOr512_of_supported hsupported, hmod]
  constructor
  · intro hempty
    split at hempty
    · next haligned => exact haligned
    · exact absurd hempty (arg_ne_nil_of_space (by decide) _)
  · exact fun haligned => if_pos haligned

/-! ## The ends of a disk -/

/-- The ranges are whole sectors of the disk, one at each end. -/
structure ClearRangeFits (diskSize : UInt64) (clear : SignatureClearRange) : Prop where
  supported : isSupportedSectorSize clear.sectorSize = true
  head : SectorAligned 0 clear.bytes clear.sectorSize
  tail : SectorAligned clear.tailOffset clear.bytes clear.sectorSize
  inside : clear.tailOffset.toNat + clear.bytes.toNat ≤ diskSize.toNat
  apart : clear.bytes.toNat ≤ clear.tailOffset.toNat

theorem toNat_roundDown (value : UInt64) (sectorSize : UInt32) :
    (value / sectorSize.toUInt64 * sectorSize.toUInt64).toNat =
      value.toNat / sectorSize.toNat * sectorSize.toNat := by
  have hle : value.toNat / sectorSize.toNat * sectorSize.toNat ≤ value.toNat :=
    Nat.div_mul_le_self _ _
  rw [UInt64.toNat_mul, UInt64.toNat_div, UInt32.toNat_toUInt64, Nat.mod_eq_of_lt]
  exact Nat.lt_of_le_of_lt hle value.toNat_lt

theorem signatureClearRange_fits {diskSize : UInt64} {sectorSize : UInt32}
    (hpos : (signatureClearRange diskSize sectorSize).bytes ≠ 0) :
    ClearRangeFits diskSize (signatureClearRange diskSize sectorSize) := by
  generalize hclear : signatureClearRange diskSize sectorSize = clear at hpos ⊢
  have hsector : clear.sectorSize = supportedOr512 sectorSize := by
    subst hclear
    rfl
  obtain ⟨limit, hlimit, hbytes⟩ : ∃ limit : UInt64, limit.toNat ≤ diskSize.toNat / 4 ∧
      clear.bytes = limit / clear.sectorSize.toUInt64 * clear.sectorSize.toUInt64 := by
    subst hclear
    refine ⟨_, ?_, rfl⟩
    have hquarter : (diskSize / 4).toNat = diskSize.toNat / 4 := UInt64.toNat_div _ _
    split
    · exact Nat.le_of_eq hquarter
    · next hless =>
      rw [UInt64.lt_iff_toNat_lt, hquarter] at hless
      exact Nat.le_of_not_lt hless
  have htail : clear.tailOffset =
      (diskSize - clear.bytes) / clear.sectorSize.toUInt64 * clear.sectorSize.toUInt64 := by
    subst hclear
    exact if_pos (UInt64.pos_iff_ne_zero.mpr hpos)
  have hsupported : isSupportedSectorSize clear.sectorSize = true := by
    rw [hsector]
    exact isSupportedSectorSize_supportedOr512 sectorSize
  have hbytes' : clear.bytes.toNat =
      limit.toNat / clear.sectorSize.toNat * clear.sectorSize.toNat := by
    conv_lhs => rw [hbytes]
    exact toNat_roundDown limit clear.sectorSize
  have hquarter : clear.bytes.toNat ≤ diskSize.toNat / 4 := by
    rw [hbytes']
    exact Nat.le_trans (Nat.div_mul_le_self _ _) hlimit
  have htail' : clear.tailOffset.toNat =
      (diskSize.toNat - clear.bytes.toNat) / clear.sectorSize.toNat * clear.sectorSize.toNat := by
    rw [htail, toNat_roundDown, Checked.toNat_sub (by omega)]
  have hdvd : clear.sectorSize.toNat ∣ clear.bytes.toNat := ⟨_, by rw [hbytes', Nat.mul_comm]⟩
  refine ⟨hsupported, ⟨Nat.dvd_zero _, hdvd⟩, ⟨⟨_, by rw [htail', Nat.mul_comm]⟩, hdvd⟩, ?_, ?_⟩
  · have := Nat.div_mul_le_self (diskSize.toNat - clear.bytes.toNat) clear.sectorSize.toNat
    omega
  · -- The tail starts less than a sector below the last `bytes` bytes, and a range is a sector long.
    have hsectorPos : 0 < clear.sectorSize.toNat := by
      rcases isSupportedSectorSize_cases hsupported with h | h | h | h <;> rw [h] <;> decide
    have hwhole := Nat.div_add_mod (diskSize.toNat - clear.bytes.toNat) clear.sectorSize.toNat
    have hrest := Nat.mod_lt (diskSize.toNat - clear.bytes.toNat) hsectorPos
    have hsectorLe : clear.sectorSize.toNat ≤ clear.bytes.toNat := by
      refine Nat.le_of_dvd (Nat.pos_of_ne_zero fun hzero => hpos (UInt64.toNat_inj.mp hzero)) hdvd
    rw [htail']
    rw [Nat.mul_comm] at hwhole
    omega

/-- What a clearing of both ends leaves: both zeroed where it returns, and where it fails some first
part of the first, or all of it and some first part of the second. -/
def SignaturesCleared {ε : Type} (image : Bytes) (clear : SignatureClearRange) :
    Except ε Unit → Bytes → Prop
  | .ok (), image' =>
    image' = (image.clear 0 clear.bytes.toNat).clear clear.tailOffset.toNat clear.bytes.toNat
  | .error e, image' =>
    image.Zeroed 0 clear.bytes.toNat (.error e) image' ∨
      (image.clear 0 clear.bytes.toNat).Zeroed clear.tailOffset.toNat clear.bytes.toNat (.error e)
        image'

end UsbRestore
