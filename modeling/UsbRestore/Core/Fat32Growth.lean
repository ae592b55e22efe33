-- SUMMARY: Which volumes Windows can format as FAT32, and that a larger volume gets no smaller unit.
import UsbRestore.Core.Fat32

/-!
# The range of FAT32 volumes

The legal windows of a unit and of the next larger one overlap, so there is no gap between the
smallest volume Windows formats and the largest one.
-/

namespace UsbRestore

def MaximumWindowsFat32VolumeBytes : UInt64 := 32 * 1024 * 1024 * 1024

def windowsFat32AllocationUnitSize (disk : DiskInfo) : UInt32 :=
  let layout := calculateGptLayout disk.size disk.sectorSize
  fat32AllocationUnitSize layout.length disk.sectorSize MaximumWindowsFat32VolumeBytes

variable {volumeSize maximumVolumeSize : UInt64} {sectorSize unit : UInt32}

/-! ## The smallest volume -/

/-- The smallest volume holds the fewest clusters Windows accepts, of one sector each. -/
def minimumFat32Sectors (sectorSize : UInt32) : Nat :=
  32 + 2 * ((4 * 65529) ⌈/⌉ sectorSize.toNat) + 65527

theorem minimumFat32Sectors_eq (sectorSize : UInt32) :
    minimumFat32Sectors sectorSize = fat32RequiredSectors sectorSize.toNat 1 65527 := rfl

theorem IsGreatestOrZero.le_iff {p : Nat → Prop} (hp : Antitone p) {n count : Nat} (hpos : 0 < n)
    (h : IsGreatestOrZero p count) : n ≤ count ↔ p n := by
  rcases h with hgreatest | ⟨rfl, hnone⟩
  · exact ⟨fun hle => hp hle hgreatest.1, fun hn => hgreatest.2 hn⟩
  · exact iff_of_false (Nat.not_le.mpr hpos) (hnone n)

theorem le_fat32DataClusterCount_iff (hsupported : isSupportedSectorSize sectorSize = true)
    (hwhole : WholeSectors volumeSize sectorSize unit) {clusters : Nat} (hpos : 0 < clusters) :
    clusters ≤ (fat32DataClusterCount volumeSize sectorSize unit).toNat ↔
      Fat32Fits volumeSize sectorSize unit clusters :=
  ((fat32DataClusterCount_spec volumeSize unit hsupported).2 hwhole).le_iff
    (antitone_fat32Fits _ _ _) hpos

/-- A legal unit needs at least the sectors of the smallest volume. -/
theorem Fat32Legal.minimum_le (hsupported : isSupportedSectorSize sectorSize = true)
    (h : Fat32Legal volumeSize sectorSize unit) :
    minimumFat32Sectors sectorSize ≤ volumeSize.toNat / sectorSize.toNat := by
  have hfits := (le_fat32DataClusterCount_iff hsupported h.wholeSectors (by decide)).mp h.enough
  have hcluster : 1 ≤ unit.toNat / sectorSize.toNat :=
    Nat.div_pos (UInt32.le_iff_toNat_le.mp h.atLeast)
      (Nat.lt_of_lt_of_le (by decide) (sectorSize_bounds hsupported).1)
  rw [minimumFat32Sectors_eq]
  exact (fat32RequiredSectors_mono hcluster (Nat.le_refl _)).trans hfits

/-! ## No gap -/

/-- The units of the table from the sector size up to 64 KiB, by the sectors of a cluster. -/
def unitOfSectors (sectorSize : UInt32) (j : Nat) : UInt32 :=
  UInt32.ofNat (sectorSize.toNat * 2 ^ j)

structure UnitOfSectors (sectorSize : UInt32) (j : Nat) : Prop where
  mem : unitOfSectors sectorSize j ∈ fat32AllocationUnitSizes
  atLeast : sectorSize ≤ unitOfSectors sectorSize j
  whole : unitOfSectors sectorSize j % sectorSize = 0
  atMost : unitOfSectors sectorSize j ≤ 64 * 1024
  cluster : (unitOfSectors sectorSize j).toNat / sectorSize.toNat = 2 ^ j

theorem unitOfSectors_spec (hsupported : isSupportedSectorSize sectorSize = true) {j : Nat}
    (hj : sectorSize.toNat * 2 ^ j ≤ 65536) : UnitOfSectors sectorSize j := by
  have htable : (([512, 1024, 2048, 4096] : List UInt32).all fun s => decide (∀ j < 8,
      s.toNat * 2 ^ j ≤ 65536 → unitOfSectors s j ∈ fat32AllocationUnitSizes ∧
        s ≤ unitOfSectors s j ∧ unitOfSectors s j % s = 0 ∧ unitOfSectors s j ≤ 64 * 1024 ∧
        (unitOfSectors s j).toNat / s.toNat = 2 ^ j)) = true := by
    decide
  have hsize : sectorSize ∈ ([512, 1024, 2048, 4096] : List UInt32) := by
    simpa using isSupportedSectorSize_cases hsupported
  have hsector := (sectorSize_bounds hsupported).1
  have hfew : j < 8 := by
    by_contra hge
    have hpow : 2 ^ 8 ≤ 2 ^ j := Nat.pow_le_pow_right (by decide) (Nat.le_of_not_lt hge)
    have := Nat.mul_le_mul hsector hpow
    omega
  obtain ⟨hmem, hatLeast, hwhole, hatMost, hcluster⟩ :=
    of_decide_eq_true (List.all_eq_true.mp htable sectorSize hsize) j hfew hj
  exact ⟨hmem, hatLeast, hwhole, hatMost, hcluster⟩

/-- A unit with enough clusters that is not legal has so many that the next one has enough, too. -/
theorem enough_double {total k : Nat} (s : Nat)
    (h : fat32RequiredSectors s k 4177918 ≤ total) :
    fat32RequiredSectors s (k * 2) 65527 ≤ total := by
  have hfats : (4 * (65527 + 2) + s - 1) / s ≤ (4 * (4177918 + 2) + s - 1) / s :=
    Nat.div_le_div_right (by omega)
  rw [fat32RequiredSectors_eq] at h ⊢
  omega

section Gap

variable (hsupported : isSupportedSectorSize sectorSize = true)
  (hvolume : volumeSize % sectorSize.toUInt64 = 0)

include hsupported hvolume

/-- With no legal unit, every unit up to 64 KiB has too many clusters. -/
theorem tooMany_of_none (hminimum : minimumFat32Sectors sectorSize ≤
      volumeSize.toNat / sectorSize.toNat)
    (hnone : ∀ u ∈ fat32AllocationUnitSizes, ¬Fat32Legal volumeSize sectorSize u) {j : Nat}
    (hj : sectorSize.toNat * 2 ^ j ≤ 65536) :
    fat32RequiredSectors sectorSize.toNat (2 ^ j) 4177918 ≤
      volumeSize.toNat / sectorSize.toNat := by
  have hstep (i : Nat) (hi : sectorSize.toNat * 2 ^ i ≤ 65536)
      (henough : fat32RequiredSectors sectorSize.toNat (2 ^ i) 65527 ≤
        volumeSize.toNat / sectorSize.toNat) :
      fat32RequiredSectors sectorSize.toNat (2 ^ i) 4177918 ≤
        volumeSize.toNat / sectorSize.toNat := by
    have hunit := unitOfSectors_spec hsupported hi
    have hwhole : WholeSectors volumeSize sectorSize (unitOfSectors sectorSize i) :=
      ⟨hvolume, hunit.atLeast, hunit.whole⟩
    have hcount {c : Nat} (hpos : 0 < c) := le_fat32DataClusterCount_iff hsupported hwhole hpos
    simp only [Fat32Fits, hunit.cluster] at hcount
    by_contra hfew
    refine hnone _ hunit.mem ⟨hunit.whole, hunit.atLeast, fun _ => hunit.atMost,
      (hcount (by decide)).mpr henough, ?_⟩
    exact Nat.le_of_lt_succ (Nat.lt_of_not_le fun h => hfew ((hcount (by decide)).mp h))
  induction j with
  | zero => exact hstep 0 hj hminimum
  | succ j ih =>
    have hsmaller : sectorSize.toNat * 2 ^ j ≤ 65536 :=
      (Nat.mul_le_mul_left _ (Nat.pow_le_pow_right (by decide) (Nat.le_succ j))).trans hj
    exact hstep (j + 1) hj (enough_double _ (ih hsmaller))

/-- A unit of 64 KiB never has too many clusters on 32 GiB. -/
theorem exists_legal (hlarge : volumeSize ≤ MaximumWindowsFat32VolumeBytes)
    (hminimum : minimumFat32Sectors sectorSize ≤ volumeSize.toNat / sectorSize.toNat) :
    ∃ u ∈ fat32AllocationUnitSizes, Fat32Legal volumeSize sectorSize u := by
  by_contra hnone
  have hunits : ∃ j, sectorSize.toNat * 2 ^ j = 65536 := by
    rcases isSupportedSectorSize_cases hsupported with rfl | rfl | rfl | rfl
    exacts [⟨7, rfl⟩, ⟨6, rfl⟩, ⟨5, rfl⟩, ⟨4, rfl⟩]
  obtain ⟨j, hj⟩ := hunits
  have hmany := tooMany_of_none hsupported hvolume hminimum
    (fun u hu hlegal => hnone ⟨u, hu, hlegal⟩) (Nat.le_of_eq hj)
  have hroom := (fat32RequiredSectors_room (Nat.lt_of_lt_of_le (by decide)
    (sectorSize_bounds hsupported).1) (2 ^ j) 4177918).trans hmany
  have hbytes : sectorSize.toNat * (4177918 * 2 ^ j) ≤ volumeSize.toNat :=
    (Nat.mul_le_mul_left _ (by omega)).trans (Nat.mul_div_le _ _)
  rw [Nat.mul_left_comm, hj] at hbytes
  have hmaximum := UInt64.le_iff_toNat_le.mp hlarge
  have hthirtyTwo : MaximumWindowsFat32VolumeBytes.toNat = 34359738368 := rfl
  omega

/-- No gap between the smallest volume and 32 GiB. -/
theorem fat32AllocationUnitSize_ne_zero_iff (hlarge : volumeSize ≤ MaximumWindowsFat32VolumeBytes) :
    fat32AllocationUnitSize volumeSize sectorSize MaximumWindowsFat32VolumeBytes ≠ 0 ↔
      sectorSize.toNat * minimumFat32Sectors sectorSize ≤ volumeSize.toNat := by
  have hpos : 0 < sectorSize.toNat :=
    Nat.lt_of_lt_of_le (by decide) (sectorSize_bounds hsupported).1
  rw [Nat.mul_comm, ← Nat.le_div_iff_mul_le hpos]
  constructor
  · intro hunit
    exact (fat32AllocationUnitSize_isClamp hunit).mem.2.minimum_le hsupported
  · intro hminimum hzero
    have hsome : volumeSize ≠ 0 := by
      rintro rfl
      simp [minimumFat32Sectors] at hminimum
    obtain ⟨u, hmem, hlegal⟩ := exists_legal hsupported hvolume hlarge hminimum
    exact (fat32AllocationUnitSize_eq_zero_iff ⟨hsupported, hsome, hlarge⟩).mp hzero u hmem hlegal

end Gap

/-! ## Growth -/

/-- A ladder of bounds whose values grow. -/
theorem ladder_mono {v w : UInt64} (hle : v ≤ w) {bound : UInt64} {x y z : UInt32} (hstep : x ≤ z)
    (hrest : y ≤ z) : (if v ≤ bound then x else y) ≤ if w ≤ bound then x else z := by
  by_cases hw : w ≤ bound
  · rw [if_pos hw, if_pos (UInt64.le_trans hle hw)]
    exact UInt32.le_refl x
  · rw [if_neg hw]
    split
    · exact hstep
    · exact hrest

theorem fat32PreferredUnit_mono {v w : UInt64} (hle : v ≤ w) :
    fat32PreferredUnit v ≤ fat32PreferredUnit w := by
  unfold fat32PreferredUnit
  refine ladder_mono hle ?_ <| ladder_mono hle ?_ <| ladder_mono hle ?_ <| ladder_mono hle ?_ <|
    ladder_mono hle ?_ <| ladder_mono hle ?_ (UInt32.le_refl _)
  all_goals (repeat' split) <;> decide

/-- Both units are legal for both volumes if the smaller volume gets the larger unit. -/
theorem fat32AllocationUnitSize_mono (hsupported : isSupportedSectorSize sectorSize = true)
    {v w : UInt64} (hv : v % sectorSize.toUInt64 = 0) (hw : w % sectorSize.toUInt64 = 0)
    (hle : v ≤ w) (hvunit : fat32AllocationUnitSize v sectorSize maximumVolumeSize ≠ 0)
    (hwunit : fat32AllocationUnitSize w sectorSize maximumVolumeSize ≠ 0) :
    fat32AllocationUnitSize v sectorSize maximumVolumeSize ≤
      fat32AllocationUnitSize w sectorSize maximumVolumeSize := by
  have hvclamp := fat32AllocationUnitSize_isClamp hvunit
  have hwclamp := fat32AllocationUnitSize_isClamp hwunit
  obtain ⟨hvmem, hvlegal⟩ := hvclamp.mem
  obtain ⟨hwmem, hwlegal⟩ := hwclamp.mem
  let _ : LinearOrder UInt32 := wordOrder
  refine hvclamp.mono hwclamp (fat32PreferredUnit_mono hle) fun hlt => ⟨⟨hvmem, ?_⟩, hwmem, ?_⟩
  · exact hwlegal.between hsupported hvmem (UInt32.le_of_lt hlt) (UInt32.le_refl _) hw hvlegal
      (UInt64.le_refl _) hle
  · exact hwlegal.between hsupported hwmem (UInt32.le_refl _) (UInt32.le_of_lt hlt) hv hvlegal
      hle (UInt64.le_refl _)

/-- For every supported sector size: the volumes Windows formats, and how their units grow. -/
theorem fat32AllocationUnitSize_threshold (sectorSize : UInt32)
    (hsupported : isSupportedSectorSize sectorSize = true) :
    (∀ volumeSize : UInt64, volumeSize % sectorSize.toUInt64 = 0 →
      volumeSize ≤ MaximumWindowsFat32VolumeBytes →
      (fat32AllocationUnitSize volumeSize sectorSize MaximumWindowsFat32VolumeBytes ≠ 0 ↔
        sectorSize.toNat * (32 + 2 * ((4 * 65529) ⌈/⌉ sectorSize.toNat) + 65527) ≤
          volumeSize.toNat)) ∧
    ∀ maximumVolumeSize v w : UInt64, v % sectorSize.toUInt64 = 0 →
      w % sectorSize.toUInt64 = 0 → v ≤ w →
      fat32AllocationUnitSize v sectorSize maximumVolumeSize ≠ 0 →
      fat32AllocationUnitSize w sectorSize maximumVolumeSize ≠ 0 →
      fat32AllocationUnitSize v sectorSize maximumVolumeSize ≤
        fat32AllocationUnitSize w sectorSize maximumVolumeSize :=
  ⟨fun _ hvolume hlarge => fat32AllocationUnitSize_ne_zero_iff hsupported hvolume hlarge,
    fun _ _ _ hv hw hle => fat32AllocationUnitSize_mono hsupported hv hw hle⟩

/-- The smallest volume on 512-byte sectors. -/
theorem fat32AllocationUnitSize_threshold_512 :
    fat32AllocationUnitSize 34090496 512 MaximumWindowsFat32VolumeBytes ≠ 0 :=
  ((fat32AllocationUnitSize_threshold 512 (by decide)).1 34090496 (by decide) (by decide)).mpr
    (by decide)

/-- The partition of a disk ends on a whole mebibyte. -/
theorem layoutLength_mod_sectorSize (diskSize : UInt64)
    (hsupported : isSupportedSectorSize sectorSize = true) :
    (calculateGptLayout diskSize sectorSize).length % sectorSize.toUInt64 = 0 := by
  have hdvd : sectorSize.toNat ∣ 1048576 := by
    rcases isSupportedSectorSize_cases hsupported with rfl | rfl | rfl | rfl <;> decide
  rw [← UInt64.toNat_inj, UInt64.toNat_mod, UInt32.toNat_toUInt64]
  rcases Nat.lt_or_ge (1064960 + 2 * (supportedOr512 sectorSize).toNat) diskSize.toNat with
    hlarge | hsmall
  · rw [calculateGptLayout_of_large hlarge]
    exact Nat.mod_eq_zero_of_dvd (Nat.dvd_mul_left_of_dvd hdvd _)
  · rw [calculateGptLayout_of_small hsmall]
    exact Nat.zero_mod _

/-- The volume of every disk lies on whole sectors, so the threshold decides it. -/
theorem windowsFat32AllocationUnitSize_ne_zero_iff (disk : DiskInfo)
    (hsupported : isSupportedSectorSize disk.sectorSize = true) :
    windowsFat32AllocationUnitSize disk ≠ 0 ↔
      (calculateGptLayout disk.size disk.sectorSize).length ≤ MaximumWindowsFat32VolumeBytes ∧
        disk.sectorSize.toNat * minimumFat32Sectors disk.sectorSize ≤
          (calculateGptLayout disk.size disk.sectorSize).length.toNat := by
  have hvolume := layoutLength_mod_sectorSize disk.size hsupported
  constructor
  · intro hunit
    have haccept := fat32Acceptable_of_ne_zero hunit
    refine ⟨haccept.atMost, ?_⟩
    exact (fat32AllocationUnitSize_ne_zero_iff hsupported hvolume haccept.atMost).mp hunit
  · rintro ⟨hlarge, hminimum⟩
    exact (fat32AllocationUnitSize_ne_zero_iff hsupported hvolume hlarge).mpr hminimum

end UsbRestore
