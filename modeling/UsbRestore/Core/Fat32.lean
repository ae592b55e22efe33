-- SUMMARY: The FAT32 geometry: no arithmetic overflows, and the unit is the preferred one clamped to what is legal.
import Mathlib.Algebra.Order.Floor.Div
import UsbRestore.Base.Checked
import UsbRestore.Base.Search
import UsbRestore.Core.Geometry

/-!
# FAT32 geometry

The cluster count of a volume is the greatest one whose reserved sectors, FATs and clusters fit. It
falls as the allocation unit grows, so the units Windows accepts lie next to each other, and the
loop over the table clamps the preferred unit to them.
-/

namespace UsbRestore

/-! ## Checked arithmetic -/

/-- The required sectors of `fat32DataClusterCount`, with every intermediate value checked. -/
def fat32RequiredSectorsChecked (sectorSize sectorsPerCluster clusters : UInt64) :
    Option UInt64 := do
  let fatBytes ← Checked.mul (← Checked.add clusters 2) 4
  let fatSectors ← Checked.div (← Checked.sub (← Checked.add fatBytes sectorSize) 1) sectorSize
  Checked.add (← Checked.add 32 (← Checked.mul 2 fatSectors))
    (← Checked.mul clusters sectorsPerCluster)

/-- `fat32ClusterSearch` with every intermediate value checked; nothing where the rounds run out
before the loop ends. -/
def fat32ClusterSearchChecked (totalSectors sectorSize sectorsPerCluster : UInt64) :
    (rounds : Nat) → (low high : UInt64) → Option UInt64
  | 0, low, high => if low < high then none else some low
  | rounds + 1, low, high =>
    if low < high then do
      let clusters ← Checked.add low ((← Checked.add (← Checked.sub high low) 1) / 2)
      let requiredSectors ← fat32RequiredSectorsChecked sectorSize sectorsPerCluster clusters
      if requiredSectors ≤ totalSectors then
        fat32ClusterSearchChecked totalSectors sectorSize sectorsPerCluster rounds clusters high
      else
        let below ← Checked.sub clusters 1
        fat32ClusterSearchChecked totalSectors sectorSize sectorsPerCluster rounds low below
    else some low

/-- `fat32DataClusterCount` with every intermediate value checked. -/
def fat32DataClusterCountChecked (volumeSize : UInt64) (sectorSize allocationUnitSize : UInt32) :
    Option UInt64 :=
  if sectorSize = 0 ∨ allocationUnitSize < sectorSize ∨ allocationUnitSize % sectorSize ≠ 0 ∨
      volumeSize % sectorSize.toUInt64 ≠ 0 then some 0
  else do
    let totalSectors ← Checked.div volumeSize sectorSize.toUInt64
    if totalSectors ≤ 32 then some 0
    else
      let sectorsPerCluster := (allocationUnitSize / sectorSize).toUInt64
      let high ← Checked.div (← Checked.sub totalSectors 32) sectorsPerCluster
      fat32ClusterSearchChecked totalSectors sectorSize.toUInt64 sectorsPerCluster 64 0 high

/-- `fat32AllocationUnitSize` over the checked cluster count. -/
def fat32AllocationUnitSizeChecked (volumeSize : UInt64) (sectorSize : UInt32)
    (maximumVolumeSize : UInt64) : Option UInt32 :=
  if !isSupportedSectorSize sectorSize || volumeSize == 0 || maximumVolumeSize < volumeSize then
    some 0
  else
    let preferred := fat32PreferredUnit volumeSize
    fat32AllocationUnitSizes.foldlM (fun best allocationUnitSize =>
      if (64 * 1024 < allocationUnitSize ∧ sectorSize = 512) ∨ allocationUnitSize < sectorSize ∨
          allocationUnitSize % sectorSize ≠ 0 then some best
      else do
        let clusterCount ← fat32DataClusterCountChecked volumeSize sectorSize allocationUnitSize
        if clusterCount < 65527 ∨ 4177917 < clusterCount then some best
        else if best = 0 ∨ allocationUnitSize ≤ preferred then some allocationUnitSize
        else some best) 0

/-! ## The geometry over the numbers -/

/-- Sectors of a volume with `clusters` clusters: the reserved ones, two FATs and the clusters. -/
def fat32RequiredSectors (sectorSize sectorsPerCluster clusters : Nat) : Nat :=
  32 + 2 * ((4 * (clusters + 2)) ⌈/⌉ sectorSize) + clusters * sectorsPerCluster

theorem fat32RequiredSectors_eq (sectorSize sectorsPerCluster clusters : Nat) :
    fat32RequiredSectors sectorSize sectorsPerCluster clusters =
      32 + 2 * ((4 * (clusters + 2) + sectorSize - 1) / sectorSize) +
        clusters * sectorsPerCluster := by
  rw [fat32RequiredSectors, Nat.ceilDiv_eq_add_pred_div]

theorem fat32RequiredSectors_mono {sectorSize k k' c c' : Nat} (hk : k ≤ k') (hc : c ≤ c') :
    fat32RequiredSectors sectorSize k c ≤ fat32RequiredSectors sectorSize k' c' := by
  have hfats : (4 * (c + 2) + sectorSize - 1) / sectorSize ≤
      (4 * (c' + 2) + sectorSize - 1) / sectorSize := Nat.div_le_div_right (by omega)
  have hclusters : c * k ≤ c' * k' := Nat.mul_le_mul hc hk
  rw [fat32RequiredSectors_eq, fat32RequiredSectors_eq]
  omega

theorem antitone_fat32Fits (sectorSize k totalSectors : Nat) :
    Antitone fun c => fat32RequiredSectors sectorSize k c ≤ totalSectors :=
  fun _ _ hle h => Nat.le_trans (fat32RequiredSectors_mono (Nat.le_refl k) hle) h

/-! ## No overflow -/

/-- The words of one search: a supported sector size, and at most the sectors of a 64-bit volume. -/
structure SearchWords (totalSectors sectorSize sectorsPerCluster : UInt64) : Prop where
  sectorAtLeast : 512 ≤ sectorSize.toNat
  sectorAtMost : sectorSize.toNat ≤ 4096
  total : totalSectors.toNat ≤ 2 ^ 55
  cluster : 0 < sectorsPerCluster.toNat

variable {totalSectors sectorSize sectorsPerCluster low high clusters : UInt64}

/-- The cluster counts a search looks at: a full volume has no more. -/
theorem SearchWords.clusters_le (h : SearchWords totalSectors sectorSize sectorsPerCluster)
    (hclusters : clusters.toNat * sectorsPerCluster.toNat ≤ totalSectors.toNat) :
    clusters.toNat ≤ 2 ^ 55 :=
  (Nat.le_mul_of_pos_right _ h.cluster).trans (hclusters.trans h.total)

theorem fat32RequiredSectorsChecked_eq (h : SearchWords totalSectors sectorSize sectorsPerCluster)
    (hclusters : clusters.toNat * sectorsPerCluster.toNat ≤ totalSectors.toNat) :
    fat32RequiredSectorsChecked sectorSize sectorsPerCluster clusters =
      some (32 + 2 * (((clusters + 2) * 4 + sectorSize - 1) / sectorSize) +
        clusters * sectorsPerCluster) ∧
    (32 + 2 * (((clusters + 2) * 4 + sectorSize - 1) / sectorSize) +
        clusters * sectorsPerCluster).toNat =
      fat32RequiredSectors sectorSize.toNat sectorsPerCluster.toNat clusters.toNat := by
  have hbound := h.clusters_le hclusters
  have htotal := h.total
  have hatLeast := h.sectorAtLeast
  have hatMost := h.sectorAtMost
  have htwo : (clusters + 2).toNat = clusters.toNat + 2 := Checked.toNat_add (by simp; omega)
  have hbytes : ((clusters + 2) * 4).toNat = (clusters.toNat + 2) * 4 := by
    rw [Checked.toNat_mul (by rw [htwo]; simp; omega), htwo]
    rfl
  have hround : ((clusters + 2) * 4 + sectorSize).toNat =
      (clusters.toNat + 2) * 4 + sectorSize.toNat := by
    rw [Checked.toNat_add (by rw [hbytes]; omega), hbytes]
  have hless : ((clusters + 2) * 4 + sectorSize - 1).toNat =
      (clusters.toNat + 2) * 4 + sectorSize.toNat - 1 := by
    rw [Checked.toNat_sub (by rw [hround]; simp; omega), hround]
    rfl
  have hfat : (((clusters + 2) * 4 + sectorSize - 1) / sectorSize).toNat =
      ((clusters.toNat + 2) * 4 + sectorSize.toNat - 1) / sectorSize.toNat := by
    rw [UInt64.toNat_div, hless]
  have hfatBound : ((clusters.toNat + 2) * 4 + sectorSize.toNat - 1) / sectorSize.toNat ≤
      2 ^ 57 + 5000 := (Nat.div_le_self _ _).trans (by omega)
  have hdouble : (2 * (((clusters + 2) * 4 + sectorSize - 1) / sectorSize)).toNat =
      2 * (((clusters.toNat + 2) * 4 + sectorSize.toNat - 1) / sectorSize.toNat) := by
    rw [Checked.toNat_mul (by rw [hfat]; simp; omega), hfat]
    rfl
  have hreserved : (32 + 2 * (((clusters + 2) * 4 + sectorSize - 1) / sectorSize)).toNat =
      32 + 2 * (((clusters.toNat + 2) * 4 + sectorSize.toNat - 1) / sectorSize.toNat) := by
    rw [Checked.toNat_add (by rw [hdouble]; simp; omega), hdouble]
    rfl
  have hdata : (clusters * sectorsPerCluster).toNat =
      clusters.toNat * sectorsPerCluster.toNat := Checked.toNat_mul (by omega)
  have hsector : sectorSize ≠ 0 := by
    rintro rfl
    simp at hatLeast
  constructor
  · simp only [fat32RequiredSectorsChecked]
    rw [Checked.add_eq (by simp; omega), Option.bind_eq_bind, Option.bind_some]
    rw [Checked.mul_eq (by rw [htwo]; simp; omega), Option.bind_some]
    rw [Checked.add_eq (by rw [hbytes]; omega), Option.bind_some]
    rw [Checked.sub_eq (by rw [hround]; simp; omega), Option.bind_some]
    rw [Checked.div_eq hsector, Option.bind_some]
    rw [Checked.mul_eq (by rw [hfat]; simp; omega), Option.bind_some]
    rw [Checked.add_eq (by rw [hdouble]; simp; omega), Option.bind_some]
    rw [Checked.mul_eq (by omega), Option.bind_some]
    rw [Checked.add_eq (by rw [hreserved, hdata]; omega)]
  · rw [Checked.toNat_add (by rw [hreserved, hdata]; omega), hreserved, hdata,
      fat32RequiredSectors_eq, Nat.mul_comm 4]

/-- The middle of an interval that is not empty and far from the end of the words. -/
theorem middle_words (hlt : low < high) (hhigh : high.toNat ≤ 2 ^ 55) :
    Checked.sub high low = some (high - low) ∧
    Checked.add (high - low) 1 = some (high - low + 1) ∧
    Checked.add low ((high - low + 1) / 2) = some (low + (high - low + 1) / 2) ∧
    (low + (high - low + 1) / 2).toNat = low.toNat + (high.toNat - low.toNat + 1) / 2 := by
  have hltNat : low.toNat < high.toNat := UInt64.lt_iff_toNat_lt.mp hlt
  have hwidth : (high - low).toNat = high.toNat - low.toNat := Checked.toNat_sub (by omega)
  have hfits : (high - low).toNat + (1 : UInt64).toNat < 2 ^ 64 := by
    rw [hwidth]
    simp
    omega
  have hround : (high - low + 1).toNat = high.toNat - low.toNat + 1 := by
    rw [Checked.toNat_add hfits, hwidth]
    rfl
  have hhalf : ((high - low + 1) / 2).toNat = (high.toNat - low.toNat + 1) / 2 := by
    rw [UInt64.toNat_div, hround]
    rfl
  have hmiddle : low.toNat + ((high - low + 1) / 2).toNat < 2 ^ 64 := by
    rw [hhalf]
    omega
  refine ⟨Checked.sub_eq (by omega), Checked.add_eq hfits, Checked.add_eq hmiddle, ?_⟩
  rw [Checked.toNat_add hmiddle, hhalf]

/-- The search goes through without overflow within its rounds, and is the bisection over the
numbers. -/
theorem fat32ClusterSearch_eq (h : SearchWords totalSectors sectorSize sectorsPerCluster)
    {rounds : Nat} (hhigh : high.toNat * sectorsPerCluster.toNat ≤ totalSectors.toNat) {c : Nat}
    (hfound : Search.bisect
      (fun c => fat32RequiredSectors sectorSize.toNat sectorsPerCluster.toNat c ≤
        totalSectors.toNat) rounds low.toNat high.toNat = some c) :
    fat32ClusterSearchChecked totalSectors sectorSize sectorsPerCluster rounds low high =
        some (fat32ClusterSearch totalSectors sectorSize sectorsPerCluster rounds low high) ∧
      (fat32ClusterSearch totalSectors sectorSize sectorsPerCluster rounds low high).toNat = c := by
  induction rounds generalizing low high with
  | zero =>
    by_cases hlt : low < high
    · simp [Search.bisect, UInt64.lt_iff_toNat_lt.mp hlt] at hfound
    · have hnot : ¬low.toNat < high.toNat := fun h => hlt (UInt64.lt_iff_toNat_lt.mpr h)
      simp only [Search.bisect, if_neg hnot, Option.some.injEq] at hfound
      simp [fat32ClusterSearchChecked, fat32ClusterSearch, hlt, hfound]
  | succ rounds ih =>
    by_cases hlt : low < high
    · have hltNat : low.toNat < high.toNat := UInt64.lt_iff_toNat_lt.mp hlt
      obtain ⟨hwidth, hround, hadd, hmiddle⟩ := middle_words hlt (h.clusters_le hhigh)
      have hmiddleFits : (low + (high - low + 1) / 2).toNat * sectorsPerCluster.toNat ≤
          totalSectors.toNat := (Nat.mul_le_mul_right _ (by omega)).trans hhigh
      obtain ⟨hchecked, hrequired⟩ := fat32RequiredSectorsChecked_eq h hmiddleFits
      simp only [Search.bisect, if_pos hltNat, ← hmiddle, ← hrequired,
        ← UInt64.le_iff_toNat_le] at hfound
      simp only [fat32ClusterSearchChecked, fat32ClusterSearch, if_pos hlt, hwidth, hround, hadd,
        hchecked, Option.bind_eq_bind, Option.bind_some]
      split at hfound
      next hfits =>
        rw [if_pos hfits, if_pos hfits]
        exact ih hhigh hfound
      next hfits =>
        have hone : (1 : UInt64).toNat ≤ (low + (high - low + 1) / 2).toNat := by
          rw [hmiddle]
          simp
          omega
        have hbelow : (low + (high - low + 1) / 2 - 1).toNat =
            (low + (high - low + 1) / 2).toNat - 1 := Checked.toNat_sub hone
        rw [if_neg hfits, if_neg hfits, Checked.sub_eq hone, Option.bind_some]
        refine ih ?_ (hbelow ▸ hfound)
        exact (Nat.mul_le_mul_right _ (hbelow ▸ Nat.sub_le _ _)).trans hmiddleFits
    · have hnot : ¬low.toNat < high.toNat := fun h => hlt (UInt64.lt_iff_toNat_lt.mpr h)
      simp only [Search.bisect, if_neg hnot, Option.some.injEq] at hfound
      simp [fat32ClusterSearchChecked, fat32ClusterSearch, hlt, hfound]

/-- `count` is the greatest number with the property, or zero where no number has it. -/
def IsGreatestOrZero (p : Nat → Prop) (count : Nat) : Prop :=
  IsGreatest {c | p c} count ∨ count = 0 ∧ ∀ c, ¬p c

/-- What fits leaves room for the reserved sectors and a sector of each FAT. -/
theorem fat32RequiredSectors_room {sectorSize : Nat} (hpos : 0 < sectorSize) (k c : Nat) :
    34 + c * k ≤ fat32RequiredSectors sectorSize k c := by
  have hfat : 0 < (4 * (c + 2) + sectorSize - 1) / sectorSize := Nat.div_pos (by omega) hpos
  rw [fat32RequiredSectors_eq]
  omega

/-- The search over the whole volume: its first bound leaves out no count that fits. -/
theorem fat32ClusterSearch_spec (h : SearchWords totalSectors sectorSize sectorsPerCluster)
    (hlarge : 32 < totalSectors.toNat) :
    fat32ClusterSearchChecked totalSectors sectorSize sectorsPerCluster 64 0
        ((totalSectors - 32) / sectorsPerCluster) =
      some (fat32ClusterSearch totalSectors sectorSize sectorsPerCluster 64 0
        ((totalSectors - 32) / sectorsPerCluster)) ∧
    IsGreatestOrZero (fun c => fat32RequiredSectors sectorSize.toNat sectorsPerCluster.toNat c ≤
        totalSectors.toNat)
      (fat32ClusterSearch totalSectors sectorSize sectorsPerCluster 64 0
        ((totalSectors - 32) / sectorsPerCluster)).toNat := by
  have hpos : 0 < sectorSize.toNat := Nat.lt_of_lt_of_le (by decide) h.sectorAtLeast
  have hhigh : ((totalSectors - 32) / sectorsPerCluster).toNat =
      (totalSectors.toNat - 32) / sectorsPerCluster.toNat := by
    rw [UInt64.toNat_div, Checked.toNat_sub (by simpa using hlarge.le)]
    rfl
  have hfull : ((totalSectors - 32) / sectorsPerCluster).toNat * sectorsPerCluster.toNat ≤
      totalSectors.toNat := by
    rw [hhigh]
    exact (Nat.div_mul_le_self _ _).trans (Nat.sub_le _ _)
  have hanti := antitone_fat32Fits sectorSize.toNat sectorsPerCluster.toNat totalSectors.toNat
  have hbisect : Search.bisect
      (fun c => fat32RequiredSectors sectorSize.toNat sectorsPerCluster.toNat c ≤
        totalSectors.toNat) 64 (0 : UInt64).toNat
      ((totalSectors - 32) / sectorsPerCluster).toNat = _ :=
    Search.bisect_eq_findGreatest hanti (Nat.zero_le _) (fun h => absurd rfl h)
      ((Nat.sub_le _ _).trans_lt (UInt64.toNat_lt _))
  obtain ⟨hchecked, hcount⟩ := fat32ClusterSearch_eq h hfull hbisect
  refine ⟨hchecked, ?_⟩
  rw [hcount]
  refine Search.isGreatest_findGreatest hanti fun c hfits => ?_
  have hroom := (fat32RequiredSectors_room hpos sectorsPerCluster.toNat c).trans hfits
  rw [hhigh, Nat.le_div_iff_mul_le h.cluster]
  omega

/-! ## The cluster count -/

/-- `clusters` clusters of `allocationUnitSize` bytes fit on the volume. -/
def Fat32Fits (volumeSize : UInt64) (sectorSize allocationUnitSize : UInt32)
    (clusters : Nat) : Prop :=
  fat32RequiredSectors sectorSize.toNat (allocationUnitSize.toNat / sectorSize.toNat) clusters ≤
    volumeSize.toNat / sectorSize.toNat

/-- A volume that is a whole number of sectors, and a unit that is one too. -/
structure WholeSectors (volumeSize : UInt64) (sectorSize allocationUnitSize : UInt32) : Prop where
  volume : volumeSize % sectorSize.toUInt64 = 0
  atLeast : sectorSize ≤ allocationUnitSize
  unit : allocationUnitSize % sectorSize = 0

section Count

variable {volumeSize : UInt64} {sectorSize allocationUnitSize : UInt32}

theorem sectorSize_bounds (h : isSupportedSectorSize sectorSize = true) :
    512 ≤ sectorSize.toNat ∧ sectorSize.toNat ≤ 4096 := by
  rcases isSupportedSectorSize_cases h with rfl | rfl | rfl | rfl <;> decide

theorem sectorSize_ne_zero (h : isSupportedSectorSize sectorSize = true) :
    sectorSize ≠ 0 ∧ sectorSize.toUInt64 ≠ 0 := by
  rcases isSupportedSectorSize_cases h with rfl | rfl | rfl | rfl <;> decide

theorem totalSectors_toNat : (volumeSize / sectorSize.toUInt64).toNat =
    volumeSize.toNat / sectorSize.toNat := by
  rw [UInt64.toNat_div, UInt32.toNat_toUInt64]

theorem sectorsPerCluster_toNat : (allocationUnitSize / sectorSize).toUInt64.toNat =
    allocationUnitSize.toNat / sectorSize.toNat := by
  rw [UInt32.toNat_toUInt64, UInt32.toNat_div]

/-- The words of the search that `fat32DataClusterCount` starts. -/
theorem searchWords (hsupported : isSupportedSectorSize sectorSize = true)
    (h : WholeSectors volumeSize sectorSize allocationUnitSize) :
    SearchWords (volumeSize / sectorSize.toUInt64) sectorSize.toUInt64
      (allocationUnitSize / sectorSize).toUInt64 := by
  obtain ⟨hatLeast, hatMost⟩ := sectorSize_bounds hsupported
  refine ⟨by simpa using hatLeast, by simpa using hatMost, ?_, ?_⟩
  · rw [totalSectors_toNat]
    have hvolume := volumeSize.toNat_lt
    exact (Nat.div_le_div_left hatLeast (by decide)).trans (by omega)
  · rw [sectorsPerCluster_toNat]
    exact Nat.div_pos (UInt32.le_iff_toNat_le.mp h.atLeast) (by omega)

/-- The guard of `fat32DataClusterCount` lets whole sectors through. -/
theorem not_guard_iff (hsupported : isSupportedSectorSize sectorSize = true) :
    ¬(sectorSize = 0 ∨ allocationUnitSize < sectorSize ∨ allocationUnitSize % sectorSize ≠ 0 ∨
      volumeSize % sectorSize.toUInt64 ≠ 0) ↔
    WholeSectors volumeSize sectorSize allocationUnitSize := by
  simp only [not_or, not_not, UInt32.not_lt]
  constructor
  · rintro ⟨_, hatLeast, hunit, hvolume⟩
    exact ⟨hvolume, hatLeast, hunit⟩
  · intro h
    exact ⟨(sectorSize_ne_zero hsupported).1, h.atLeast, h.unit, h.volume⟩

/-- The count goes through without overflow, whatever the unit. -/
theorem fat32DataClusterCount_spec (volumeSize : UInt64) (allocationUnitSize : UInt32)
    (hsupported : isSupportedSectorSize sectorSize = true) :
    fat32DataClusterCountChecked volumeSize sectorSize allocationUnitSize =
        some (fat32DataClusterCount volumeSize sectorSize allocationUnitSize) ∧
      (WholeSectors volumeSize sectorSize allocationUnitSize →
        IsGreatestOrZero (Fat32Fits volumeSize sectorSize allocationUnitSize)
          (fat32DataClusterCount volumeSize sectorSize allocationUnitSize).toNat) := by
  by_cases hguard : WholeSectors volumeSize sectorSize allocationUnitSize
  · have hwords := searchWords hsupported hguard
    have hcluster : (allocationUnitSize / sectorSize).toUInt64 ≠ 0 := fun hzero => by
      have hpositive := hwords.cluster
      simp [hzero] at hpositive
    simp only [fat32DataClusterCountChecked, fat32DataClusterCount,
      if_neg ((not_guard_iff hsupported).mpr hguard),
      Checked.div_eq (sectorSize_ne_zero hsupported).2, Option.bind_eq_bind, Option.bind_some]
    split
    next hsmall =>
      refine ⟨rfl, fun _ => .inr ⟨rfl, fun c hfits => ?_⟩⟩
      have hroom := (fat32RequiredSectors_room (c := c) (Nat.lt_of_lt_of_le (by decide)
        (sectorSize_bounds hsupported).1) (allocationUnitSize.toNat / sectorSize.toNat)).trans hfits
      have hfew := UInt64.le_iff_toNat_le.mp hsmall
      simp only [totalSectors_toNat, UInt64.reduceToNat] at hfew
      omega
    next hlarge =>
      have hmany : 32 < (volumeSize / sectorSize.toUInt64).toNat :=
        UInt64.lt_iff_toNat_lt.mp (UInt64.not_le.mp hlarge)
      obtain ⟨hchecked, hgreatest⟩ := fat32ClusterSearch_spec hwords hmany
      rw [Checked.sub_eq (by simpa using hmany.le), Option.bind_some, Checked.div_eq hcluster,
        Option.bind_some]
      refine ⟨hchecked, fun _ => ?_⟩
      unfold Fat32Fits
      simpa only [UInt32.toNat_toUInt64, UInt32.toNat_div, totalSectors_toNat] using hgreatest
  · have hskip := not_not.mp ((not_congr (not_guard_iff hsupported)).mpr hguard)
    simp only [fat32DataClusterCountChecked, fat32DataClusterCount, if_pos hskip]
    exact ⟨trivial, fun h => absurd h hguard⟩

end Count

/-! ## Legal units -/

/-- A unit of the table that Windows formats the volume with. -/
structure Fat32Legal (volumeSize : UInt64) (sectorSize unit : UInt32) : Prop where
  whole : unit % sectorSize = 0
  atLeast : sectorSize ≤ unit
  windows : sectorSize = 512 → unit ≤ 64 * 1024
  enough : 65527 ≤ (fat32DataClusterCount volumeSize sectorSize unit).toNat
  addressable : (fat32DataClusterCount volumeSize sectorSize unit).toNat ≤ 4177917

section Legal

variable {volumeSize maximumVolumeSize : UInt64} {sectorSize u₁ u₂ u₃ unit : UInt32}

local instance wordOrder : LinearOrder UInt32 where
  le_refl := UInt32.le_refl
  le_trans _ _ _ := UInt32.le_trans
  le_antisymm _ _ := UInt32.le_antisymm
  le_total := UInt32.le_total
  lt_iff_le_not_ge _ _ := by grind
  toDecidableLE := inferInstance
  toDecidableEq := inferInstance

/-- The two filters of the loop over the table. -/
theorem fat32Legal_iff : Fat32Legal volumeSize sectorSize unit ↔
    ¬((64 * 1024 < unit ∧ sectorSize = 512) ∨ unit < sectorSize ∨ unit % sectorSize ≠ 0) ∧
      ¬(fat32DataClusterCount volumeSize sectorSize unit < 65527 ∨
        4177917 < fat32DataClusterCount volumeSize sectorSize unit) := by
  simp only [not_or, not_and, not_not, UInt32.not_lt, UInt64.not_lt]
  constructor
  · intro h
    refine ⟨⟨fun hgt hsector => ?_, h.atLeast, h.whole⟩, ?_, ?_⟩
    · exact UInt32.not_lt.mpr (h.windows hsector) hgt
    · exact UInt64.le_iff_toNat_le.mpr h.enough
    · exact UInt64.le_iff_toNat_le.mpr h.addressable
  · rintro ⟨⟨hwindows, hatLeast, hwhole⟩, henough, haddressable⟩
    refine ⟨hwhole, hatLeast, fun hsector => ?_, ?_, ?_⟩
    · exact UInt32.not_lt.mp fun hgt => hwindows hgt hsector
    · exact UInt64.le_iff_toNat_le.mp henough
    · exact UInt64.le_iff_toNat_le.mp haddressable

instance : DecidablePred (Fat32Legal volumeSize sectorSize) :=
  fun _ => decidable_of_iff _ fat32Legal_iff.symm

theorem fat32AllocationUnitSizes_sorted : fat32AllocationUnitSizes.Pairwise (· < ·) := by decide

/-- The guards in front of the loop. -/
structure Fat32Acceptable (volumeSize maximumVolumeSize : UInt64) (sectorSize : UInt32) :
    Prop where
  supported : isSupportedSectorSize sectorSize = true
  some : volumeSize ≠ 0
  atMost : volumeSize ≤ maximumVolumeSize

/-- One round of the loop takes a legal unit, where it comes first or is not above the preferred
one. -/
theorem fat32Round_eq (preferred best unit : UInt32) :
    (if (64 * 1024 < unit ∧ sectorSize = 512) ∨ unit < sectorSize ∨ unit % sectorSize ≠ 0 then best
      else
        let clusterCount := fat32DataClusterCount volumeSize sectorSize unit
        if clusterCount < 65527 ∨ 4177917 < clusterCount then best
        else if best = 0 ∨ unit ≤ preferred then unit else best) =
      if Fat32Legal volumeSize sectorSize unit then
        if best = 0 ∨ unit ≤ preferred then unit else best
      else best := by
  by_cases hlegal : Fat32Legal volumeSize sectorSize unit
  · obtain ⟨hunit, hcount⟩ := fat32Legal_iff.mp hlegal
    simp only [if_pos hlegal, if_neg hunit, if_neg hcount]
  · rw [if_neg hlegal]
    split
    · rfl
    next hunit =>
      have hcount := not_not.mp fun hcount => hlegal (fat32Legal_iff.mpr ⟨hunit, hcount⟩)
      simp only [if_pos hcount]

/-- The loop over the table is one pass to the legal unit nearest to the preferred one. -/
theorem fat32AllocationUnitSize_eq_nearest
    (h : Fat32Acceptable volumeSize maximumVolumeSize sectorSize) :
    fat32AllocationUnitSize volumeSize sectorSize maximumVolumeSize =
      Search.nearest (Fat32Legal volumeSize sectorSize) (fat32PreferredUnit volumeSize) 0
        fat32AllocationUnitSizes := by
  unfold fat32AllocationUnitSize Search.nearest
  rw [if_neg (by simp [h.supported, h.some, UInt64.not_lt.mpr h.atMost])]
  exact congrArg (fun round => fat32AllocationUnitSizes.foldl round 0)
    (funext fun best => funext fun unit => fat32Round_eq _ best unit)

/-- Every round of the loop goes through without overflow, and so does the loop. -/
theorem fat32AllocationUnitSizeChecked_eq (volumeSize maximumVolumeSize : UInt64)
    (hsupported : isSupportedSectorSize sectorSize = true) :
    fat32AllocationUnitSizeChecked volumeSize sectorSize maximumVolumeSize =
      some (fat32AllocationUnitSize volumeSize sectorSize maximumVolumeSize) := by
  unfold fat32AllocationUnitSizeChecked fat32AllocationUnitSize
  split
  · rfl
  · simp only [(fat32DataClusterCount_spec volumeSize _ hsupported).1, Option.bind_eq_bind,
      Option.bind_some, ← apply_ite some]
    exact List.foldlM_pure

/-! ## The legal units lie next to each other -/

theorem IsGreatestOrZero.le {p q : Nat → Prop} {n m : Nat} (hn : IsGreatestOrZero p n)
    (hm : IsGreatestOrZero q m) (hpq : ∀ c, p c → q c) : n ≤ m := by
  rcases hn with hgreatest | ⟨rfl, _⟩
  · rcases hm with hbound | ⟨_, hnone⟩
    · exact hbound.2 (hpq n hgreatest.1)
    · exact absurd (hpq n hgreatest.1) (hnone n)
  · exact Nat.zero_le m

/-- A volume at least as large has room for as many clusters that are at most as large. -/
theorem fat32DataClusterCount_le {volumeSize' : UInt64}
    (hsupported : isSupportedSectorSize sectorSize = true)
    (hvolume : volumeSize ≤ volumeSize') (hunit : u₁ ≤ u₂)
    (hlarge : WholeSectors volumeSize sectorSize u₂)
    (hsmall : WholeSectors volumeSize' sectorSize u₁) :
    (fat32DataClusterCount volumeSize sectorSize u₂).toNat ≤
      (fat32DataClusterCount volumeSize' sectorSize u₁).toNat := by
  refine ((fat32DataClusterCount_spec volumeSize u₂ hsupported).2 hlarge).le
    ((fat32DataClusterCount_spec volumeSize' u₁ hsupported).2 hsmall) fun c hfits => ?_
  have hcluster : u₁.toNat / sectorSize.toNat ≤ u₂.toNat / sectorSize.toNat :=
    Nat.div_le_div_right (UInt32.le_iff_toNat_le.mp hunit)
  have htotal : volumeSize.toNat / sectorSize.toNat ≤ volumeSize'.toNat / sectorSize.toNat :=
    Nat.div_le_div_right (UInt64.le_iff_toNat_le.mp hvolume)
  exact (fat32RequiredSectors_mono hcluster (Nat.le_refl c)).trans (hfits.trans htotal)

/-- The table holds powers of two, as the sector sizes are. -/
theorem unit_mod_sectorSize (hsupported : isSupportedSectorSize sectorSize = true)
    (hmem : unit ∈ fat32AllocationUnitSizes) (hle : sectorSize ≤ unit) : unit % sectorSize = 0 := by
  have htable : (([512, 1024, 2048, 4096] : List UInt32).all fun s =>
      fat32AllocationUnitSizes.all fun u => decide (s ≤ u → u % s = 0)) = true := by
    decide
  have hsector : sectorSize ∈ ([512, 1024, 2048, 4096] : List UInt32) := by
    simpa using isSupportedSectorSize_cases hsupported
  have hunit := List.all_eq_true.mp (List.all_eq_true.mp htable sectorSize hsector) unit hmem
  exact of_decide_eq_true hunit hle

/-- A legal unit is counted on whole sectors: every other count is zero. -/
theorem Fat32Legal.wholeSectors (h : Fat32Legal volumeSize sectorSize unit) :
    WholeSectors volumeSize sectorSize unit := by
  refine ⟨?_, h.atLeast, h.whole⟩
  by_contra hvolume
  have henough := h.enough
  simp [fat32DataClusterCount, hvolume] at henough

/-- What lies between two legal units is legal, also where they are legal for different volumes: the
smaller one for a smaller volume or the same, the larger one for a larger volume or the same. -/
theorem Fat32Legal.between {smaller larger : UInt64}
    (hsupported : isSupportedSectorSize sectorSize = true)
    (hmem : unit ∈ fat32AllocationUnitSizes) (hle₁ : u₁ ≤ unit) (hle₂ : unit ≤ u₂)
    (hwhole : volumeSize % sectorSize.toUInt64 = 0)
    (h₁ : Fat32Legal larger sectorSize u₁) (h₂ : Fat32Legal smaller sectorSize u₂)
    (hlarger : volumeSize ≤ larger) (hsmaller : smaller ≤ volumeSize) :
    Fat32Legal volumeSize sectorSize unit := by
  have hatLeast : sectorSize ≤ unit := UInt32.le_trans h₁.atLeast hle₁
  have hunit := unit_mod_sectorSize hsupported hmem hatLeast
  have hsectors : WholeSectors volumeSize sectorSize unit := ⟨hwhole, hatLeast, hunit⟩
  refine ⟨hunit, hatLeast, fun h => UInt32.le_trans hle₂ (h₂.windows h), ?_, ?_⟩
  · exact h₂.enough.trans
      (fat32DataClusterCount_le hsupported hsmaller hle₂ h₂.wholeSectors hsectors)
  · exact (fat32DataClusterCount_le hsupported hlarger hle₁ hsectors h₁.wholeSectors).trans
      h₁.addressable

/-- The units of the table that are legal for the volume. -/
def fat32LegalUnits (volumeSize : UInt64) (sectorSize : UInt32) : Set UInt32 :=
  {unit | unit ∈ fat32AllocationUnitSizes ∧ Fat32Legal volumeSize sectorSize unit}

theorem fat32AllocationUnitSize_eq_zero_iff
    (h : Fat32Acceptable volumeSize maximumVolumeSize sectorSize) :
    fat32AllocationUnitSize volumeSize sectorSize maximumVolumeSize = 0 ↔
      ∀ unit ∈ fat32AllocationUnitSizes, ¬Fat32Legal volumeSize sectorSize unit := by
  rw [fat32AllocationUnitSize_eq_nearest h]
  exact Search.nearest_eq_missing_iff fat32AllocationUnitSizes_sorted (by decide)

theorem fat32Acceptable_of_ne_zero
    (hunit : fat32AllocationUnitSize volumeSize sectorSize maximumVolumeSize ≠ 0) :
    Fat32Acceptable volumeSize maximumVolumeSize sectorSize := by
  unfold fat32AllocationUnitSize at hunit
  split at hunit
  · exact absurd rfl hunit
  next hguard =>
    simp only [Bool.or_eq_true, Bool.not_eq_true', beq_iff_eq, decide_eq_true_eq, not_or,
      Bool.not_eq_false, UInt64.not_lt] at hguard
    exact ⟨hguard.1.1, hguard.1.2, hguard.2⟩

/-- The chosen unit is the preferred one, clamped to the legal ones. -/
theorem fat32AllocationUnitSize_isClamp
    (hunit : fat32AllocationUnitSize volumeSize sectorSize maximumVolumeSize ≠ 0) :
    Search.IsClamp (fat32LegalUnits volumeSize sectorSize) (fat32PreferredUnit volumeSize)
      (fat32AllocationUnitSize volumeSize sectorSize maximumVolumeSize) := by
  have hnearest := fat32AllocationUnitSize_eq_nearest (fat32Acceptable_of_ne_zero hunit)
  rw [hnearest] at hunit ⊢
  exact Search.nearest_isClamp fat32AllocationUnitSizes_sorted (by decide) hunit

end Legal

/-! ## The choice -/

/-- What the choice of a unit for a volume comes to. -/
structure Fat32Choice (volumeSize maximumVolumeSize : UInt64) (sectorSize : UInt32) : Prop where
  /-- No intermediate value overflows or underflows, and the search ends within its rounds. -/
  choiceChecked : fat32AllocationUnitSizeChecked volumeSize sectorSize maximumVolumeSize =
    some (fat32AllocationUnitSize volumeSize sectorSize maximumVolumeSize)
  countChecked : ∀ unit, fat32DataClusterCountChecked volumeSize sectorSize unit =
    some (fat32DataClusterCount volumeSize sectorSize unit)
  count : ∀ unit, WholeSectors volumeSize sectorSize unit →
    IsGreatestOrZero (Fat32Fits volumeSize sectorSize unit)
      (fat32DataClusterCount volumeSize sectorSize unit).toNat
  contiguous : ∀ u₁ ∈ fat32LegalUnits volumeSize sectorSize,
    ∀ u₃ ∈ fat32LegalUnits volumeSize sectorSize, ∀ u₂ ∈ fat32AllocationUnitSizes,
      u₁ ≤ u₂ → u₂ ≤ u₃ → u₂ ∈ fat32LegalUnits volumeSize sectorSize
  refused : fat32AllocationUnitSize volumeSize sectorSize maximumVolumeSize = 0 ↔
    volumeSize = 0 ∨ maximumVolumeSize < volumeSize ∨ volumeSize % sectorSize.toUInt64 ≠ 0 ∨
      fat32LegalUnits volumeSize sectorSize = ∅
  chosen : fat32AllocationUnitSize volumeSize sectorSize maximumVolumeSize ≠ 0 →
    Search.IsClamp (fat32LegalUnits volumeSize sectorSize) (fat32PreferredUnit volumeSize)
      (fat32AllocationUnitSize volumeSize sectorSize maximumVolumeSize)

/-- For every volume size, maximum and supported sector size. -/
theorem fat32AllocationUnitSize_clamps (volumeSize maximumVolumeSize : UInt64)
    (sectorSize : UInt32) (hsupported : isSupportedSectorSize sectorSize = true) :
    Fat32Choice volumeSize maximumVolumeSize sectorSize where
  choiceChecked := fat32AllocationUnitSizeChecked_eq volumeSize maximumVolumeSize hsupported
  countChecked unit := (fat32DataClusterCount_spec volumeSize unit hsupported).1
  count unit := (fat32DataClusterCount_spec volumeSize unit hsupported).2
  contiguous := by
    rintro u₁ ⟨_, h₁⟩ u₃ ⟨_, h₃⟩ u₂ hmem hle₁ hle₂
    refine ⟨hmem, ?_⟩
    exact h₁.between hsupported hmem hle₁ hle₂ h₁.wholeSectors.volume h₃ (UInt64.le_refl _)
      (UInt64.le_refl _)
  refused := by
    constructor
    · intro hzero
      by_cases haccept : Fat32Acceptable volumeSize maximumVolumeSize sectorSize
      · have hnone := (fat32AllocationUnitSize_eq_zero_iff haccept).mp hzero
        exact .inr (.inr (.inr (Set.eq_empty_of_forall_notMem fun u hu => hnone u hu.1 hu.2)))
      · by_cases hsome : volumeSize = 0
        · exact .inl hsome
        · refine .inr (.inl (UInt64.not_le.mp fun hle => haccept ?_))
          exact ⟨hsupported, hsome, hle⟩
    · intro hrefused
      by_contra hunit
      have haccept := fat32Acceptable_of_ne_zero hunit
      have hmem := (fat32AllocationUnitSize_isClamp hunit).mem
      rcases hrefused with hzero | hlarge | hodd | hnone
      · exact haccept.some hzero
      · exact UInt64.not_le.mpr hlarge haccept.atMost
      · exact hodd hmem.2.wholeSectors.volume
      · rw [hnone] at hmem
        exact hmem
  chosen := fat32AllocationUnitSize_isClamp

/-- A volume of 32 GiB on 512-byte sectors. -/
theorem fat32AllocationUnitSize_clamps_512 : Fat32Choice 34359738368 34359738368 512 :=
  fat32AllocationUnitSize_clamps 34359738368 34359738368 512 (by decide)

end UsbRestore
