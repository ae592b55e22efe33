-- SUMMARY: What the target checks accept, as conditions on the disks.
import UsbRestore.Core.Safety

/-!
# Accepted targets

Each check accepts exactly the disks that meet the conditions of a structure, whichever
language its refusals are asked for.
-/

namespace UsbRestore

/-- A chain of refusals accepts where no condition of it holds. -/
theorem ite_error_ok_iff {ε α : Type} {c : Prop} [Decidable c] {refusal : ε}
    {rest : Except ε α} {a : α} :
    (if c then Except.error refusal else rest) = .ok a ↔ ¬c ∧ rest = .ok a := by
  by_cases h : c
  · simp [h]
  · simp [h]

theorem isOk_iff {ε : Type} {verdict : Except ε Unit} :
    verdict.isOk = true ↔ verdict = .ok () := by
  cases verdict with
  | ok _ => simp [Except.isOk, Except.toBool]
  | error _ => simp [Except.isOk, Except.toBool]

theorem isSameDeviceSequence_ok_iff {device : QString} {expected current : Option UInt64}
    {mode : TextMode} :
    isSameDeviceSequence device expected current mode = .ok () ↔
      ∃ sequence, sequence ≠ 0 ∧ expected = some sequence ∧ current = some sequence := by
  unfold isSameDeviceSequence isSameDeviceSequence.refuse
  split
  · next e c =>
    constructor
    · intro h
      split at h
      · next hsame => exact ⟨e, hsame.1, rfl, by rw [hsame.2]⟩
      · cases h
    · rintro ⟨sequence, hne, ⟨⟩, ⟨⟩⟩
      exact if_pos ⟨hne, rfl⟩
  · next hnone =>
    constructor
    · intro h
      cases h
    · rintro ⟨sequence, _, rfl, rfl⟩
      exact (hnone sequence sequence rfl rfl).elim

section Targets

variable [Host]

/-- The conditions of `isSafeRestoreTarget`. -/
structure SafeTarget (disk : DiskInfo) (guard : RestoreGuard) : Prop where
  named : disk.deviceId.trimmed.isEmpty = false
  usb : disk.busType = UsbBusType
  unguarded : guard.deviceIds.any (bothKnownAndEqual disk.deviceId) = false
  notSystem : (disk.isBoot || disk.isSystem) = false
  unprotected : containsProtectedMountPoint disk guard = false
  online : disk.isOffline = false
  writable : disk.isReadOnly = false
  size : MinimumRestoreTargetBytes ≤ disk.size
  sectorSize : isSupportedSectorSize disk.sectorSize = true
  layout : (calculateGptLayout disk.size disk.sectorSize).length ≠ 0

theorem isSafeRestoreTarget_ok_iff {disk : DiskInfo} {guard : RestoreGuard} {mode : TextMode} :
    isSafeRestoreTarget disk guard mode = .ok () ↔ SafeTarget disk guard := by
  unfold isSafeRestoreTarget
  dsimp only
  simp only [ite_error_ok_iff, Bool.not_eq_true, ne_eq, not_not, and_true, Bool.not_eq_true',
    Bool.not_eq_false]
  constructor
  · rintro ⟨h1, h2, h3, h4, h5, h6, h7, _, h9, h10, h11⟩
    exact ⟨h1, h2, h3, h4, h5, h6, h7, UInt64.not_lt.mp h9, h10, h11⟩
  · rintro ⟨h1, h2, h3, h4, h5, h6, h7, h9, h10, h11⟩
    refine ⟨h1, h2, h3, h4, h5, h6, h7, ?_, UInt64.not_lt.mpr h9, h10, h11⟩
    rintro hzero
    rw [hzero] at h9
    exact absurd h9 (by decide)

/-- The conditions of `isSameRestoreTarget`. An identifier that one side lacks is skipped, but
not a device sequence that was selected. -/
structure SameTarget (selected current : DiskInfo) : Prop where
  deviceId : normalizedIdentity selected.deviceId = normalizedIdentity current.deviceId
  size : selected.size = current.size
  sequence : ∀ sequence, selected.deviceSequence = some sequence →
    sequence ≠ 0 ∧ current.deviceSequence = some sequence
  sectorSize : selected.sectorSize ≠ 0 → current.sectorSize ≠ 0 →
    selected.sectorSize = current.sectorSize
  serialNumber : bothKnownAndDifferent selected.serialNumber current.serialNumber = false
  uniqueId : bothKnownAndDifferent selected.uniqueId current.uniqueId = false
  path : bothKnownAndDifferent selected.path current.path = false
  name : bothKnownAndDifferent selected.name current.name = false

omit [Host] in
theorem sequence_accepted_iff {device : QString} {selected current : Option UInt64} :
    (selected.isSome && !(isSameDeviceSequence device selected current .english).isOk) = false ↔
      ∀ sequence, selected = some sequence → sequence ≠ 0 ∧ current = some sequence := by
  cases selected with
  | none => simp
  | some sequence =>
    simp only [Option.isSome_some, Bool.true_and, Bool.not_eq_false', isOk_iff,
      isSameDeviceSequence_ok_iff, Option.some.injEq]
    constructor
    · rintro ⟨_, hne, rfl, hcurrent⟩ _ rfl
      exact ⟨hne, hcurrent⟩
    · intro h
      exact ⟨sequence, (h sequence rfl).1, rfl, (h sequence rfl).2⟩

theorem isSameRestoreTarget_ok_iff {selected current : DiskInfo} {mode : TextMode} :
    isSameRestoreTarget selected current mode = .ok () ↔ SameTarget selected current := by
  unfold isSameRestoreTarget
  dsimp only
  simp only [ite_error_ok_iff, Bool.not_eq_true, sequence_accepted_iff, ne_eq, not_not, and_true,
    not_and]
  constructor
  · rintro ⟨h1, h2, h3, h4, h5, h6, h7, h8⟩
    exact ⟨h1, h2, h3, h4, h5, h6, h7, h8⟩
  · rintro ⟨h1, h2, h3, h4, h5, h6, h7, h8⟩
    exact ⟨h1, h2, h3, h4, h5, h6, h7, h8⟩

end Targets

end UsbRestore
