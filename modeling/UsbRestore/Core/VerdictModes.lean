-- SUMMARY: Which catalogs leave the verdicts of the core as they are in English.
import UsbRestore.Core.Geometry
import UsbRestore.Core.SafetyFacts

/-!
# Verdicts and text modes

The user interface asks the core for its verdicts together with the text to show. The two checks of
a target decide first and word their refusal afterwards. The two checks of a layout decide by
whether there is a text, so a catalog with an empty text for a refusal turns it into consent.
-/

namespace UsbRestore

/-- The source texts by which a layout is refused. -/
def layoutRefusals : List QString :=
  [QStringLiteral "Unsupported sector size of %1 bytes.",
    QStringLiteral "The disk is too small for a partition layout.",
    QStringLiteral "No partition style was chosen.",
    QStringLiteral "MBR cannot address a partition this far into the disk. Choose GPT."]

/-- No refusal of a layout is translated by the empty text. -/
def KeepsRefusals (installed : Catalog) : Prop :=
  ∀ source ∈ layoutRefusals, installed .core source ≠ []

/-- The verdicts are the same in the display mode as in English, whatever is asked. -/
structure KeepsVerdicts [Host] (installed : Catalog) : Prop where
  safe : ∀ disk guard, (isSafeRestoreTarget disk guard (.display installed)).isOk =
    (isSafeRestoreTarget disk guard .english).isOk
  same : ∀ selected current, (isSameRestoreTarget selected current (.display installed)).isOk =
    (isSameRestoreTarget selected current .english).isOk
  layout : ∀ style disk, (canCreatePartitionLayout style disk (.display installed)).isOk =
    (canCreatePartitionLayout style disk .english).isOk
  writable : ∀ request, (isWritablePartitionRequest request (.display installed)).isOk =
    (isWritablePartitionRequest request .english).isOk

/-! ## Refusals that keep their text -/

variable {installed : Catalog}

theorem isOk_congr {ε : Type} {verdict verdict' : Except ε Unit}
    (h : verdict = .ok () ↔ verdict' = .ok ()) : verdict.isOk = verdict'.isOk := by
  rw [Bool.eq_iff_iff, isOk_iff, isOk_iff]
  exact h

/-- With these catalogs a layout has an error text in the one language exactly if it has one in the
other. -/
theorem KeepsRefusals.isEmpty_partitionLayoutError (h : KeepsRefusals installed)
    (style : PartitionStyle) (layout : GptLayout) (sectorSize : UInt32) :
    (partitionLayoutError style layout sectorSize (.display installed)).isEmpty =
      (partitionLayoutError style layout sectorSize .english).isEmpty := by
  have hkept : ∀ {text text' : QString}, text ≠ [] → text' ≠ [] → text.isEmpty = text'.isEmpty := by
    intro text text' hne hne'
    rw [List.isEmpty_eq_false_iff.mpr hne, List.isEmpty_eq_false_iff.mpr hne']
  have hnumber : ∀ value ∈ [QString.number sectorSize.toNat], value ≠ [] := by
    intro value hvalue
    obtain rfl := List.mem_singleton.mp hvalue
    exact QString.number_ne_nil _
  unfold partitionLayoutError
  split
  · apply hkept
    · exact QString.arg_ne_nil (h _ (by simp [layoutRefusals])) hnumber
    · exact QString.arg_ne_nil (by decide) hnumber
  · split
    · exact hkept (h _ (by simp [layoutRefusals])) (by decide)
    · split
      · exact hkept (h _ (by simp [layoutRefusals])) (by decide)
      · split
        · exact hkept (h _ (by simp [layoutRefusals])) (by decide)
        · rfl

/-- The write gate looks at the mode for nothing but that error text. -/
theorem isWritablePartitionRequest_congr {request : PartitionTableRequest} {mode mode' : TextMode}
    (h : (partitionLayoutError request.style request.layout request.sectorSize mode).isEmpty =
      (partitionLayoutError request.style request.layout request.sectorSize mode').isEmpty) :
    (isWritablePartitionRequest request mode).isOk =
      (isWritablePartitionRequest request mode').isOk := by
  apply isOk_congr
  unfold isWritablePartitionRequest
  dsimp only
  rw [h]
  split
  · simp
  · split
    · simp
    · split
      · simp
      · split
        · simp only [ite_error_ok_iff]
        · simp only [ite_error_ok_iff]

theorem KeepsRefusals.keepsVerdicts [Host] (h : KeepsRefusals installed) :
    KeepsVerdicts installed where
  safe disk guard := by
    apply isOk_congr
    rw [isSafeRestoreTarget_ok_iff, isSafeRestoreTarget_ok_iff]
  same selected current := by
    apply isOk_congr
    rw [isSameRestoreTarget_ok_iff, isSameRestoreTarget_ok_iff]
  layout style disk := by
    apply isOk_congr
    unfold canCreatePartitionLayout
    dsimp only
    rw [h.isEmpty_partitionLayoutError]
    split
    · simp
    · simp
  writable request := isWritablePartitionRequest_congr (h.isEmpty_partitionLayoutError _ _ _)

/-! ## Refusals that lose it -/

/-- A layout whose refusal has lost its text is not refused. -/
theorem canCreatePartitionLayout_of_isEmpty {style : PartitionStyle} {disk : DiskInfo}
    {mode : TextMode}
    (h : partitionLayoutError style (calculateGptLayout disk.size disk.sectorSize) disk.sectorSize
      mode = []) : (canCreatePartitionLayout style disk mode).isOk = true := by
  unfold canCreatePartitionLayout
  dsimp only
  rw [h]
  rfl

/-- For each of the four texts there is a layout that is refused with it. -/
theorem exists_refused {source : QString} (h : source ∈ layoutRefusals) :
    ∃ style disk, (canCreatePartitionLayout style disk .english).isOk = false ∧
      ∀ installed : Catalog, installed .core source = [] →
        (canCreatePartitionLayout style disk (.display installed)).isOk = true := by
  simp only [layoutRefusals, List.mem_cons, List.not_mem_nil, or_false] at h
  rcases h with rfl | rfl | rfl | rfl
  · refine ⟨.gpt, { size := 17179869184, sectorSize := 520 }, by decide, fun installed hempty => ?_⟩
    apply canCreatePartitionLayout_of_isEmpty
    rw [partitionLayoutError, if_pos (by decide), coreText, hempty]
    rfl
  · refine ⟨.gpt, { size := 0 }, by decide, fun installed hempty => ?_⟩
    apply canCreatePartitionLayout_of_isEmpty
    rw [partitionLayoutError, if_neg (by decide), if_pos (by decide), coreText, hempty]
  · refine ⟨.unknown, { size := 17179869184 }, by decide, fun installed hempty => ?_⟩
    apply canCreatePartitionLayout_of_isEmpty
    rw [partitionLayoutError, if_neg (by decide), if_neg (by decide), if_pos (by decide), coreText,
      hempty]
  · refine ⟨.mbr, { size := 4398046511104 }, by decide, fun installed hempty => ?_⟩
    apply canCreatePartitionLayout_of_isEmpty
    rw [partitionLayoutError, if_neg (by decide), if_neg (by decide), if_neg (by decide),
      if_pos (by decide), coreText, hempty]

/-- The display mode never changes a verdict exactly if the catalog leaves a text to each refusal of
a layout. -/
theorem keepsVerdicts_iff_keepsRefusals [Host] (installed : Catalog) :
    KeepsVerdicts installed ↔ KeepsRefusals installed := by
  constructor
  · intro h source hsource hempty
    obtain ⟨style, disk, hrefused, haccepted⟩ := exists_refused hsource
    have hsame := h.layout style disk
    rw [haccepted installed hempty, hrefused] at hsame
    cases hsame
  · exact KeepsRefusals.keepsVerdicts

/-- A catalog in which the refusal of an unknown style has no text. -/
def withoutStyleText : Catalog := fun _ source =>
  if source = QStringLiteral "No partition style was chosen." then [] else source

open SmallStick in
/-- The window's check accepts a layout without a partition style, which English refuses. -/
theorem withoutStyleText_changes_verdict : ¬KeepsVerdicts withoutStyleText := by
  intro h
  have hsame := h.layout .unknown { size := 17179869184 }
  revert hsame
  decide

end UsbRestore
