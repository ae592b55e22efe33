-- SUMMARY: What half a surrogate pair becomes on its way through UTF-8.
import UsbRestore.Qt.Utf8

/-!
# Repair

Text that is not well formed reads back with U+FFFD for each half of a pair. It is as long as it was, and
nothing else in it has changed.
-/

namespace UsbRestore

namespace Utf8

/-- The text with U+FFFD for each half of a pair that stands on its own. -/
def repaired (s : QString) : QString := (points s).flatMap units

/-- The same for a surrogate wherever it stands. -/
def scrubbed (c : QChar) : QChar :=
  if c.isHighSurrogate || c.isLowSurrogate then UInt16.ofNat Replacement else c

theorem units_of_single (c : QChar) : units (single c) = [scrubbed c] := by
  unfold single scrubbed
  split
  · rfl
  · exact units_of_bmp c

theorem toNat_scrubbed (c : QChar) : (scrubbed c).toNat = single c := by
  unfold single scrubbed
  split
  · rfl
  · rfl

/-- What is put in place of a surrogate is none. -/
theorem scrubbed_isNoSurrogate (c : QChar) :
    (scrubbed c).isHighSurrogate = false ∧ (scrubbed c).isLowSurrogate = false := by
  unfold scrubbed
  split
  · exact ⟨rfl, rfl⟩
  · next h =>
    rw [Bool.or_eq_true, not_or, Bool.not_eq_true, Bool.not_eq_true] at h
    exact h

theorem scrubbed_eq_self {c : QChar} (hhigh : c.isHighSurrogate = false)
    (hlow : c.isLowSurrogate = false) : scrubbed c = c := by
  unfold scrubbed
  rw [hhigh, hlow]
  rfl

theorem scrubbed_scrubbed (c : QChar) : scrubbed (scrubbed c) = scrubbed c :=
  scrubbed_eq_self (scrubbed_isNoSurrogate c).1 (scrubbed_isNoSurrogate c).2

theorem points_scrubbed_cons (c : QChar) (s : QString) :
    points (scrubbed c :: s) = single c :: points s := by
  obtain ⟨hhigh, hlow⟩ := scrubbed_isNoSurrogate c
  have hsingle : single (scrubbed c) = single c := by
    rw [← toNat_scrubbed (scrubbed c), scrubbed_scrubbed, toNat_scrubbed]
  cases s with
  | nil => exact congrArg (fun point => [point]) hsingle
  | cons d s => rw [points, hhigh, Bool.false_and, if_neg Bool.false_ne_true, hsingle]

theorem points_repaired (s : QString) : points (repaired s) = points s := by
  unfold repaired
  fun_induction points s with
  | case1 => rfl
  | case2 c =>
    rw [List.flatMap_cons, units_of_single, List.singleton_append, points_scrubbed_cons]
    rfl
  | case3 c d s hpair ih =>
    rw [Bool.and_eq_true] at hpair
    rw [List.flatMap_cons, units_of_pair hpair.1 hpair.2, List.cons_append, List.cons_append,
      List.nil_append, points, hpair.1, hpair.2, Bool.and_true, if_pos rfl, ih]
  | case4 c d s hpair ih =>
    rw [List.flatMap_cons, units_of_single, List.singleton_append, points_scrubbed_cons, ih]

theorem repaired_isWellFormed (s : QString) : IsWellFormed (repaired s) := by
  unfold IsWellFormed repaired
  fun_induction points s with
  | case1 => rfl
  | case2 c =>
    obtain ⟨hhigh, hlow⟩ := scrubbed_isNoSurrogate c
    rw [List.flatMap_cons, units_of_single, List.singleton_append, pairing, hhigh, hlow]
    rfl
  | case3 c d s hpair ih =>
    rw [Bool.and_eq_true] at hpair
    rw [List.flatMap_cons, units_of_pair hpair.1 hpair.2, List.cons_append, List.cons_append,
      List.nil_append, pairing, if_pos hpair.1, pairing, if_pos hpair.2, ih]
  | case4 c d s hpair ih =>
    obtain ⟨hhigh, hlow⟩ := scrubbed_isNoSurrogate c
    rw [List.flatMap_cons, units_of_single, List.singleton_append, pairing, hhigh, hlow,
      if_neg Bool.false_ne_true, if_neg Bool.false_ne_true, ih]

/-- Where the texts differ, both have a surrogate or what replaces it. -/
theorem map_scrubbed_repaired (s : QString) : (repaired s).map scrubbed = s.map scrubbed := by
  unfold repaired
  fun_induction points s with
  | case1 => rfl
  | case2 c =>
    rw [List.flatMap_cons, units_of_single, List.flatMap_nil, List.append_nil, List.map_singleton,
      List.map_singleton, scrubbed_scrubbed]
  | case3 c d s hpair ih =>
    rw [Bool.and_eq_true] at hpair
    rw [List.flatMap_cons, units_of_pair hpair.1 hpair.2, List.map_append, ih]
    rfl
  | case4 c d s hpair ih =>
    rw [List.flatMap_cons, units_of_single, List.map_append, ih, List.map_singleton, scrubbed_scrubbed]
    rfl

end Utf8

/-- The bytes do not tell the two apart. -/
theorem QString.toUtf8_repaired (s : QString) : QString.toUtf8 (Utf8.repaired s) = QString.toUtf8 s := by
  unfold QString.toUtf8
  rw [Utf8.points_repaired]

end UsbRestore
