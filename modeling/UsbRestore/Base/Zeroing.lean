-- SUMMARY: Buffers zeroed from an offset on, range after range.
import UsbRestore.Base.Bytes

/-!
# Zeroing

A loop that zeroes a range piece by piece may write a byte twice and may stop in the middle. What it
leaves is the buffer with some first part of the range zeroed.
-/

namespace UsbRestore

namespace Bytes

/-- The buffer with `count` zeros from `offset` on. -/
def clear (b : Bytes) (offset count : Nat) : Bytes := b.write offset (zeros count)

@[simp] theorem size_clear (b : Bytes) (offset count : Nat) : (b.clear offset count).size = b.size :=
  rfl

theorem left_zeros {count size : Nat} (h : count ≤ size) : (zeros size).left count = zeros count := by
  apply ext
  · exact Nat.min_eq_left h
  · exact fun _ => rfl

/-- Zero inside the range, and the old byte outside it. -/
theorem byteAt_clear (b : Bytes) (offset count i : Nat) :
    (b.clear offset count).byteAt i =
      if offset ≤ i ∧ i < offset + count then 0 else b.byteAt i := rfl

theorem clear_zero (b : Bytes) (offset : Nat) : b.clear offset 0 = b := by
  refine ext (size_clear b offset 0) fun i => ?_
  rw [byteAt_clear, if_neg]
  omega

/-- Zeros that start in the zeroed part or right after it. -/
theorem clear_clear (b : Bytes) (offset : Nat) {cleared start : Nat} (count : Nat)
    (h : start ≤ cleared) : (b.clear offset cleared).clear (offset + start) count =
      b.clear offset (max cleared (start + count)) := by
  refine ext (by simp only [size_clear]) fun i => ?_
  simp only [byteAt_clear]
  split
  · rw [if_pos]
    omega
  · split
    · rw [if_pos]
      omega
    · rw [if_neg]
      omega

/-- At least the first `done` of the `total` bytes from `offset` on are zeroed, and nothing after
them is touched. -/
def ClearedTo (b : Bytes) (offset total done : Nat) (b' : Bytes) : Prop :=
  ∃ cleared, done ≤ cleared ∧ cleared ≤ total ∧ b' = b.clear offset cleared

namespace ClearedTo

variable {b b' : Bytes} {offset total done : Nat}

theorem refl (b : Bytes) (offset total : Nat) : b.ClearedTo offset total 0 b :=
  ⟨0, Nat.le_refl 0, Nat.zero_le total, (b.clear_zero offset).symm⟩

theorem mono (h : b.ClearedTo offset total done b') {done' : Nat} (hle : done' ≤ done) :
    b.ClearedTo offset total done' b' := by
  obtain ⟨cleared, hdone, htotal, rfl⟩ := h
  exact ⟨cleared, Nat.le_trans hle hdone, htotal, rfl⟩

/-- The next `count` zeros, of which `stored` are stored. -/
theorem write (h : b.ClearedTo offset total done b') {count stored : Nat}
    (hfits : done + count ≤ total) (hstored : stored ≤ count) :
    b.ClearedTo offset total (done + stored)
      (b'.write (offset + done) ((zeros count).left stored)) := by
  obtain ⟨cleared, hdone, htotal, rfl⟩ := h
  refine ⟨max cleared (done + stored), Nat.le_max_right _ _, ?_, ?_⟩
  · omega
  · rw [left_zeros hstored]
    exact clear_clear b offset stored hdone

/-- When all of the range is cleared, nothing is left open about the image. -/
theorem eq_clear (h : b.ClearedTo offset total total b') : b' = b.clear offset total := by
  obtain ⟨cleared, hdone, htotal, rfl⟩ := h
  rw [Nat.le_antisymm htotal hdone]

end ClearedTo

/-- What a zeroing of `[offset, offset + count)` leaves: the whole range zeroed where it returns, and
some first part of it where it fails. -/
def Zeroed {ε : Type} (b : Bytes) (offset count : Nat) : Except ε Unit → Bytes → Prop
  | .ok (), b' => b' = b.clear offset count
  | .error _, b' => ∃ cleared, cleared ≤ count ∧ b' = b.clear offset cleared

/-- A failure may leave any first part of the range cleared. -/
theorem ClearedTo.zeroed_error {ε : Type} {b b' : Bytes} {offset total done : Nat} {e : ε}
    (h : b.ClearedTo offset total done b') : b.Zeroed offset total (.error e) b' := by
  obtain ⟨cleared, _, htotal, rfl⟩ := h
  exact ⟨cleared, htotal, rfl⟩

end Bytes

end UsbRestore
