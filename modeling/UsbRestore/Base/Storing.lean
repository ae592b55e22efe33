-- SUMMARY: Storing data in pieces: what a buffer holds so far, and what a later piece adds.
import UsbRestore.Base.Bytes

/-!
# Storing in pieces

Data goes to a buffer piece by piece. A piece starts right after what is known to be stored, or in it:
where a piece has failed, more may be stored than is known.
-/

namespace UsbRestore

namespace Bytes

theorem write_left_zero (b : Bytes) (offset : Nat) (data : Bytes) :
    b.write offset (data.left 0) = b := by
  refine ext rfl fun i => byteAt_write_of_not_mem b ?_
  rw [size_left]
  omega

theorem write_left_size (b : Bytes) (offset : Nat) (data : Bytes) :
    b.write offset (data.left data.size) = b.write offset data := by
  refine ext rfl fun i => ?_
  simp only [byteAt_write, size_left, byteAt_left, Nat.min_self]

/-- A piece that starts in the stored part or right after it. -/
theorem write_slice (b : Bytes) (offset : Nat) (data : Bytes) {stored start count : Nat}
    (hstart : start ≤ stored) (hstored : stored ≤ data.size) (hcount : count ≤ data.size - start) :
    (b.write offset (data.left stored)).write (offset + start)
        ((data.slice start (data.size - start)).left count) =
      b.write offset (data.left (max stored (start + count))) := by
  have hpiece : ((data.slice start (data.size - start)).left count).size = count := Nat.min_eq_left hcount
  have hfirst : (data.left stored).size = stored := Nat.min_eq_left hstored
  have hboth : (data.left (max stored (start + count))).size = max stored (start + count) :=
    Nat.min_eq_left (by omega)
  refine ext rfl fun i => ?_
  by_cases hi : offset ≤ i ∧ i < offset + max stored (start + count)
  · obtain ⟨k, rfl⟩ := Nat.exists_eq_add_of_le hi.1
    rw [byteAt_write_of_mem b (by omega), byteAt_left]
    by_cases hlater : start ≤ k ∧ k < start + count
    · obtain ⟨j, rfl⟩ := Nat.exists_eq_add_of_le hlater.1
      rw [← Nat.add_assoc, byteAt_write_of_mem _ (by omega), byteAt_left, byteAt_slice]
    · rw [byteAt_write_of_not_mem _ (by omega), byteAt_write_of_mem b (by omega), byteAt_left]
  · rw [byteAt_write_of_not_mem _ (by omega), byteAt_write_of_not_mem _ (by omega),
      byteAt_write_of_not_mem _ (by omega)]

/-- At least the first `done` bytes of the data are stored from `offset` on, and nothing else of the
buffer is touched. -/
def StoredTo (b : Bytes) (offset : Nat) (data : Bytes) (done : Nat) (b' : Bytes) : Prop :=
  ∃ stored, done ≤ stored ∧ stored ≤ data.size ∧ b' = b.write offset (data.left stored)

namespace StoredTo

variable {b b' : Bytes} {offset : Nat} {data : Bytes} {done : Nat}

theorem refl (b : Bytes) (offset : Nat) (data : Bytes) : b.StoredTo offset data 0 b :=
  ⟨0, Nat.le_refl 0, Nat.zero_le _, (b.write_left_zero offset data).symm⟩

theorem mono (h : b.StoredTo offset data done b') {done' : Nat} (hle : done' ≤ done) :
    b.StoredTo offset data done' b' := by
  obtain ⟨stored, hdone, hsize, rfl⟩ := h
  exact ⟨stored, Nat.le_trans hle hdone, hsize, rfl⟩

/-- The first `count` bytes of what is left. -/
theorem write (h : b.StoredTo offset data done b') {count : Nat} (hcount : count ≤ data.size - done) :
    b.StoredTo offset data (done + count)
      (b'.write (offset + done) ((data.slice done (data.size - done)).left count)) := by
  obtain ⟨stored, hdone, hsize, rfl⟩ := h
  refine ⟨max stored (done + count), Nat.le_max_right _ _, ?_, ?_⟩
  · omega
  · exact write_slice b offset data hdone hsize hcount

theorem eq_write (h : b.StoredTo offset data data.size b') : b' = b.write offset data := by
  obtain ⟨stored, hdone, hsize, rfl⟩ := h
  rw [Nat.le_antisymm hsize hdone, write_left_size]

end StoredTo

end Bytes

end UsbRestore
