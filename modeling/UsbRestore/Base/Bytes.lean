-- SUMMARY: Sized byte buffers: overwriting a range, and little-endian fields read back from it.
import Mathlib.Algebra.Group.Nat.Defs
import Mathlib.Data.List.Basic

/-!
# Byte buffers

A buffer is a size and a byte for every position below it. Whole disks and the
tables written to them are the same kind of value, so that a write of one into the
other is `Bytes.write`, and reading a field back is one lemma per field width.
-/

namespace UsbRestore

structure Bytes where
  size : Nat
  byteAt : Nat → UInt8

namespace Bytes

def empty : Bytes := ⟨0, fun _ => 0⟩

/-- `QByteArray(size, '\0')`. -/
def zeros (size : Nat) : Bytes := ⟨size, fun _ => 0⟩

def ofList (bytes : List UInt8) : Bytes := ⟨bytes.length, fun i => bytes.getD i 0⟩

def append (a b : Bytes) : Bytes :=
  ⟨a.size + b.size, fun i => if i < a.size then a.byteAt i else b.byteAt (i - a.size)⟩

def left (b : Bytes) (count : Nat) : Bytes := ⟨min count b.size, b.byteAt⟩

def set (b : Bytes) (offset : Nat) (byte : UInt8) : Bytes :=
  ⟨b.size, fun i => if i = offset then byte else b.byteAt i⟩

/-- Overwrite the bytes from `offset` on with `data`. -/
def write (b : Bytes) (offset : Nat) (data : Bytes) : Bytes :=
  ⟨b.size, fun i =>
    if offset ≤ i ∧ i < offset + data.size then data.byteAt (i - offset) else b.byteAt i⟩

/-- The `count` bytes from `offset` on. -/
def slice (b : Bytes) (offset count : Nat) : Bytes := ⟨count, fun i => b.byteAt (offset + i)⟩

def toList (b : Bytes) : List UInt8 := (List.range b.size).map b.byteAt

/-- The `count` low bytes of a number, least significant first. -/
def le (count value : Nat) : Bytes := ⟨count, fun i => UInt8.ofNat (value / 256 ^ i)⟩

/-- The number that `count` bytes from `offset` on spell, least significant first. -/
def readLe (b : Bytes) (offset : Nat) : (count : Nat) → Nat
  | 0 => 0
  | count + 1 => (b.byteAt offset).toNat + 256 * readLe b (offset + 1) count

/-- Bytes are equal where they have one size and agree at every index. -/
theorem ext {a b : Bytes} (hsize : a.size = b.size) (hbyte : ∀ i, a.byteAt i = b.byteAt i) :
    a = b := by
  obtain ⟨size, bytes⟩ := a
  obtain rfl : size = b.size := hsize
  obtain rfl : bytes = b.byteAt := funext hbyte
  rfl

/-! ## Sizes -/

@[simp] theorem size_zeros (n : Nat) : (zeros n).size = n := rfl
@[simp] theorem size_ofList (l : List UInt8) : (ofList l).size = l.length := rfl
@[simp] theorem size_append (a b : Bytes) : (a.append b).size = a.size + b.size := rfl
@[simp] theorem size_left (b : Bytes) (n : Nat) : (b.left n).size = min n b.size := rfl
@[simp] theorem size_set (b : Bytes) (o : Nat) (x : UInt8) : (b.set o x).size = b.size := rfl
@[simp] theorem size_write (b : Bytes) (o : Nat) (d : Bytes) : (b.write o d).size = b.size := rfl
@[simp] theorem size_slice (b : Bytes) (o n : Nat) : (b.slice o n).size = n := rfl
@[simp] theorem size_le (n v : Nat) : (le n v).size = n := rfl

/-! ## Bytes -/

@[simp] theorem byteAt_zeros (n i : Nat) : (zeros n).byteAt i = 0 := rfl

@[simp] theorem byteAt_left (b : Bytes) (n i : Nat) : (b.left n).byteAt i = b.byteAt i := rfl

@[simp] theorem byteAt_slice (b : Bytes) (o n i : Nat) :
    (b.slice o n).byteAt i = b.byteAt (o + i) := rfl

theorem byteAt_set_self (b : Bytes) (o : Nat) (x : UInt8) : (b.set o x).byteAt o = x := by
  simp [set]

theorem byteAt_set_ne (b : Bytes) {o i : Nat} (x : UInt8) (h : i ≠ o) :
    (b.set o x).byteAt i = b.byteAt i := by
  simp [set, h]

/-- What is read behind a write: the data where it was written, the old bytes elsewhere. -/
theorem byteAt_write (b : Bytes) (o : Nat) (d : Bytes) (i : Nat) :
    (b.write o d).byteAt i =
      if o ≤ i ∧ i < o + d.size then d.byteAt (i - o) else b.byteAt i := rfl

/-- A write shows inside its range. -/
theorem byteAt_write_of_mem (b : Bytes) {o : Nat} {d : Bytes} {i : Nat} (h : i < d.size) :
    (b.write o d).byteAt (o + i) = d.byteAt i := by
  simp [write, h]

/-- A write leaves everything outside its range. -/
theorem byteAt_write_of_not_mem (b : Bytes) {o : Nat} {d : Bytes} {i : Nat}
    (h : i < o ∨ o + d.size ≤ i) : (b.write o d).byteAt i = b.byteAt i := by
  have hout : ¬ (o ≤ i ∧ i < o + d.size) := by omega
  simp [write, hout]

/-- Within the first part the bytes are those of the first part. -/
theorem byteAt_append_left (a b : Bytes) {i : Nat} (h : i < a.size) :
    (a.append b).byteAt i = a.byteAt i := by
  simp [append, h]

/-- Behind it they are those of the second. -/
theorem byteAt_append_right (a b : Bytes) (i : Nat) :
    (a.append b).byteAt (a.size + i) = b.byteAt i := by
  have hge : ¬ a.size + i < a.size := by omega
  simp [append, hge]

/-! ## Agreement on a range -/

/-- Two buffers hold the same `count` bytes, each from its own offset on. -/
def Agree (a : Bytes) (i : Nat) (b : Bytes) (j count : Nat) : Prop :=
  ∀ k, k < count → a.byteAt (i + k) = b.byteAt (j + k)

theorem Agree.mono {a b : Bytes} {i j count : Nat} (h : Agree a i b j count) {d n : Nat}
    (hd : d + n ≤ count) : Agree a (i + d) b (j + d) n := by
  intro k hk
  have := h (d + k) (by omega)
  simpa only [Nat.add_assoc] using this

theorem Agree.trans {a b c : Bytes} {i j k count : Nat} (hab : Agree a i b j count)
    (hbc : Agree b j c k count) : Agree a i c k count :=
  fun d hd => (hab d hd).trans (hbc d hd)

theorem Agree.symm {a b : Bytes} {i j count : Nat} (h : Agree a i b j count) :
    Agree b j a i count :=
  fun d hd => (h d hd).symm

/-- Where data was written, the data is found. -/
theorem agree_write (b : Bytes) (o : Nat) (d : Bytes) : Agree (b.write o d) o d 0 d.size := by
  intro k hk
  rw [Nat.zero_add]
  exact byteAt_write_of_mem b hk

/-- A range that a write does not touch is as before. -/
theorem agree_write_frame (b : Bytes) {o : Nat} {d : Bytes} {i count : Nat}
    (h : i + count ≤ o ∨ o + d.size ≤ i) : Agree (b.write o d) i b i count := by
  intro k hk
  exact byteAt_write_of_not_mem b (by omega)

theorem agree_append_left (a b : Bytes) {i n : Nat} (h : i + n ≤ a.size) :
    Agree (a.append b) i a i n := by
  intro k hk
  exact byteAt_append_left a b (by omega)

theorem agree_append_right (a b : Bytes) (i n : Nat) :
    Agree (a.append b) (a.size + i) b i n := by
  intro k _
  rw [Nat.add_assoc]
  exact byteAt_append_right a b (i + k)

/-- Ranges that agree read as the same number. -/
theorem readLe_congr {a b : Bytes} {i j count : Nat} (h : Agree a i b j count) :
    a.readLe i count = b.readLe j count := by
  induction count generalizing i j with
  | zero => rfl
  | succ count ih =>
    have hhead : a.byteAt i = b.byteAt j := h 0 (by omega)
    have htail : Agree a (i + 1) b (j + 1) count := h.mono (by omega)
    simp only [readLe, hhead, ih htail]

/-- Ranges that agree are the same list. -/
theorem toList_slice_congr {a b : Bytes} {i j count : Nat} (h : Agree a i b j count) :
    (a.slice i count).toList = (b.slice j count).toList := by
  simp only [toList, size_slice]
  exact List.map_congr_left (fun k hk => h k (List.mem_range.mp hk))

theorem toList_congr {a b : Bytes} (hsize : a.size = b.size) (h : Agree a 0 b 0 a.size) :
    a.toList = b.toList := by
  simp only [toList, ← hsize]
  exact List.map_congr_left (fun k hk => by simpa using h k (List.mem_range.mp hk))

/-! ## Little-endian fields -/

/-- A number that was laid out in little-endian order reads as its remainder. -/
theorem readLe_le_zero (count value : Nat) : (le count value).readLe 0 count = value % 256 ^ count := by
  have hgen : ∀ n k, k + n = count →
      (le count value).readLe k n = (value / 256 ^ k) % 256 ^ n := by
    intro n
    induction n with
    | zero => intro k _; simp [readLe, Nat.mod_one]
    | succ n ih =>
      intro k hk
      have hlow : ((le count value).byteAt k).toNat = value / 256 ^ k % 256 := by
        simp [le, UInt8.toNat_ofNat']
      rw [readLe, ih (k + 1) (by omega), hlow, Nat.pow_succ' (m := 256) (n := n), Nat.mod_mul,
        Nat.pow_succ, Nat.div_div_eq_div_mul]
  simpa using hgen count 0 (by omega)

/-- A field holds no more than its bytes. -/
theorem readLe_lt (b : Bytes) (offset count : Nat) : b.readLe offset count < 256 ^ count := by
  induction count generalizing offset with
  | zero => exact Nat.one_pos
  | succ count ih =>
    have hlow := (b.byteAt offset).toNat_lt
    have hhigh := ih (offset + 1)
    rw [readLe, Nat.pow_succ]
    omega

/-- A field just written reads back. -/
theorem readLe_write_le (b : Bytes) (o count : Nat) {value : Nat} (h : value < 256 ^ count) :
    (b.write o (le count value)).readLe o count = value := by
  have hagree : Agree (b.write o (le count value)) o (le count value) 0 count :=
    agree_write b o (le count value)
  rw [readLe_congr hagree, readLe_le_zero, Nat.mod_eq_of_lt h]

/-- A field elsewhere is left alone. -/
theorem readLe_write_frame (b : Bytes) {o : Nat} {d : Bytes} {i count : Nat}
    (h : i + count ≤ o ∨ o + d.size ≤ i) : (b.write o d).readLe i count = b.readLe i count :=
  readLe_congr (agree_write_frame b h)

end Bytes

end UsbRestore
