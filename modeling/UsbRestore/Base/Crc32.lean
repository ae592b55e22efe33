-- SUMMARY: The reflected CRC-32 bit by bit, and the 256-entry table that takes a byte at a time.
import Mathlib.Data.Nat.Bitwise
import Mathlib.Tactic.Ring

/-!
# CRC-32

`shiftBit` is one step of the shift register. It is linear over exclusive or, which is
why eight steps on a whole register are eight steps on its low byte, looked up in a
table, and a shift of the rest.
-/

namespace UsbRestore

namespace Crc32

def polynomial : UInt32 := 0xEDB88320

/-- Shift the register by one bit. -/
def shiftBit (value : UInt32) : UInt32 :=
  if value &&& 1 ≠ 0 then polynomial ^^^ (value >>> 1) else value >>> 1

def shiftBits : Nat → UInt32 → UInt32
  | 0, value => value
  | n + 1, value => shiftBits n (shiftBit value)

/-- The register after one more byte of the message. -/
def update (crc : UInt32) (byte : UInt8) : UInt32 := shiftBits 8 (crc ^^^ byte.toUInt32)

/-- CRC-32 with initial value and final exclusive or `0xFFFFFFFF`. -/
def crc32 (bytes : List UInt8) : UInt32 := bytes.foldl update 0xFFFFFFFF ^^^ 0xFFFFFFFF

/-- What a register whose only set bits are those of a byte becomes. -/
def table : Vector UInt32 256 := Vector.ofFn fun i : Fin 256 => shiftBits 8 (UInt32.ofNat i)

theorem low_byte_lt (x : UInt32) : (x &&& 0xFF).toNat < 256 := by
  have h : (x &&& 0xFF).toNat = x.toNat % 2 ^ 8 := by
    simpa using Nat.and_two_pow_sub_one_eq_mod x.toNat 8
  omega

/-- The table-driven step. -/
def tableUpdate (crc : UInt32) (byte : UInt8) : UInt32 :=
  table.get ⟨((crc ^^^ byte.toUInt32) &&& 0xFF).toNat, low_byte_lt _⟩ ^^^ (crc >>> 8)

/-! ## The register is linear -/

theorem low_bit (x : UInt32) : x &&& 1 = 0 ∨ x &&& 1 = 1 := by
  have h : (x &&& 1).toNat = x.toNat % 2 := by simp [UInt32.toNat_and, Nat.and_one_is_mod]
  have hcases : x.toNat % 2 = 0 ∨ x.toNat % 2 = 1 := by omega
  rw [← UInt32.toNat_inj, ← UInt32.toNat_inj, h]
  exact hcases

theorem shiftBit_xor (x y : UInt32) : shiftBit (x ^^^ y) = shiftBit x ^^^ shiftBit y := by
  have hand : (x ^^^ y) &&& 1 = (x &&& 1) ^^^ (y &&& 1) := by
    rw [← UInt32.toBitVec_inj]
    ext i
    simp [Bool.and_xor_distrib_right]
  have hself : ∀ a b p : UInt32, (p ^^^ a) ^^^ (p ^^^ b) = a ^^^ b := by
    intro a b p
    rw [UInt32.xor_comm p a, UInt32.xor_assoc, ← UInt32.xor_assoc p p, UInt32.xor_self,
      UInt32.zero_xor]
  have hcomm : ∀ a b p : UInt32, p ^^^ (a ^^^ b) = a ^^^ (p ^^^ b) := by
    intro a b p
    rw [← UInt32.xor_assoc, UInt32.xor_comm p a, UInt32.xor_assoc]
  rcases low_bit x with hx | hx <;> rcases low_bit y with hy | hy <;>
    simp only [shiftBit, hand, hx, hy, UInt32.shiftRight_xor]
  · rfl
  · simpa using hcomm _ _ polynomial
  · simp [UInt32.xor_assoc]
  · simpa using (hself _ _ polynomial).symm

theorem shiftBits_xor (n : Nat) (x y : UInt32) :
    shiftBits n (x ^^^ y) = shiftBits n x ^^^ shiftBits n y := by
  induction n generalizing x y with
  | zero => rfl
  | succ n ih => simp only [shiftBits, shiftBit_xor, ih]

/-- Low zero bits shift out without a trace. -/
theorem shiftBits_mul (n : Nat) {y : Nat} (h : y * 2 ^ n < 2 ^ 32) :
    shiftBits n (UInt32.ofNat (y * 2 ^ n)) = UInt32.ofNat y := by
  induction n with
  | zero => simp [shiftBits]
  | succ n ih =>
    have hdouble : y * 2 ^ (n + 1) = 2 * (y * 2 ^ n) := by ring
    have hnat : (UInt32.ofNat (y * 2 ^ (n + 1))).toNat = 2 * (y * 2 ^ n) := by
      rw [UInt32.toNat_ofNat', Nat.mod_eq_of_lt h, hdouble]
    have heven : UInt32.ofNat (y * 2 ^ (n + 1)) &&& 1 = 0 := by
      rw [← UInt32.toNat_inj, UInt32.toNat_and, hnat]
      simp [Nat.and_one_is_mod]
    have hhalf : UInt32.ofNat (y * 2 ^ (n + 1)) >>> 1 = UInt32.ofNat (y * 2 ^ n) := by
      have hlt : y * 2 ^ n < 2 ^ 32 := by omega
      rw [← UInt32.toNat_inj, UInt32.toNat_shiftRight, hnat, UInt32.toNat_ofNat',
        Nat.mod_eq_of_lt hlt]
      simp [Nat.shiftRight_eq_div_pow]
    have hstep : shiftBit (UInt32.ofNat (y * 2 ^ (n + 1))) = UInt32.ofNat (y * 2 ^ n) := by
      simp only [shiftBit, heven, hhalf, ne_eq, not_true_eq_false, if_false]
    rw [shiftBits, hstep]
    exact ih (by omega)

/-- A register is its low byte and the rest. -/
theorem split_low_byte (x : UInt32) :
    x = UInt32.ofNat (x.toNat / 256 * 2 ^ 8) ^^^ (x &&& 0xFF) := by
  have hx := x.toNat_lt
  have hand : (x &&& 0xFF).toNat = x.toNat % 2 ^ 8 := by
    simpa using Nat.and_two_pow_sub_one_eq_mod x.toNat 8
  have hlt : x.toNat / 256 * 2 ^ 8 < 2 ^ 32 := by omega
  rw [← UInt32.toNat_inj, UInt32.toNat_xor, hand, UInt32.toNat_ofNat', Nat.mod_eq_of_lt hlt]
  apply Nat.eq_of_testBit_eq
  intro i
  rw [Nat.testBit_xor, Nat.testBit_mul_two_pow, Nat.testBit_mod_two_pow]
  by_cases hi : i < 8
  · have hle : ¬ 8 ≤ i := by omega
    simp [hi, hle]
  · have hle : 8 ≤ i := by omega
    have hdiv : (x.toNat / 256).testBit (i - 8) = x.toNat.testBit i := by
      rw [show 256 = 2 ^ 8 by norm_num, Nat.testBit_div_two_pow, Nat.sub_add_cancel hle]
    simp [hi, hle, hdiv]

/-- Eight shifts of a register: eight shifts of its low byte, and the rest moved down. -/
theorem shiftBits_eight (x : UInt32) : shiftBits 8 x = shiftBits 8 (x &&& 0xFF) ^^^ (x >>> 8) := by
  have hx := x.toNat_lt
  have hhigh : shiftBits 8 (UInt32.ofNat (x.toNat / 256 * 2 ^ 8)) = x >>> 8 := by
    rw [shiftBits_mul 8 (by omega), ← UInt32.toNat_inj, UInt32.toNat_shiftRight,
      UInt32.toNat_ofNat', Nat.mod_eq_of_lt (by omega)]
    simp [Nat.shiftRight_eq_div_pow]
  conv_lhs => rw [split_low_byte x]
  rw [shiftBits_xor, hhigh, UInt32.xor_comm]

theorem tableUpdate_eq_update (crc : UInt32) (byte : UInt8) :
    tableUpdate crc byte = update crc byte := by
  have hentry : ∀ i : Fin 256, table.get i = shiftBits 8 (UInt32.ofNat i) := by
    intro i
    change table[i.val] = _
    simp only [table, Vector.getElem_ofFn]
  have hbyte : (crc ^^^ byte.toUInt32) >>> 8 = crc >>> 8 := by
    have hzero : byte.toUInt32 >>> 8 = 0 := by
      have := byte.toNat_lt
      rw [← UInt32.toNat_inj, UInt32.toNat_shiftRight]
      simp only [UInt8.toNat_toUInt32, Nat.shiftRight_eq_div_pow]
      simpa using Nat.div_eq_of_lt this
    rw [UInt32.shiftRight_xor, hzero, UInt32.xor_zero]
  rw [tableUpdate, update, shiftBits_eight, hbyte, hentry, UInt32.ofNat_toNat]

/-- Folding with the table computes CRC-32. -/
theorem foldl_tableUpdate (bytes : List UInt8) (crc : UInt32) :
    bytes.foldl tableUpdate crc = bytes.foldl update crc := by
  induction bytes generalizing crc with
  | nil => rfl
  | cons byte bytes ih => simp only [List.foldl_cons, tableUpdate_eq_update, ih]

/-! ## Bit by bit -/

/-- One more bit of the message: it is added to the bit that is shifted out. -/
def feedBit (crc : UInt32) (bit : Bool) : UInt32 :=
  if decide (crc &&& 1 ≠ 0) ^^ bit then polynomial ^^^ (crc >>> 1) else crc >>> 1

/-- The low bits of a number, the least significant first. -/
def lowBits (count value : Nat) : List Bool := (List.range count).map value.testBit

/-- The reflected CRC-32 of a message, which is taken in bit by bit. -/
def bitwiseCrc32 (bytes : List UInt8) : UInt32 :=
  (bytes.flatMap fun byte => lowBits 8 byte.toNat).foldl feedBit 0xFFFFFFFF ^^^ 0xFFFFFFFF

theorem lowBits_succ (count value : Nat) :
    lowBits (count + 1) value = value.testBit 0 :: lowBits count (value / 2) := by
  rw [lowBits, List.range_succ_eq_map, List.map_cons, List.map_map]
  congr 1
  apply List.map_congr_left
  intro i _
  exact Nat.testBit_succ value i

/-- A register that a number was added to has taken in the lowest bit of it after one shift. -/
theorem shiftBit_xor_ofNat (crc : UInt32) {value : Nat} (h : value < 2 ^ 32) :
    shiftBit (crc ^^^ UInt32.ofNat value) =
      feedBit crc (value.testBit 0) ^^^ UInt32.ofNat (value / 2) := by
  have hlow : shiftBit (UInt32.ofNat value) =
      (if value.testBit 0 then polynomial else 0) ^^^ UInt32.ofNat (value / 2) := by
    have hbit : (UInt32.ofNat value &&& 1).toNat = value % 2 := by
      rw [UInt32.toNat_and, UInt32.toNat_ofNat', Nat.mod_eq_of_lt h]
      exact Nat.and_one_is_mod value
    have hhalf : UInt32.ofNat value >>> 1 = UInt32.ofNat (value / 2) := by
      rw [← UInt32.toNat_inj, UInt32.toNat_shiftRight, UInt32.toNat_ofNat', UInt32.toNat_ofNat',
        Nat.mod_eq_of_lt h, Nat.mod_eq_of_lt (Nat.lt_of_le_of_lt (Nat.div_le_self _ _) h)]
      simp [Nat.shiftRight_eq_div_pow]
    unfold shiftBit
    rw [hhalf]
    rcases Nat.mod_two_eq_zero_or_one value with hmod | hmod
    · have hzero : UInt32.ofNat value &&& 1 = 0 := UInt32.toNat_inj.mp (hbit.trans hmod)
      simp [hzero, Nat.testBit_zero, hmod]
    · have hone : UInt32.ofNat value &&& 1 ≠ 0 := fun hzero => by
        rw [hzero, hmod] at hbit
        cases hbit
      simp [hone, Nat.testBit_zero, hmod]
  rw [shiftBit_xor, hlow, ← UInt32.xor_assoc]
  congr 1
  unfold shiftBit feedBit
  have hcancel : polynomial ^^^ (crc >>> 1) ^^^ polynomial = crc >>> 1 := by
    rw [UInt32.xor_comm, ← UInt32.xor_assoc, UInt32.xor_self, UInt32.zero_xor]
  cases value.testBit 0 with
  | false => by_cases hcrc : crc &&& 1 = 0 <;> simp [hcrc]
  | true =>
    by_cases hcrc : crc &&& 1 = 0
    · simp [hcrc, UInt32.xor_comm]
    · simp [hcrc, hcancel]

theorem shiftBits_xor_ofNat {count value : Nat} (hcount : count ≤ 32) (h : value < 2 ^ count)
    (crc : UInt32) :
    shiftBits count (crc ^^^ UInt32.ofNat value) = (lowBits count value).foldl feedBit crc := by
  induction count generalizing value crc with
  | zero =>
    obtain rfl : value = 0 := Nat.lt_one_iff.mp h
    exact UInt32.xor_zero
  | succ count ih =>
    have hword : value < 2 ^ 32 :=
      Nat.lt_of_lt_of_le h (Nat.pow_le_pow_right Nat.two_pos hcount)
    rw [lowBits_succ, List.foldl_cons, shiftBits, shiftBit_xor_ofNat crc hword]
    exact ih (Nat.le_of_succ_le hcount) (by omega) _

/-- Taking in a byte at once is taking in its bits. -/
theorem update_eq_feedBit (crc : UInt32) (byte : UInt8) :
    update crc byte = (lowBits 8 byte.toNat).foldl feedBit crc := by
  have hsmall : byte.toNat < 2 ^ 32 := Nat.lt_trans byte.toNat_lt (by omega)
  have hword : byte.toUInt32 = UInt32.ofNat byte.toNat := by
    rw [← UInt32.toNat_inj, UInt8.toNat_toUInt32, UInt32.toNat_ofNat', Nat.mod_eq_of_lt hsmall]
  rw [← shiftBits_xor_ofNat (by omega) byte.toNat_lt crc, update, hword]

theorem crc32_eq_bitwiseCrc32 (bytes : List UInt8) : crc32 bytes = bitwiseCrc32 bytes := by
  have hfold : ∀ crc, bytes.foldl update crc =
      (bytes.flatMap fun byte => lowBits 8 byte.toNat).foldl feedBit crc := by
    induction bytes with
    | nil => exact fun _ => rfl
    | cons byte bytes ih =>
      intro crc
      rw [List.foldl_cons, List.flatMap_cons, List.foldl_append, update_eq_feedBit, ih]
  rw [crc32, bitwiseCrc32, hfold]

end Crc32

end UsbRestore
