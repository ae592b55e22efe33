-- SUMMARY: Arithmetic on 64-bit words that has no result where a word would wrap.
import Mathlib.Algebra.Group.Nat.Defs
import Mathlib.Data.Option.Basic

/-!
# Checked words

Each operation answers with the word the machine computes, and only where that is the number the
operation means. A computation that goes through all of them has no overflow anywhere in it.
-/

namespace Checked

def add (a b : UInt64) : Option UInt64 :=
  if a.toNat + b.toNat < 2 ^ 64 then some (a + b) else none

def sub (a b : UInt64) : Option UInt64 := if b ≤ a then some (a - b) else none

def mul (a b : UInt64) : Option UInt64 :=
  if a.toNat * b.toNat < 2 ^ 64 then some (a * b) else none

def div (a b : UInt64) : Option UInt64 := if b = 0 then none else some (a / b)

/-- The word cut to 32 bits. -/
def narrow (a : UInt64) : Option UInt32 :=
  if a.toNat < 2 ^ 32 then some a.toUInt32 else none

variable {a b : UInt64}

theorem add_eq (h : a.toNat + b.toNat < 2 ^ 64) : add a b = some (a + b) := if_pos h

theorem sub_eq (h : b.toNat ≤ a.toNat) : sub a b = some (a - b) :=
  if_pos (UInt64.le_iff_toNat_le.mpr h)

theorem mul_eq (h : a.toNat * b.toNat < 2 ^ 64) : mul a b = some (a * b) := if_pos h

theorem div_eq (h : b ≠ 0) : div a b = some (a / b) := if_neg h

theorem narrow_eq (h : a.toNat < 2 ^ 32) : narrow a = some a.toUInt32 := if_pos h

theorem toNat_add (h : a.toNat + b.toNat < 2 ^ 64) : (a + b).toNat = a.toNat + b.toNat := by
  rw [UInt64.toNat_add, Nat.mod_eq_of_lt h]

theorem toNat_sub (h : b.toNat ≤ a.toNat) : (a - b).toNat = a.toNat - b.toNat :=
  UInt64.toNat_sub_of_le a b (UInt64.le_iff_toNat_le.mpr h)

theorem toNat_mul (h : a.toNat * b.toNat < 2 ^ 64) : (a * b).toNat = a.toNat * b.toNat := by
  rw [UInt64.toNat_mul, Nat.mod_eq_of_lt h]

theorem toNat_min (a b : UInt64) : (min a b).toNat = min a.toNat b.toNat := by
  simp only [UInt64.min_def, UInt64.le_iff_toNat_le, Nat.min_def]
  split
  · rfl
  · rfl

end Checked
