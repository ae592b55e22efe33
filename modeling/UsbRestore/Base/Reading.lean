-- SUMMARY: Computations over a byte buffer, with the offsets that they read.
import UsbRestore.Base.Bytes

/-!
# Reading a buffer

A reading returns a value and leaves the list of the offsets it has looked at, in order. Where a
buffer comes from outside, what matters is that list: a value says nothing about a byte that was read
and thrown away.
-/

namespace UsbRestore

/-- What is returned, and the offsets that were read. -/
def Reading (α : Type) : Type := Bytes → α × List Nat

namespace Reading

variable {α β ι : Type}

def value (reading : Reading α) (b : Bytes) : α := (reading b).1

def offsets (reading : Reading α) (b : Bytes) : List Nat := (reading b).2

instance : Monad Reading where
  pure a := fun _ => (a, [])
  bind reading next := fun b =>
    ((next (reading.value b)).value b, reading.offsets b ++ (next (reading.value b)).offsets b)

/-- How long the buffer is; no byte is read. -/
def size : Reading Nat := fun b => (b.size, [])

/-- One byte. -/
def byte (offset : Nat) : Reading UInt8 := fun b => (b.byteAt offset, [offset])

/-- A number of `count` bytes, the least significant first. -/
def le (offset : Nat) : (count : Nat) → Reading Nat
  | 0 => pure 0
  | count + 1 => do
    let low ← byte offset
    let high ← le (offset + 1) count
    return low.toNat + 256 * high

/-- One reading after the other. -/
def each (reading : ι → Reading α) : List ι → Reading (List α)
  | [] => pure []
  | i :: rest => do
    let first ← reading i
    let later ← each reading rest
    return first :: later

/-- One reading after the other, up to the first that holds. -/
def any (reading : ι → Reading Bool) : List ι → Reading Bool
  | [] => pure false
  | i :: rest => do
    if ← reading i then return true
    any reading rest

/-! ## Values and offsets -/

@[simp] theorem value_pure (a : α) (b : Bytes) : (pure a : Reading α).value b = a := rfl

@[simp] theorem offsets_pure (a : α) (b : Bytes) : (pure a : Reading α).offsets b = [] := rfl

@[simp] theorem value_bind (reading : Reading α) (next : α → Reading β) (b : Bytes) :
    (reading >>= next).value b = (next (reading.value b)).value b := rfl

@[simp] theorem offsets_bind (reading : Reading α) (next : α → Reading β) (b : Bytes) :
    (reading >>= next).offsets b =
      reading.offsets b ++ (next (reading.value b)).offsets b := rfl

@[simp] theorem value_size (b : Bytes) : size.value b = b.size := rfl

@[simp] theorem offsets_size (b : Bytes) : size.offsets b = [] := rfl

@[simp] theorem value_byte (offset : Nat) (b : Bytes) : (byte offset).value b = b.byteAt offset :=
  rfl

@[simp] theorem offsets_byte (offset : Nat) (b : Bytes) : (byte offset).offsets b = [offset] := rfl

@[simp] theorem value_le (offset count : Nat) (b : Bytes) :
    (le offset count).value b = b.readLe offset count := by
  induction count generalizing offset with
  | zero => rfl
  | succ count ih => simp only [le, value_bind, value_byte, ih, value_pure, Bytes.readLe]

@[simp] theorem offsets_le (offset count : Nat) (b : Bytes) :
    (le offset count).offsets b = List.range' offset count := by
  induction count generalizing offset with
  | zero => rfl
  | succ count ih =>
    simp only [le, offsets_bind, offsets_byte, ih, offsets_pure, List.append_nil, List.range'_succ,
      List.singleton_append]

theorem value_each (reading : ι → Reading α) (items : List ι) (b : Bytes) :
    (each reading items).value b = items.map fun i => (reading i).value b := by
  induction items with
  | nil => rfl
  | cons i rest ih => simp only [each, value_bind, ih, value_pure, List.map_cons]

theorem offsets_each (reading : ι → Reading α) (items : List ι) (b : Bytes) :
    (each reading items).offsets b = items.flatMap fun i => (reading i).offsets b := by
  induction items with
  | nil => rfl
  | cons i rest ih =>
    simp only [each, offsets_bind, ih, offsets_pure, List.append_nil, List.flatMap_cons]

/-- `any` looks at the items up to the first that holds. -/
theorem offsets_any (reading : ι → Reading Bool) (items : List ι) (b : Bytes) :
    (any reading items).offsets b =
      (items.take (items.findIdx (fun i => (reading i).value b) + 1)).flatMap fun i =>
        (reading i).offsets b := by
  induction items with
  | nil => rfl
  | cons i rest ih =>
    rw [any, offsets_bind, List.findIdx_cons, List.take_succ_cons, List.flatMap_cons]
    cases hvalue : (reading i).value b with
    | true => simp
    | false =>
      rw [cond_false, ← ih]
      rfl

end Reading

end UsbRestore
