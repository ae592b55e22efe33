-- SUMMARY: What zeroing through a block device leaves of its image, however its writes are answered.
import UsbRestore.Base.Machine
import UsbRestore.Core.ZeroRange
import UsbRestore.Linux.Restore

/-!
# Zeroing on Linux

A write at an offset may store less than it was given, may be interrupted, and may fail after it has
stored something. The two loops are followed with what is zeroed so far; a failure leaves at least
as much as before, and never anything outside the range.
-/

namespace UsbRestore

open Prog

/-- The device behind a descriptor. -/
structure Medium where
  image : Bytes
  /-- How many more writes are interrupted. -/
  interrupts : Nat
  /-- How many writes were answered, interruptions apart. -/
  results : Nat

namespace Medium

/-- A write stores as much as it answers; one that fails stores some first part of its data. -/
def Answered (s : Medium) (data : QByteArray) (offset : Nat) : Except Errno Nat → Medium → Prop
  | .ok count, s' =>
    count ≤ data.size ∧
      s' = { s with image := s.image.write offset (data.left count), results := s.results + 1 }
  | .error errorNumber, s' =>
    (∃ stored, stored ≤ data.size ∧ s'.image = s.image.write offset (data.left stored)) ∧
      if errorNumber = Errno.EINTR then
        s.interrupts = s'.interrupts + 1 ∧ s'.results = s.results
      else s'.interrupts = s.interrupts ∧ s'.results = s.results + 1

/-- Only writes to the descriptor change the image. -/
def step (fd : Fd) (s : Medium) : (o : LinuxOp) → o.Ans → Medium → Prop
  | .sys (.pwrite target data offset), answer, s' =>
    if target = fd then s.Answered data offset.toNat answer s' else s' = s
  | _, _, s' => s' = s

theorem answered_of_step {fd : Fd} {s s' : Medium} {data : QByteArray} {offset : UInt64}
    {answer : Except Errno Nat} (h : s.step fd (.sys (.pwrite fd data offset)) answer s') :
    s.Answered data offset.toNat answer s' := by
  simpa only [step, if_true] using h

/-- From `s` on, what a part of the zeroing owes: the first `target` bytes where it returns, after at
most `limit` answers. -/
structure Cleared (image : Bytes) (offset total target limit : Nat) (s : Medium)
    (r : Except RestoreMessage Unit) (s' : Medium) : Prop where
  image : image.ClearedTo offset total (match r with | .ok _ => target | .error _ => 0) s'.image
  interrupts : s'.interrupts ≤ s.interrupts
  results : s'.results ≤ s.results + limit

/-- From `s` on, what the whole zeroing owes: no more answers than bytes. -/
structure Zeroed (offset bytes : Nat) (s : Medium) (r : Except RestoreMessage Unit) (s' : Medium) :
    Prop where
  image : s.image.Zeroed offset bytes r s'.image
  interrupts : s'.interrupts ≤ s.interrupts
  results : s'.results ≤ s.results + bytes

end Medium

variable [Host]

namespace BlockDevice

variable {installed : Catalog} {device : BlockDevice} {fd : Fd} {image : Bytes}
  {offset total start : Nat} {cursor : UInt64} {fuel : LoopFuel} {s : Medium}

/-- Zeroing, whatever the steps. -/
abbrev Zeroes (fd : Fd) (p : Prog LinuxI RestoreMessage Unit)
    (Q : Except RestoreMessage Unit → Medium → Prop) (s : Medium) : Prop :=
  p.Surely (Medium.step fd) (fun _ _ _ _ => True) Q s

/-- The loop of `writeAt`, with `start` of the `total` bytes zeroed before it. -/
theorem writeFrom_zeroes {count written : Nat} (hcursor : cursor.toNat = offset + start)
    (hlimit : offset + total < 2 ^ 64) (hfits : start + count ≤ total) (hwritten : written ≤ count)
    (hfuel : count - written + s.interrupts < fuel)
    (hcleared : image.ClearedTo offset total (start + written) s.image) :
    Zeroes fd (device.writeFrom installed fd cursor (Bytes.zeros count) fuel written)
      (Medium.Cleared image offset total (start + count) (count - written) s) s := by
  induction fuel generalizing written s with
  | zero => exact absurd hfuel (Nat.not_lt_zero _)
  | succ fuel ih =>
    unfold writeFrom
    split
    · next hdone =>
      obtain rfl : written = count := Nat.le_antisymm hwritten hdone
      exact ⟨hcleared, Nat.le_refl _, Nat.le_add_right _ _⟩
    · next hmore =>
      have hmore : written < count := Nat.lt_of_not_le hmore
      -- Where the write goes, and what it may store there.
      have hposition : (cursor + UInt64.ofNat written).toNat = offset + (start + written) := by
        have hsmall : (UInt64.ofNat written).toNat = written :=
          UInt64.toNat_ofNat_of_lt' (Nat.lt_of_le_of_lt (by omega) hlimit)
        rw [UInt64.toNat_add, hsmall, hcursor, Nat.mod_eq_of_lt]
        · omega
        · omega
      have hstored : ∀ stored, stored ≤ count - written →
          image.ClearedTo offset total (start + written + stored)
            (s.image.write (offset + (start + written))
              ((Bytes.zeros (count - written)).left stored)) :=
        fun stored hle => hcleared.write (by omega) hle
      apply Surely.call
      intro answer s' hstep
      refine ⟨trivial, ?_⟩
      replace hstep : s.Answered (Bytes.zeros (count - written))
          (cursor + UInt64.ofNat written).toNat answer s' := Medium.answered_of_step hstep
      rw [hposition] at hstep
      cases answer with
      | error errorNumber =>
        obtain ⟨⟨stored, hle, himage⟩, hcounts⟩ := hstep
        have hkept : image.ClearedTo offset total (start + written) s'.image := by
          rw [himage]
          exact (hstored stored hle).mono (Nat.le_add_right _ _)
        dsimp only
        split at hcounts
        · next hinterrupted =>
          rw [if_pos hinterrupted]
          refine (ih hwritten (by omega) hkept).mono fun r s'' h => ?_
          exact ⟨h.image, Nat.le_trans h.interrupts (by omega), hcounts.2 ▸ h.results⟩
        · next hfailed =>
          rw [if_neg hfailed]
          exact ⟨hkept.mono (Nat.zero_le _), Nat.le_of_eq hcounts.1, by omega⟩
      | ok taken =>
        obtain ⟨hle, rfl⟩ := hstep
        cases taken with
        | zero =>
          refine ⟨(hstored 0 hle).mono (Nat.zero_le _), Nat.le_refl _, ?_⟩
          show s.results + 1 ≤ _
          omega
        | succ taken =>
          have hle : taken + 1 ≤ count - written := hle
          have hkept : image.ClearedTo offset total (start + (written + (taken + 1)))
              (s.image.write (offset + (start + written))
                ((Bytes.zeros (count - written)).left (taken + 1))) := by
            rw [← Nat.add_assoc]
            exact hstored (taken + 1) hle
          refine (ih (by omega) ?_ hkept).mono fun r s'' h => ?_
          · show count - (written + (taken + 1)) + s.interrupts < fuel
            omega
          · refine ⟨h.image, h.interrupts, Nat.le_trans h.results ?_⟩
            show s.results + 1 + _ ≤ _
            omega

/-- The loop of `writeZeros`, over requests of any size. -/
theorem writeZerosFrom_zeroes {size rounds : Nat} {remaining : UInt64} (hsize : 0 < size)
    (hsize' : size < 2 ^ 64) (hdevice : device.fd = none ∨ device.fd = some fd)
    (hcursor : cursor.toNat = offset + start) (hremaining : start + remaining.toNat = total)
    (hlimit : offset + total < 2 ^ 64) (hfuel : total + s.interrupts < fuel)
    (hrounds : remaining.toNat < rounds) (hcleared : image.ClearedTo offset total start s.image) :
    Zeroes fd (device.writeZerosFrom installed fuel (Bytes.zeros size) rounds cursor remaining)
      (Medium.Cleared image offset total total remaining.toNat s) s := by
  induction rounds generalizing cursor remaining start s with
  | zero => exact absurd hrounds (Nat.not_lt_zero _)
  | succ rounds ih =>
    unfold writeZerosFrom
    split
    · next hdone =>
      subst hdone
      obtain rfl : start = total := hremaining
      exact ⟨hcleared, Nat.le_refl _, Nat.le_add_right _ _⟩
    · next hmore =>
      have hpos : 0 < remaining.toNat :=
        Nat.pos_of_ne_zero fun hzero => hmore (UInt64.toNat_inj.mp hzero)
      -- The request is the smaller of what is left and what the buffer holds.
      generalize hcount : (if remaining < UInt64.ofNat (Bytes.zeros size).size then remaining
        else UInt64.ofNat (Bytes.zeros size).size) = count
      have hbuffer : (UInt64.ofNat (Bytes.zeros size).size).toNat = size :=
        UInt64.toNat_ofNat_of_lt' hsize'
      have hrequest : 0 < count.toNat ∧ count.toNat ≤ remaining.toNat ∧ count.toNat ≤ size := by
        subst hcount
        split
        · next hless =>
          rw [UInt64.lt_iff_toNat_lt, hbuffer] at hless
          omega
        · next hless =>
          rw [UInt64.lt_iff_toNat_lt, hbuffer] at hless
          omega
      obtain ⟨hcountpos, hleft, hroom⟩ := hrequest
      have hdata : (if count.toNat = (Bytes.zeros size).size then Bytes.zeros size
          else (Bytes.zeros size).left count.toNat) = Bytes.zeros count.toNat := by
        split
        · next heq => rw [heq, Bytes.size_zeros]
        · exact Bytes.left_zeros hroom
      simp only [hdata]
      have hcursor' : (cursor + count).toNat = offset + (start + count.toNat) := by
        rw [Checked.toNat_add]
        · omega
        · omega
      have hremaining' : (remaining - count).toNat = remaining.toNat - count.toNat :=
        Checked.toNat_sub hleft
      refine Surely.bind (Q := Medium.Cleared image offset total (start + count.toNat) count.toNat s)
        ?_ ?_ ?_
      · unfold writeAt
        rcases hdevice with hclosed | hopen
        · rw [hclosed]
          exact ⟨hcleared.mono (Nat.zero_le _), Nat.le_refl _, Nat.le_add_right _ _⟩
        · rw [hopen]
          exact writeFrom_zeroes hcursor hlimit (by omega) (Nat.zero_le _) (by omega) hcleared
      · intro _ s' hwritten
        have hinterrupts := hwritten.interrupts
        have hresults := hwritten.results
        refine (ih hcursor' (by omega) (by omega) (by omega) hwritten.image).mono fun r s'' h => ?_
        exact ⟨h.image, Nat.le_trans h.interrupts hinterrupts, Nat.le_trans h.results (by omega)⟩
      · intro e s' hwritten
        exact ⟨hwritten.image, hwritten.interrupts, Nat.le_trans hwritten.results (by omega)⟩

omit [Host] in
/-- The buffer of zeros is never empty. -/
theorem zeroChunk_eq (bytes : UInt64) (sectorSize : UInt32) :
    ∃ size, 0 < size ∧ size < 2 ^ 64 ∧ zeroChunk bytes sectorSize = Bytes.zeros size := by
  have hsector : 0 < (supportedOr512 sectorSize).toUInt64.toNat := by
    rcases supportedOr512_cases sectorSize with h | h | h | h <;> rw [h] <;> decide
  unfold zeroChunk
  generalize (if bytes < WriteChunkBytes then bytes else WriteChunkBytes) = limit
  dsimp only
  split
  · next hpos => exact ⟨_, UInt64.lt_iff_toNat_lt.mp hpos, UInt64.toNat_lt _, rfl⟩
  · exact ⟨_, hsector, UInt64.toNat_lt _, rfl⟩

theorem writeZeros_of_empty (device : BlockDevice) (offset : UInt64) (sectorSize : UInt32) :
    device.writeZeros installed fuel offset 0 sectorSize = .ret () := rfl

/-- Refused before anything is asked. -/
theorem writeZeros_of_unaligned (device : BlockDevice) {offset bytes : UInt64}
    {sectorSize : UInt32} (hsupported : isSupportedSectorSize sectorSize = true)
    (hbytes : bytes ≠ 0) (hunaligned : ¬SectorAligned offset bytes sectorSize) :
    ∃ message, device.writeZeros installed fuel offset bytes sectorSize = .fail message := by
  have herror : (!(unalignedZeroRangeError offset bytes sectorSize .english).isEmpty) = true := by
    rw [Bool.not_eq_true', Bool.eq_false_iff]
    exact fun hempty => hunaligned ((unalignedZeroRangeError_isEmpty_iff hsupported).mp hempty)
  unfold writeZeros
  rw [if_neg hbytes]
  exact ⟨_, if_pos herror⟩

/-- However its writes are answered, zeroing clears a first part of the range, and all of it where
it succeeds. -/
theorem writeZeros_zeroes {offset bytes : UInt64} {sectorSize : UInt32}
    (hdevice : device.fd = none ∨ device.fd = some fd)
    (hsupported : isSupportedSectorSize sectorSize = true)
    (haligned : SectorAligned offset bytes sectorSize)
    (hlimit : offset.toNat + bytes.toNat < 2 ^ 64) (hfuel : bytes.toNat + s.interrupts < fuel) :
    Zeroes fd (device.writeZeros installed fuel offset bytes sectorSize)
      (Medium.Zeroed offset.toNat bytes.toNat s) s := by
  unfold writeZeros
  split
  · next hempty =>
    subst hempty
    exact ⟨(s.image.clear_zero _).symm, Nat.le_refl _, Nat.le_refl _⟩
  · have herror : ¬(!(unalignedZeroRangeError offset bytes sectorSize .english).isEmpty) = true := by
      rw [(unalignedZeroRangeError_isEmpty_iff hsupported).mpr haligned]
      exact Bool.false_ne_true
    rw [if_neg herror]
    obtain ⟨size, hpos, hsize, hchunk⟩ := zeroChunk_eq bytes sectorSize
    rw [hchunk]
    have hstart := Bytes.ClearedTo.refl s.image offset.toNat bytes.toNat
    refine (writeZerosFrom_zeroes hpos hsize hdevice (Nat.add_zero _).symm (Nat.zero_add _) hlimit
      hfuel (by omega) hstart).mono fun r s' h => ?_
    refine ⟨?_, h.interrupts, h.results⟩
    cases r with
    | ok _ => exact h.image.eq_clear
    | error e => exact h.image.zeroed_error

end BlockDevice

/-- Both ends of a disk, as `performLinuxRestore` clears them. -/
theorem clearSignatures_clears {installed : Catalog} {device : BlockDevice} {fd : Fd}
    {fuel : LoopFuel} {s : Medium} {disk : DiskInfo}
    (hdevice : device.fd = none ∨ device.fd = some fd) (hsize : s.image.size = disk.size.toNat)
    (hfuel : disk.size.toNat + s.interrupts < fuel) :
    BlockDevice.Zeroes fd (clearSignatures installed fuel disk device) (fun r s' =>
      SignaturesCleared s.image (signatureClearRange disk.size disk.sectorSize) r s'.image) s := by
  unfold clearSignatures
  generalize hclear : signatureClearRange disk.size disk.sectorSize = clear
  dsimp only
  split
  · exact .inl ⟨0, Nat.zero_le _, (s.image.clear_zero 0).symm⟩
  · next hpos =>
    have hfits : ClearRangeFits disk.size clear := by
      subst hclear
      exact signatureClearRange_fits hpos
    have hinside := hfits.inside
    have hlimit := disk.size.toNat_lt
    refine Surely.bind (BlockDevice.writeZeros_zeroes hdevice hfits.supported hfits.head
      (by rw [UInt64.toNat_zero]; omega) (by omega)) ?_ ?_
    · intro _ s' hhead
      have hinterrupts := hhead.interrupts
      refine (BlockDevice.writeZeros_zeroes hdevice hfits.supported hfits.tail (by omega)
        (by omega)).mono fun r s'' htail => ?_
      have himage : s'.image = s.image.clear 0 clear.bytes.toNat := hhead.image
      have htail := htail.image
      rw [himage] at htail
      cases r with
      | ok _ => exact htail
      | error e => exact .inr htail
    · exact fun e s' hhead => .inl hhead.image

end UsbRestore
