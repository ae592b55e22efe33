-- SUMMARY: What zeroing through the file pointer leaves of a disk, however its writes are answered.
import UsbRestore.Base.Machine
import UsbRestore.Core.ZeroRange
import UsbRestore.Win.RawDisk

/-!
# Zeroing on Windows

A write goes where the file pointer is and moves it by what it stores; a write that fails may have
stored something and leaves the pointer anywhere. The loop puts it back before it tries again. Two
things are followed: what is zeroed so far, and what the disk remembers of its writes.
-/

namespace UsbRestore

open Prog WindowsError

/-- The drive behind a handle. -/
structure Drive where
  image : Bytes
  pointer : Nat
  /-- How many writes were answered. -/
  writes : Nat
  /-- How many refused writes were waited for. -/
  waits : Nat
  /-- Whether a write has stored something. -/
  accepted : Bool

namespace Drive

/-- A write stores as much as it answers; one that fails stores some first part of its data. -/
def Answered (s : Drive) (data : QByteArray) : Except Dword Dword → Drive → Prop
  | .ok written, s' => written.toNat ≤ data.size ∧
    s' = { s with
      image := s.image.write s.pointer (data.left written.toNat)
      pointer := s.pointer + written.toNat
      writes := s.writes + 1
      accepted := s.accepted || decide (written ≠ 0) }
  | .error _, s' => ∃ stored pointer, stored ≤ data.size ∧
    s' = { s with
      image := s.image.write s.pointer (data.left stored)
      pointer := pointer
      writes := s.writes + 1 }

/-- Only writes to the handle change the image. -/
def step (handle : Handle) (s : Drive) : (o : RawOp) → o.Ans → Drive → Prop
  | .setFilePointerEx target position, answer, s' =>
    if target = handle then
      (answer = .ok () → s' = { s with pointer := position.toNat }) ∧
        ∃ pointer, s' = { s with pointer := pointer }
    else s' = s
  | .writeFile target data, answer, s' => if target = handle then s.Answered data answer s' else s' = s
  | .sleep _, _, s' => s' = { s with waits := s.waits + 1 }
  | _, _, s' => s' = s

/-- A refused write is waited for only as long as none has been accepted, and not too often. -/
def FewWaits (s : Drive) : (o : RawOp) → o.Ans → Drive → Prop
  | .sleep _, _, _ => s.accepted = false ∧ s.waits < RawDisk.MaxNotReadyRetries
  | _, _, _ => True

/-- The disk knows what has become of its writes. -/
structure Remembered (handle : Handle) (disk : RawDisk) (s : Drive) : Prop where
  handle : disk.handle = handle
  accepted : disk.writeAccepted = s.accepted
  retries : disk.notReadyRetries = s.waits
  few : s.waits ≤ RawDisk.MaxNotReadyRetries

/-- From `s` on, what a zeroing owes: a write for each byte, and one for each time it was waited. -/
structure Zeroed (handle : Handle) (image : Bytes) (offset bytes remaining : Nat) (s : Drive)
    (verdict : Except RestoreMessage Unit) (disk : RawDisk) (s' : Drive) : Prop where
  image : image.Zeroed offset bytes verdict s'.image
  remembered : Remembered handle disk s'
  writes : s'.writes + s.waits ≤ s.writes + remaining + s'.waits

end Drive

variable {ε α : Type} {installed : Catalog} {handle : Handle} {s : Drive}

/-! ## Texts -/

/-- A call that a text is put together with. -/
def RawOp.IsWin (o : RawOp) : Prop := ∃ op, o = .win op

theorem Drive.step_isWin {o : RawOp} {ans : o.Ans} {s' : Drive} (ho : o.IsWin)
    (h : Drive.step handle s o ans s') : Drive.FewWaits s o ans s' ∧ s' = s := by
  obtain ⟨op, rfl⟩ := ho
  exact ⟨trivial, h⟩

theorem Prog.Total.ofWin {p : Prog WinI ε α} (h : p.Total) : p.ofWin.Total := by
  induction p with
  | ret a => trivial
  | fail e => exact h.elim
  | spin => exact h.elim
  | call o next ih => exact fun ans => ih ans (h ans)

theorem Prog.satisfies_ofWin (p : Prog WinI ε α) :
    p.ofWin.Satisfies RawOp.IsWin fun _ => True := by
  induction p with
  | ret a => trivial
  | fail e => trivial
  | spin => trivial
  | call o next ih => exact ⟨⟨o, rfl⟩, ih⟩

theorem windowsErrorMessage_total (error : Dword) : (windowsErrorMessage error : Prog WinI ε _).Total := by
  refine Total.call fun message => ?_
  dsimp only
  split
  · trivial
  · trivial

theorem windowsDeviceErrorMessage_total (context : RestoreMessage) (error : Dword) :
    (windowsDeviceErrorMessage installed context error : Prog WinI ε _).Total := by
  unfold windowsDeviceErrorMessage
  split
  · trivial
  · exact (windowsErrorMessage_total error).bind fun _ => trivial

/-- What comes after an error text. -/
theorem surely_deviceError {context : RestoreMessage} {error : Dword}
    {f : RestoreMessage → Prog RawI ε α} {Q : Except ε α → Drive → Prop}
    (hf : ∀ message, (f message).Surely (Drive.step handle) Drive.FewWaits Q s) :
    ((windowsDeviceErrorMessage installed context error).ofWin >>= f).Surely (Drive.step handle)
      Drive.FewWaits Q s :=
  Surely.of_total (windowsDeviceErrorMessage_total context error).ofWin (satisfies_ofWin _)
    (fun _ _ _ => Drive.step_isWin) hf

/-! ## The loop -/

namespace RawDisk

/-- Zeroing that ends in such a way. -/
abbrev Zeroes (handle : Handle) (p : Prog RawI ε (Except RestoreMessage Unit × RawDisk))
    (Q : Except RestoreMessage Unit → RawDisk → Drive → Prop) (s : Drive) : Prop :=
  p.Surely (Drive.step handle) Drive.FewWaits
    (fun r s' => ∃ verdict disk, r = .ok (verdict, disk) ∧ Q verdict disk s') s

variable {image : Bytes} {offset bytes remaining : UInt64} {disk : RawDisk} {start size fuel : Nat}

/-- `start` bytes of the range are zeroed, and the file pointer is at the next one. -/
structure Underway (handle : Handle) (image : Bytes) (offset bytes : UInt64) (start : Nat)
    (remaining : UInt64) (disk : RawDisk) (s : Drive) : Prop where
  remembered : Drive.Remembered handle disk s
  cleared : image.ClearedTo offset.toNat bytes.toNat start s.image
  pointer : s.pointer = offset.toNat + start
  rest : start + remaining.toNat = bytes.toNat

/-- A write from where the pointer is zeroes as much as it stores. -/
theorem Underway.write (h : Underway handle image offset bytes start remaining disk s)
    {count stored : Nat} (hcount : count ≤ remaining.toNat) (hstored : stored ≤ count) :
    image.ClearedTo offset.toNat bytes.toNat (start + stored)
      (s.image.write s.pointer ((Bytes.zeros count).left stored)) := by
  rw [h.pointer]
  exact h.cleared.write (by rw [← h.rest]; omega) hstored

/-- The drive after a write of zeros that was accepted, and after one that was refused. -/
def written (s : Drive) (count : Nat) (answer : Dword) : Drive :=
  { s with
    image := s.image.write s.pointer ((Bytes.zeros count).left answer.toNat)
    pointer := s.pointer + answer.toNat
    writes := s.writes + 1
    accepted := s.accepted || decide (answer ≠ 0) }

def refused (s : Drive) (count stored pointer : Nat) : Drive :=
  { s with
    image := s.image.write s.pointer ((Bytes.zeros count).left stored)
    pointer
    writes := s.writes + 1 }

/-- What an accepted write leaves, where it stored anything. -/
theorem Underway.written (h : Underway handle image offset bytes start remaining disk s)
    {count : Nat} {answer : UInt32} (hcount : count ≤ remaining.toNat)
    (hanswer : answer.toNat ≤ count) (hsome : answer ≠ 0) :
    Underway handle image offset bytes (start + answer.toNat) (remaining - answer.toUInt64)
      { disk with writeAccepted := true } (written s count answer) where
  remembered := by
    refine ⟨h.remembered.handle, ?_, h.remembered.retries, h.remembered.few⟩
    simp [RawDisk.written, hsome]
  cleared := h.write hcount hanswer
  pointer := by
    unfold RawDisk.written
    dsimp only
    rw [h.pointer, Nat.add_assoc]
  rest := by
    have hless : answer.toUInt64.toNat ≤ remaining.toNat := by
      rw [UInt32.toNat_toUInt64]
      exact Nat.le_trans hanswer hcount
    have hrest := h.rest
    rw [Checked.toNat_sub hless, UInt32.toNat_toUInt64]
    rw [UInt32.toNat_toUInt64] at hless
    omega

/-- A write of zeros, and what is left to do after each answer to it. -/
theorem surely_write {f : Except Dword Dword → Prog RawI ε α} {Q : Except ε α → Drive → Prop}
    {count : Nat} (h : Underway handle image offset bytes start remaining disk s)
    (hcount : count ≤ remaining.toNat)
    (hwritten : ∀ answer, answer.toNat ≤ count →
      (f (.ok answer)).Surely (Drive.step handle) Drive.FewWaits Q (written s count answer))
    (hrefused : ∀ code stored pointer,
      Drive.Remembered handle disk (refused s count stored pointer) →
        image.ClearedTo offset.toNat bytes.toNat start (refused s count stored pointer).image →
          (f (.error code)).Surely (Drive.step handle) Drive.FewWaits Q
            (refused s count stored pointer)) :
    (raw (.writeFile disk.handle (Bytes.zeros count)) >>= f).Surely (Drive.step handle)
      Drive.FewWaits Q s := by
  have hdisk := h.remembered
  apply Surely.call
  intro answer s' hstep
  refine ⟨trivial, ?_⟩
  replace hstep : s.Answered (Bytes.zeros count) answer s' := by
    simpa only [Drive.step, hdisk.handle, if_true] using hstep
  cases answer with
  | ok answer =>
    obtain ⟨hle, rfl⟩ := hstep
    exact hwritten answer hle
  | error code =>
    obtain ⟨stored, pointer, hle, rfl⟩ := hstep
    exact hrefused code stored pointer ⟨hdisk.handle, hdisk.accepted, hdisk.retries, hdisk.few⟩
      ((h.write hcount hle).mono (Nat.le_add_right start stored))

/-- The position that the loop seeks to. -/
theorem toNat_position (hrest : start + remaining.toNat = bytes.toNat)
    (hlimit : offset.toNat + bytes.toNat < 2 ^ 64) :
    (offset + (bytes - remaining)).toNat = offset.toNat + start := by
  have hdone : (bytes - remaining).toNat = start := by
    rw [Checked.toNat_sub]
    · omega
    · omega
  rw [Checked.toNat_add]
  · rw [hdone]
  · omega

theorem waited (h : Drive.Remembered handle disk s)
    (hleft : disk.notReadyRetries < MaxNotReadyRetries) (pointer : Nat) :
    Drive.Remembered handle { disk with notReadyRetries := disk.notReadyRetries + 1 }
      { s with pointer, waits := s.waits + 1 } :=
  ⟨h.handle, h.accepted, congrArg (· + 1) h.retries, h.retries ▸ hleft⟩

/-- A refused write is waited for, and the pointer is put back; that can fail, too. -/
theorem surely_waitAndSeek {f : Except Dword Unit → Prog RawI ε α} {Q : Except ε α → Drive → Prop}
    {position : UInt64} (hdisk : Drive.Remembered handle disk s)
    (hfresh : disk.writeAccepted = false) (hleft : disk.notReadyRetries < MaxNotReadyRetries)
    (hmoved : (f (.ok ())).Surely (Drive.step handle) Drive.FewWaits Q
      { s with pointer := position.toNat, waits := s.waits + 1 })
    (hfailed : ∀ code pointer, (f (.error code)).Surely (Drive.step handle) Drive.FewWaits Q
      { s with pointer, waits := s.waits + 1 }) :
    (raw (.sleep NotReadyRetryDelayMs) >>= fun _ =>
      raw (.setFilePointerEx disk.handle position) >>= f).Surely (Drive.step handle)
      Drive.FewWaits Q s := by
  obtain ⟨rfl, haccepted, hretries, -⟩ := hdisk
  apply Surely.call
  rintro _ s' rfl
  refine ⟨⟨haccepted.symm.trans hfresh, hretries ▸ hleft⟩, ?_⟩
  apply Surely.call
  intro moved s' hstep
  refine ⟨trivial, ?_⟩
  obtain ⟨hanswer, pointer, hpointer⟩ := by simpa only [Drive.step, if_true] using hstep
  cases moved with
  | error code =>
    subst hpointer
    exact hfailed code pointer
  | ok _ =>
    obtain rfl := hanswer rfl
    exact hmoved

/-- The request is the smaller of what is left and what the buffer holds. -/
theorem toNat_request (remaining : UInt64) (hsize : size < 2 ^ 64) :
    (min remaining (UInt64.ofNat (Bytes.zeros size).size)).toNat = min remaining.toNat size := by
  rw [Checked.toNat_min]
  exact congrArg _ (UInt64.toNat_ofNat_of_lt' hsize)

/-- However its writes are answered, the loop zeroes a first part of what is left and remembers what
it did. -/
theorem writeZerosFrom_zeroes (hsize : size < 2 ^ 64)
    (hlimit : offset.toNat + bytes.toNat < 2 ^ 64)
    (hfuel : remaining.toNat + (MaxNotReadyRetries - disk.notReadyRetries) < fuel)
    (hunderway : Underway handle image offset bytes start remaining disk s) :
    Zeroes (ε := ε) handle
      (writeZerosFrom installed offset bytes (Bytes.zeros size) fuel disk remaining)
      (Drive.Zeroed handle image offset.toNat bytes.toNat remaining.toNat s) s := by
  induction fuel generalizing disk remaining start s with
  | zero => exact absurd hfuel (Nat.not_lt_zero _)
  | succ fuel ih =>
    have hdisk := hunderway.remembered
    have hrest := hunderway.rest
    unfold writeZerosFrom
    split
    · next hdone =>
      subst hdone
      obtain rfl : start = bytes.toNat := hrest
      exact ⟨_, _, rfl, hunderway.cleared.eq_clear, hdisk, Nat.le_refl _⟩
    · next hmore =>
      have hpos : 0 < remaining.toNat :=
        Nat.pos_of_ne_zero fun hzero => hmore (UInt64.toNat_inj.mp hzero)
      have hcount := toNat_request remaining hsize
      generalize min remaining (UInt64.ofNat (Bytes.zeros size).size) = count at hcount
      have hfits : count.toNat ≤ remaining.toNat := hcount ▸ Nat.min_le_left _ _
      dsimp only
      rw [Bytes.left_zeros (by omega)]
      refine surely_write hunderway hfits (fun answer hle => ?_)
        fun code stored pointer hrefused hkept => ?_
      · dsimp only
        split
        · next hnone =>
          subst hnone
          refine ⟨_, _, rfl, (hunderway.write hfits hle).zeroed_error,
            ⟨hdisk.handle, ?_, hdisk.retries, hdisk.few⟩, ?_⟩
          · simpa [written] using hdisk.accepted
          · dsimp only [written]
            omega
        · next hsome =>
          have hwritten : 0 < answer.toNat :=
            Nat.pos_of_ne_zero fun hzero => hsome (UInt32.toNat_inj.mp hzero)
          have hagain := hunderway.written hfits hle hsome
          have hless := hagain.rest
          refine (ih ?_ hagain).mono ?_
          · dsimp only
            omega
          · rintro r s'' ⟨verdict, disk', rfl, himage, hdisk', hwrites⟩
            refine ⟨_, _, rfl, himage, hdisk', ?_⟩
            dsimp only [written] at hwrites
            omega
      · dsimp only
        split
        · next hretry =>
          obtain ⟨_, hfresh, hleft⟩ := hretry
          have hremembered := waited hrefused hleft
          refine surely_waitAndSeek hrefused hfresh hleft ?_ fun code pointer => ?_
          · refine (ih ?_ ⟨hremembered _, hkept, toNat_position hrest hlimit, hrest⟩).mono ?_
            · dsimp only
              omega
            · rintro r s'' ⟨verdict, disk', rfl, himage, hdisk', hwrites⟩
              refine ⟨_, _, rfl, himage, hdisk', ?_⟩
              dsimp only [refused] at hwrites
              omega
          · apply surely_deviceError
            intro message
            refine ⟨_, _, rfl, hkept.zeroed_error, hremembered pointer, ?_⟩
            dsimp only [refused]
            omega
        · apply surely_deviceError
          intro message
          refine ⟨_, _, rfl, hkept.zeroed_error, hrefused, ?_⟩
          dsimp only [refused]
          omega

theorem zeroBufferBytes_lt (sector : UInt64) : zeroBufferBytes sector < 2 ^ 64 := by
  unfold zeroBufferBytes
  dsimp only
  split
  · exact UInt64.toNat_lt _
  · split
    · next hsmall => exact Nat.lt_trans hsmall (by decide)
    · decide

theorem writeZeros_of_empty (disk : RawDisk) (offset : UInt64) (sectorSize : UInt32) :
    (disk.writeZeros installed fuel offset 0 sectorSize : Prog RawI ε _) = .ret (.ok (), disk) :=
  rfl

/-- Refused before anything is asked. -/
theorem writeZeros_of_unaligned (disk : RawDisk) {sectorSize : UInt32}
    (hsupported : isSupportedSectorSize sectorSize = true) (hbytes : bytes ≠ 0)
    (hunaligned : ¬SectorAligned offset bytes sectorSize) :
    ∃ message, (disk.writeZeros installed fuel offset bytes sectorSize : Prog RawI ε _) =
      .ret (.error message, disk) := by
  have herror : (!(unalignedZeroRangeError offset bytes sectorSize .english).isEmpty) = true := by
    rw [Bool.not_eq_true', Bool.eq_false_iff]
    exact fun hempty => hunaligned ((unalignedZeroRangeError_isEmpty_iff hsupported).mp hempty)
  unfold writeZeros
  rw [if_neg hbytes]
  exact ⟨_, if_pos herror⟩

/-- Whatever is asked to be zeroed. -/
theorem writeZeros_zeroes {sectorSize : UInt32} (hdisk : Drive.Remembered handle disk s)
    (hlimit : offset.toNat + bytes.toNat < 2 ^ 64)
    (hfuel : bytes.toNat + MaxNotReadyRetries < fuel) :
    Zeroes (ε := ε) handle (disk.writeZeros installed fuel offset bytes sectorSize)
      (Drive.Zeroed handle s.image offset.toNat bytes.toNat bytes.toNat s) s := by
  have hnothing : ∀ message : RestoreMessage,
      s.image.Zeroed offset.toNat bytes.toNat (.error message) s.image := fun _ =>
    (Bytes.ClearedTo.refl s.image offset.toNat bytes.toNat).zeroed_error
  have hhandle := hdisk.handle
  unfold writeZeros
  split
  · next hempty =>
    subst hempty
    exact ⟨_, _, rfl, (s.image.clear_zero _).symm, hdisk, Nat.le_refl _⟩
  · dsimp only
    split
    · exact ⟨_, _, rfl, hnothing _, hdisk, by omega⟩
    · apply Surely.call
      intro moved s' hmoved
      refine ⟨trivial, ?_⟩
      obtain ⟨hmoved, pointer, hpointer⟩ := by
        simpa only [Drive.step, hhandle, if_true] using hmoved
      have hdisk' : ∀ pointer, Drive.Remembered handle disk { s with pointer := pointer } :=
        fun _ => ⟨hdisk.handle, hdisk.accepted, hdisk.retries, hdisk.few⟩
      cases moved with
      | error code =>
        apply surely_deviceError
        intro message
        subst hpointer
        exact ⟨_, _, rfl, hnothing _, hdisk' pointer, by dsimp only; omega⟩
      | ok _ =>
        obtain rfl := hmoved rfl
        have henough : bytes.toNat + (MaxNotReadyRetries - disk.notReadyRetries) < fuel :=
          Nat.lt_of_le_of_lt (Nat.add_le_add_left (Nat.sub_le _ _) _) hfuel
        refine (writeZerosFrom_zeroes (zeroBufferBytes_lt _) hlimit henough
          ⟨hdisk' offset.toNat, Bytes.ClearedTo.refl s.image _ _, (Nat.add_zero _).symm,
            Nat.zero_add _⟩).mono ?_
        rintro r s'' ⟨verdict, disk', rfl, h⟩
        exact ⟨_, _, rfl, h.image, h.remembered, h.writes⟩

/-! ## Both ends -/

theorem refreshLayout_surely :
    (disk.refreshLayout installed : Prog RawI ε _).Surely (Drive.step handle) Drive.FewWaits
      (fun r s' => (∃ refreshed, r = .ok refreshed) ∧ s' = s) s := by
  apply Surely.call
  rintro answer _ rfl
  refine ⟨trivial, ?_⟩
  cases answer with
  | ok _ => exact ⟨⟨_, rfl⟩, rfl⟩
  | error code =>
    apply surely_deviceError
    exact fun message => ⟨⟨_, rfl⟩, rfl⟩

theorem clearPartitionSignatures_clears {diskSize : UInt64} {sectorSize : UInt32}
    (hdisk : Drive.Remembered handle disk s)
    (hfuel : diskSize.toNat + MaxNotReadyRetries < fuel) :
    Zeroes (ε := ε) handle (disk.clearPartitionSignatures installed fuel diskSize sectorSize)
      (fun verdict disk' s' =>
        SignaturesCleared s.image (signatureClearRange diskSize sectorSize) verdict s'.image ∧
          Drive.Remembered handle disk' s') s := by
  unfold clearPartitionSignatures
  generalize hclear : signatureClearRange diskSize sectorSize = clear
  dsimp only
  split
  · exact ⟨_, _, rfl, .inl ⟨0, Nat.zero_le _, (s.image.clear_zero 0).symm⟩, hdisk⟩
  · next hpos =>
    have hfits : ClearRangeFits diskSize clear := by
      subst hclear
      exact signatureClearRange_fits hpos
    have hinside := hfits.inside
    have hlimit := diskSize.toNat_lt
    have hhead : Zeroes (ε := ε) handle
        (disk.writeZeros installed fuel 0 clear.bytes clear.sectorSize)
        (Drive.Zeroed handle s.image 0 clear.bytes.toNat clear.bytes.toNat s) s :=
      writeZeros_zeroes hdisk (by rw [UInt64.toNat_zero]; omega) (by omega)
    refine Surely.bind hhead ?_ ?_
    · rintro ⟨head, disk'⟩ s' ⟨_, _, hr, himage, hdisk', _⟩
      cases hr
      cases head with
      | error message => exact ⟨_, _, rfl, .inl himage, hdisk'⟩
      | ok _ =>
        have htail : Zeroes (ε := ε) handle
            (disk'.writeZeros installed fuel clear.tailOffset clear.bytes clear.sectorSize)
            (Drive.Zeroed handle s'.image clear.tailOffset.toNat clear.bytes.toNat
              clear.bytes.toNat s') s' :=
          writeZeros_zeroes hdisk' (by omega) (by omega)
        refine Surely.bind htail ?_ ?_
        · rintro ⟨tail, disk''⟩ s'' ⟨_, _, hr, himage', hdisk'', _⟩
          cases hr
          have himage : s'.image = s.image.clear 0 clear.bytes.toNat := himage
          rw [himage] at himage'
          cases tail with
          | error message => exact ⟨_, _, rfl, .inr himage', hdisk''⟩
          | ok _ =>
            apply Surely.call
            rintro _ _ rfl
            refine ⟨trivial, Surely.bind refreshLayout_surely ?_ ?_⟩
            · rintro _ _ ⟨_, rfl⟩
              exact ⟨_, _, rfl, himage', hdisk''⟩
            · rintro e _ ⟨⟨_, he⟩, _⟩
              cases he
        · rintro e s'' ⟨_, _, he, _⟩
          cases he
    · rintro e s' ⟨_, _, he, _⟩
      cases he

/-! ## The life of a disk -/

/-- What can become of a disk and its drive: it is opened, it zeroes, and other calls change the drive
as they like, but for what is counted. -/
inductive Used (ε : Type) (handle : Handle) : RawDisk → Drive → Prop where
  | opened {disk : RawDisk} {s : Drive} (isOpen : disk.handle = handle)
    (fresh : disk.writeAccepted = false ∧ disk.notReadyRetries = 0)
    (untouched : s.accepted = false ∧ s.waits = 0) : Used ε handle disk s
  | zeroed {disk disk' : RawDisk} {s s' : Drive} {installed : Catalog} {fuel : Nat}
    {offset bytes : UInt64} {sectorSize : UInt32} {verdict : Except RestoreMessage Unit}
    (used : Used ε handle disk s) (limit : offset.toNat + bytes.toNat < 2 ^ 64)
    (enough : bytes.toNat + MaxNotReadyRetries < fuel)
    (ends : Ends (Drive.step handle)
      (disk.writeZeros installed fuel offset bytes sectorSize : Prog RawI ε _) s
      (.ok (verdict, disk')) s') : Used ε handle disk' s'
  | between {disk : RawDisk} {s s' : Drive} (used : Used ε handle disk s)
    (counted : s'.accepted = s.accepted ∧ s'.waits = s.waits) : Used ε handle disk s'

theorem Used.remembered (h : Used ε handle disk s) : Drive.Remembered handle disk s := by
  induction h with
  | opened isOpen fresh untouched =>
    refine ⟨isOpen, fresh.1.trans untouched.1.symm, fresh.2.trans untouched.2.symm, ?_⟩
    rw [untouched.2]
    exact Nat.zero_le _
  | zeroed used limit enough ends ih =>
    obtain ⟨_, _, hr, hzeroed⟩ := (writeZeros_zeroes ih limit enough).ends ends
    cases hr
    exact hzeroed.remembered
  | between used counted ih =>
    refine ⟨ih.handle, ih.accepted.trans counted.1.symm, ih.retries.trans counted.2.symm, ?_⟩
    rw [counted.2]
    exact ih.few

end RawDisk

end UsbRestore
