-- SUMMARY: What the raw writes of a restore leave on the drive, from the clearing of its ends to the new table.
import UsbRestore.Base.Storing
import UsbRestore.Linux.UsbDrive

/-!
# The writes of a restore

The data of each write goes out in as many calls as the device wants. Where each call may write is known
whatever is answered; what is stored in the end is known where the writes succeed.
-/

namespace UsbRestore

open Prog

/-! ## Where the calls write -/

/-- A raw write to the descriptor, of bytes that all lie in the set. -/
def LinuxOp.WritesIn (fd : Fd) (S : Nat → Prop) : LinuxOp → Prop
  | .sys (.pwrite target data offset) => target = fd ∧ ∀ k < data.size, S (offset.toNat + k)
  | _ => False

/-- What the calls of a part that only writes in the set do. -/
abbrev WritingIn (fd : Fd) (S : Nat → Prop) {α : Type} (p : Prog LinuxI RestoreMessage α) : Prop :=
  p.Satisfies (LinuxOp.WritesIn fd S) fun _ => True

section

variable [Host] {installed : Catalog} {device : BlockDevice} {fd : Fd} {fuel : LoopFuel}
  {S : Nat → Prop} {data : QByteArray} {offset : UInt64}

omit [Host] in
/-- Two parts that write within a set of offsets do so one after the other. -/
theorem writingIn_seq {α β : Type} {p : Prog LinuxI RestoreMessage α}
    {f : α → Prog LinuxI RestoreMessage β} (h : WritingIn fd S p) (hf : ∀ a, WritingIn fd S (f a)) :
    WritingIn fd S (p >>= f) :=
  .bind h (fun a _ => hf a) fun _ _ => trivial

namespace BlockDevice

theorem writeFrom_writingIn {written : Nat} (hlimit : offset.toNat + data.size < 2 ^ 64)
    (hS : ∀ k < data.size, S (offset.toNat + k)) :
    WritingIn fd S (device.writeFrom installed fd offset data fuel written) := by
  induction fuel generalizing written with
  | zero => trivial
  | succ fuel ih =>
    unfold writeFrom
    split
    · trivial
    · next hmore =>
      have hposition : (offset + UInt64.ofNat written).toNat = offset.toNat + written := by
        have hsmall : (UInt64.ofNat written).toNat = written :=
          UInt64.toNat_ofNat_of_lt' (Nat.lt_of_le_of_lt (by omega) hlimit)
        rw [UInt64.toNat_add, hsmall, Nat.mod_eq_of_lt]
        omega
      refine .call ⟨rfl, fun k hk => ?_⟩ fun answered => ?_
      · have hk : k < data.size - written := hk
        rw [hposition, Nat.add_assoc]
        exact hS _ (by omega)
      · cases answered with
        | error errorNumber =>
          dsimp only
          split
          · exact ih
          · trivial
        | ok count =>
          cases count with
          | zero => trivial
          | succ count => exact ih

/-- A write stays within the offsets of its data. -/
theorem writeAt_writingIn (hdevice : device.fd = some fd)
    (hlimit : offset.toNat + data.size < 2 ^ 64) (hS : ∀ k < data.size, S (offset.toNat + k)) :
    WritingIn fd S (device.writeAt installed fuel offset data) := by
  unfold writeAt
  rw [hdevice]
  exact writeFrom_writingIn hlimit hS

theorem writeZerosFrom_writingIn {zeros : QByteArray} {rounds : LoopFuel}
    {cursor remaining : UInt64} (hdevice : device.fd = some fd) (hzeros : zeros.size < 2 ^ 64)
    (hlimit : cursor.toNat + remaining.toNat < 2 ^ 64)
    (hS : ∀ k < remaining.toNat, S (cursor.toNat + k)) :
    WritingIn fd S (device.writeZerosFrom installed fuel zeros rounds cursor remaining) := by
  induction rounds generalizing cursor remaining with
  | zero => trivial
  | succ rounds ih =>
    unfold writeZerosFrom
    split
    · trivial
    · dsimp only
      have hbuffer : (UInt64.ofNat zeros.size).toNat = zeros.size := UInt64.toNat_ofNat_of_lt' hzeros
      generalize hcount : (if remaining < UInt64.ofNat zeros.size then remaining
        else UInt64.ofNat zeros.size) = count
      have hfits : count.toNat ≤ remaining.toNat ∧ count.toNat ≤ zeros.size := by
        rw [← hcount]
        split
        · next hless =>
          rw [UInt64.lt_iff_toNat_lt, hbuffer] at hless
          exact ⟨Nat.le_refl _, Nat.le_of_lt hless⟩
        · next hless =>
          rw [UInt64.lt_iff_toNat_lt, hbuffer] at hless
          exact ⟨by omega, by omega⟩
      have hpiece : (if count.toNat = zeros.size then zeros else zeros.left count.toNat).size =
          count.toNat := by
        split
        · next heq => exact heq.symm
        · exact Nat.min_eq_left hfits.2
      refine writingIn_seq (writeAt_writingIn hdevice ?_ fun k hk => hS k ?_) fun _ => ih ?_ ?_
      · rw [hpiece]
        omega
      · rw [hpiece] at hk
        omega
      · rw [Checked.toNat_add (by omega), Checked.toNat_sub hfits.1]
        omega
      · intro k hk
        rw [Checked.toNat_sub hfits.1] at hk
        rw [Checked.toNat_add (by omega), Nat.add_assoc]
        exact hS _ (by omega)

/-- Zeroing stays within its range. -/
theorem writeZeros_writingIn {bytes : UInt64} {sectorSize : UInt32} (hdevice : device.fd = some fd)
    (hlimit : offset.toNat + bytes.toNat < 2 ^ 64)
    (hS : ∀ k < bytes.toNat, S (offset.toNat + k)) :
    WritingIn fd S (device.writeZeros installed fuel offset bytes sectorSize) := by
  unfold writeZeros
  split
  · trivial
  · dsimp only
    split
    · trivial
    · obtain ⟨size, _, hsize, hchunk⟩ := zeroChunk_eq bytes sectorSize
      rw [hchunk]
      exact writeZerosFrom_writingIn hdevice hsize hlimit hS

end BlockDevice

/-- The clearing writes to the ends alone. -/
theorem clearSignatures_writingIn {disk : DiskInfo} (hdevice : device.fd = some fd) :
    WritingIn fd (InEnds (signatureClearRange disk.size disk.sectorSize))
      (clearSignatures installed fuel disk device) := by
  unfold clearSignatures
  dsimp only
  split
  · trivial
  · next hpos =>
    have hfits := signatureClearRange_fits hpos
    have hinside := hfits.inside
    have hlimit := disk.size.toNat_lt
    refine writingIn_seq (BlockDevice.writeZeros_writingIn hdevice ?_ fun k hk => ?_) fun _ =>
      BlockDevice.writeZeros_writingIn hdevice (by omega) fun k hk => .inr ⟨by omega, by omega⟩
    · rw [UInt64.toNat_zero]
      omega
    · rw [UInt64.toNat_zero, Nat.zero_add]
      exact .inl hk

/-! ## What is stored -/

/-- Writing, whatever the steps. -/
abbrev Stores (fd : Fd) (p : Prog LinuxI RestoreMessage Unit)
    (Q : Except RestoreMessage Unit → Medium → Prop) (s : Medium) : Prop :=
  p.Surely (Medium.step fd) (fun _ _ _ _ => True) Q s

variable {image : Bytes} {s : Medium}

namespace BlockDevice

/-- The loop of `writeAt`, with `written` bytes stored before it. -/
theorem writeFrom_stores {written : Nat} (hlimit : offset.toNat + data.size < 2 ^ 64)
    (hwritten : written ≤ data.size) (hfuel : data.size - written + s.interrupts < fuel)
    (hstored : image.StoredTo offset.toNat data written s.image) :
    Stores fd (device.writeFrom installed fd offset data fuel written) (fun r s' =>
      r = .ok () → s'.image = image.write offset.toNat data) s := by
  induction fuel generalizing written s with
  | zero => exact absurd hfuel (Nat.not_lt_zero _)
  | succ fuel ih =>
    unfold writeFrom
    split
    · next hdone =>
      obtain rfl : written = data.size := Nat.le_antisymm hwritten hdone
      exact fun _ => hstored.eq_write
    · next hmore =>
      have hmore : written < data.size := Nat.lt_of_not_le hmore
      have hposition : (offset + UInt64.ofNat written).toNat = offset.toNat + written := by
        have hsmall : (UInt64.ofNat written).toNat = written :=
          UInt64.toNat_ofNat_of_lt' (Nat.lt_of_le_of_lt (by omega) hlimit)
        rw [UInt64.toNat_add, hsmall, Nat.mod_eq_of_lt]
        omega
      apply Surely.call
      intro answer s' hstep
      refine ⟨trivial, ?_⟩
      replace hstep : s.Answered (data.slice written (data.size - written))
          (offset + UInt64.ofNat written).toNat answer s' := Medium.answered_of_step hstep
      rw [hposition] at hstep
      cases answer with
      | error errorNumber =>
        obtain ⟨⟨stored, hle, himage⟩, hcounts⟩ := hstep
        have hkept : image.StoredTo offset.toNat data written s'.image := by
          rw [himage]
          exact (hstored.write hle).mono (Nat.le_add_right _ _)
        dsimp only
        split at hcounts
        · next hinterrupted =>
          rw [if_pos hinterrupted]
          exact ih hwritten (by omega) hkept
        · next hfailed =>
          rw [if_neg hfailed]
          exact fun h => by cases h
      | ok taken =>
        obtain ⟨hle, rfl⟩ := hstep
        have hle : taken ≤ data.size - written := hle
        cases taken with
        | zero => exact fun h => by cases h
        | succ taken =>
          refine ih (by omega) ?_ (hstored.write hle)
          change data.size - (written + (taken + 1)) + s.interrupts < fuel
          omega

/-- With enough turns, a write that succeeds has stored all of its data. -/
theorem writeAt_stores (hdevice : device.fd = some fd)
    (hlimit : offset.toNat + data.size < 2 ^ 64) (hfuel : data.size + s.interrupts < fuel) :
    Stores fd (device.writeAt installed fuel offset data) (fun r s' =>
      r = .ok () → s'.image = s.image.write offset.toNat data) s := by
  unfold writeAt
  rw [hdevice]
  exact writeFrom_stores hlimit (Nat.zero_le _) hfuel (.refl _ _ _)

end BlockDevice

/-! ## What the writes keep -/

/-- Bytes outside the set are as they were, and no interruption was added. -/
structure KeptOutside (S : Nat → Prop) (s s' : Medium) : Prop where
  size : s'.image.size = s.image.size
  bytes : ∀ i, ¬S i → s'.image.byteAt i = s.image.byteAt i
  interrupts : s'.interrupts ≤ s.interrupts

omit [Host] in
theorem KeptOutside.refl (S : Nat → Prop) (s : Medium) : KeptOutside S s s :=
  ⟨rfl, fun _ _ => rfl, Nat.le_refl _⟩

omit [Host] in
theorem KeptOutside.trans {s' s'' : Medium} (h : KeptOutside S s s') (h' : KeptOutside S s' s'') :
    KeptOutside S s s'' :=
  ⟨h'.size.trans h.size, fun i hi => (h'.bytes i hi).trans (h.bytes i hi),
    Nat.le_trans h'.interrupts h.interrupts⟩

omit [Host] in
/-- One call changes only bytes it may write. -/
theorem step_writesIn {o : LinuxOp} {ans : o.Ans} {s' : Medium} (ho : o.WritesIn fd S)
    (h : s.step fd o ans s') : KeptOutside S s s' := by
  unfold LinuxOp.WritesIn at ho
  split at ho
  · next target data offset =>
    obtain ⟨rfl, hS⟩ := ho
    have houtside : ∀ stored ≤ data.size, ∀ i, ¬S i →
        (s.image.write offset.toNat (data.left stored)).byteAt i = s.image.byteAt i := by
      intro stored hle i hi
      refine Bytes.byteAt_write_of_not_mem _ ?_
      rw [Bytes.size_left]
      by_contra hin
      obtain ⟨k, rfl⟩ := Nat.exists_eq_add_of_le (Nat.le_of_not_lt fun h => hin (.inl h))
      exact hi (hS k (by omega))
    have hanswered : s.Answered data offset.toNat ans s' := Medium.answered_of_step h
    cases ans with
    | error errorNumber =>
      obtain ⟨⟨stored, hle, himage⟩, hcounts⟩ := hanswered
      refine ⟨by rw [himage]; rfl, fun i hi => ?_, ?_⟩
      · rw [himage]
        exact houtside stored hle i hi
      · split at hcounts
        · omega
        · exact Nat.le_of_eq hcounts.1
    | ok count =>
      obtain ⟨hle, rfl⟩ := hanswered
      exact ⟨rfl, fun i hi => houtside count hle i hi, Nat.le_refl _⟩
  · exact ho.elim

omit [Host] in
/-- Along a whole run, the bytes outside the set are kept. -/
theorem WritingIn.keeps {p : Prog LinuxI RestoreMessage Unit} (h : WritingIn fd S p) {base : Medium}
    (hbase : KeptOutside S base s) : p.Safely (Medium.step fd)
      (fun _ _ _ s' => KeptOutside S base s') (fun _ s' => KeptOutside S base s') s :=
  (Safely.of_satisfies (J := fun s' => KeptOutside S base s') h
    (fun _ _ _ _ hJ ho hstep => ⟨hJ.trans (step_writesIn ho hstep), hJ.trans (step_writesIn ho hstep)⟩)
    hbase).mono fun _ _ hr => hr.2

/-! ## The table -/

/-- Writing in the set, and what that leaves. -/
theorem BlockDevice.writeAt_stores_keeping (S : Nat → Prop) (hdevice : device.fd = some fd)
    (hlimit : offset.toNat + data.size < 2 ^ 64) (hfuel : data.size + s.interrupts < fuel)
    (hS : ∀ k < data.size, S (offset.toNat + k)) :
    Stores fd (device.writeAt installed fuel offset data) (fun r s' =>
      (r = .ok () → s'.image = s.image.write offset.toNat data) ∧ KeptOutside S s s') s :=
  ((writeAt_stores hdevice hlimit hfuel).also
    ((writeAt_writingIn hdevice hlimit hS).keeps (.refl S s))).weaken

variable {request : PartitionTableRequest}

/-- Where the two parts of a GPT lie, in bytes. -/
structure GptPlaces (request : PartitionTableRequest) : Prop where
  primary : (buildGptPrimary request).size ≤ (gptBackupOffset request).toNat
  backup : (gptBackupOffset request).toNat + (buildGptBackup request).size ≤ request.diskSize.toNat

omit [Host] in
/-- Where the blocks of a GPT lie, for a layout that fits. -/
theorem gptPlaces (hsupported : isSupportedSectorSize request.sectorSize = true)
    (hfits : (gptGeometry request).fits = true) : GptPlaces request := by
  have hbefore := primary_before_backup hsupported hfits
  have hend := gptBackupOffset_end hsupported hfits
  have hsectors : request.sectors * request.sectorBytes ≤ request.diskSize.toNat :=
    Nat.div_mul_le_self _ _
  constructor
  · rw [size_buildGptPrimary hsupported]
    exact hbefore
  · rw [size_buildGptBackup hsupported]
    omega

/-- A table that was written without an error is on the disk. -/
theorem writePartitionTable_stores (hgate : WritableRequest request)
    (hlayout : request.layout = calculateGptLayout request.diskSize request.sectorSize)
    (hends : EndsFit request) (hdevice : device.fd = some fd)
    (hfuel : request.diskSize.toNat + s.interrupts < fuel) :
    Stores fd (writePartitionTable installed fuel request device) (fun r s' =>
      (r = .ok () → s'.image = writeTable s.image request) ∧ KeptOutside (InTable request) s s') s := by
  have hlimit := request.diskSize.toNat_lt
  unfold writePartitionTable
  split
  · next hgpt =>
    have hplaces := gptPlaces hgate.layout.supported (hgate.fits hgpt)
    have hprimary := hplaces.primary
    have hbackup := hplaces.backup
    refine Surely.bind (BlockDevice.writeAt_stores_keeping (InTable request) hdevice ?_ ?_
      fun k hk => ?_) ?_ ?_
    · rw [UInt64.toNat_zero]
      omega
    · omega
    · rw [UInt64.toNat_zero, Nat.zero_add, InTable, if_pos hgpt]
      exact .inl hk
    · rintro _ s' ⟨hstored, hkept⟩
      have hinterrupts := hkept.interrupts
      refine (BlockDevice.writeAt_stores_keeping (InTable request) hdevice (by omega) (by omega)
        fun k hk => ?_).mono ?_
      · rw [InTable, if_pos hgpt]
        exact .inr ⟨Nat.le_add_right _ _, by omega⟩
      · rintro r s'' ⟨hstored', hkept'⟩
        refine ⟨fun hr => ?_, hkept.trans hkept'⟩
        rw [hstored' hr, hstored rfl, writeTable, if_pos hgpt]
        rfl
    · exact fun e s' h => ⟨(fun hr => by cases hr), h.2⟩
  · next hmbr =>
    have hsize : (buildMbr request).size ≤ request.diskSize.toNat := by
      have hle := (sectorFacts hgate.layout.supported).le
      have hroom := hends.room
      have hdisk := hends.ends
      have hsectors : request.sectors * request.sectorBytes ≤ request.diskSize.toNat :=
        Nat.div_mul_le_self _ _
      rw [(buildMbr_contents_of_gate hlayout hgate hmbr).size]
      omega
    refine (BlockDevice.writeAt_stores_keeping (InTable request) hdevice ?_ (by omega)
      fun k hk => ?_).mono ?_
    · rw [UInt64.toNat_zero]
      omega
    · rw [UInt64.toNat_zero, Nat.zero_add, InTable, if_neg hmbr]
      exact hk
    · rintro r s' ⟨hstored, hkept⟩
      refine ⟨fun hr => ?_, hkept⟩
      rw [hstored hr, writeTable, if_neg hmbr]
      rfl

/-- The table is written to its own bytes alone. -/
theorem writePartitionTable_writingIn (hgate : WritableRequest request)
    (hlayout : request.layout = calculateGptLayout request.diskSize request.sectorSize)
    (hdevice : device.fd = some fd) :
    WritingIn fd (InTable request) (writePartitionTable installed fuel request device) := by
  have hdisk := request.diskSize.toNat_lt
  unfold writePartitionTable
  split
  · next hgpt =>
    have hplaces := gptPlaces hgate.layout.supported (hgate.fits hgpt)
    have hprimary := hplaces.primary
    have hbackup := hplaces.backup
    refine writingIn_seq (BlockDevice.writeAt_writingIn hdevice ?_ fun k hk => ?_) fun _ =>
      BlockDevice.writeAt_writingIn hdevice (by omega) fun k hk => ?_
    · rw [UInt64.toNat_zero]
      omega
    · rw [UInt64.toNat_zero, Nat.zero_add, InTable, if_pos hgpt]
      exact .inl hk
    · rw [InTable, if_pos hgpt]
      exact .inr ⟨Nat.le_add_right _ _, by omega⟩
  · next hmbr =>
    have hle := (sectorFacts hgate.layout.supported).le
    refine BlockDevice.writeAt_writingIn hdevice ?_ fun k hk => ?_
    · rw [UInt64.toNat_zero, (buildMbr_contents_of_gate hlayout hgate hmbr).size]
      omega
    · rw [UInt64.toNat_zero, Nat.zero_add, InTable, if_neg hmbr]
      exact hk

end

end UsbRestore
