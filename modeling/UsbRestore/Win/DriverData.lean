-- SUMMARY: What a driver reports is read only where it was returned, and counted only as far.
import UsbRestore.Base.Checked
import UsbRestore.Win.RawDisk

/-!
# Data of a driver

A driver answers with a buffer and with how many of its bytes it has filled. The counts and offsets in
the buffer are as foreign as the rest of it, so every entry of an array and every byte of a text is
found by what was returned, not by what is reported.
-/

namespace UsbRestore

open Prog

variable {ε α : Type}

/-! ## Counts -/

/-- `boundedEntryCount` with a result only where nothing is divided by zero, taken below zero, or cut
short by the cast. -/
def checkedEntryCount (reportedCount : UInt32) (returnedBytes headerBytes entryBytes : UInt64) :
    Option UInt32 :=
  if entryBytes = 0 ∨ returnedBytes < headerBytes then some 0
  else do
    let entries ← Checked.sub returnedBytes headerBytes
    let fits ← Checked.div entries entryBytes
    Checked.narrow (min reportedCount.toUInt64 fits)

theorem checkedEntryCount_eq (reportedCount : UInt32)
    (returnedBytes headerBytes entryBytes : UInt64) :
    checkedEntryCount reportedCount returnedBytes headerBytes entryBytes =
      some (boundedEntryCount reportedCount returnedBytes headerBytes entryBytes) := by
  unfold checkedEntryCount boundedEntryCount
  split
  · rfl
  · next h =>
    obtain ⟨hentry, hheader⟩ := not_or.mp h
    have hle : headerBytes.toNat ≤ returnedBytes.toNat :=
      UInt64.le_iff_toNat_le.mp (UInt64.not_lt.mp hheader)
    have hnarrow : (min reportedCount.toUInt64 ((returnedBytes - headerBytes) / entryBytes)).toNat <
        2 ^ 32 := by
      rw [Checked.toNat_min, UInt32.toNat_toUInt64]
      exact Nat.lt_of_le_of_lt (Nat.min_le_left _ _) reportedCount.toNat_lt
    rw [Checked.sub_eq hle, Option.bind_eq_bind, Option.bind_some, Checked.div_eq hentry,
      Option.bind_some, Checked.narrow_eq hnarrow]

/-- The smaller of what is reported and of the whole entries that were returned. -/
theorem toNat_boundedEntryCount (reportedCount : UInt32)
    (returnedBytes headerBytes entryBytes : UInt64) :
    (boundedEntryCount reportedCount returnedBytes headerBytes entryBytes).toNat =
      min reportedCount.toNat
        ((returnedBytes.toNat - headerBytes.toNat) / entryBytes.toNat) := by
  unfold boundedEntryCount
  split
  · next h =>
    rcases h with rfl | h
    · simp
    · rw [UInt64.lt_iff_toNat_lt] at h
      simp [Nat.sub_eq_zero_of_le (Nat.le_of_lt h)]
  · next h =>
    have hle := UInt64.not_lt.mp (not_or.mp h).2
    rw [UInt64.toNat_toUInt32, Checked.toNat_min, UInt64.toNat_div, UInt64.toNat_sub_of_le _ _ hle,
      UInt32.toNat_toUInt64, Nat.mod_eq_of_lt]
    exact Nat.lt_of_le_of_lt (Nat.min_le_left _ _) reportedCount.toNat_lt

/-! ## Arrays -/

/-- How many whole entries were returned after the header. -/
def wholeEntries (returned : Dword) (header entry : Nat) : Nat := (returned.toNat - header) / entry

/-- The offsets of the `width` bytes at `field` of each of the first `count` entries. -/
def entryOffsets (header entry field width count : Nat) : List Nat :=
  (List.range count).flatMap fun i => List.range' (header + entry * i + field) width

/-- The first `count` entries were returned, and their bytes with them. -/
structure EntriesReturned (returned : Dword) (header entry field width count : Nat) : Prop where
  whole : ∀ i, i < count → header + entry * (i + 1) ≤ returned.toNat
  bytes : ∀ offset ∈ entryOffsets header entry field width count, offset < returned.toNat

theorem entriesReturned {returned : Dword} {header entry field width count : Nat}
    (hfield : field + width ≤ entry) (hcount : count ≤ wholeEntries returned header entry) :
    EntriesReturned returned header entry field width count := by
  have hwhole : ∀ i, i < count → header + entry * (i + 1) ≤ returned.toNat := by
    intro i hi
    have hfits : entry * (i + 1) ≤ returned.toNat - header := by
      have hlast : i + 1 ≤ wholeEntries returned header entry := Nat.le_trans hi hcount
      rw [Nat.mul_comm]
      exact Nat.le_trans (Nat.mul_le_mul_right entry hlast) (Nat.div_mul_le_self _ _)
    have hpos : 0 < wholeEntries returned header entry := Nat.lt_of_lt_of_le (Nat.zero_lt_of_lt hi) hcount
    have hsome : 0 < returned.toNat - header := by
      refine Nat.pos_of_ne_zero fun hzero => ?_
      rw [wholeEntries, hzero, Nat.zero_div] at hpos
      exact Nat.lt_irrefl 0 hpos
    omega
  refine ⟨hwhole, fun offset hoffset => ?_⟩
  obtain ⟨i, hi, hoffset⟩ := List.mem_flatMap.mp hoffset
  obtain ⟨hge, hlt⟩ := List.mem_range'_1.mp hoffset
  have hentry := hwhole i (List.mem_range.mp hi)
  rw [Nat.mul_add, Nat.mul_one] at hentry
  omega

/-- The number of entries, as both loops over an array take it from a field of four bytes. -/
theorem toNat_entryCount (buffer : QByteArray) (offset : Nat) (returned : Dword)
    {header entry : Nat} (hheader : header < 2 ^ 64) (hentry : entry < 2 ^ 64) :
    (boundedEntryCount (UInt32.ofNat (buffer.readLe offset 4)) returned.toUInt64
      (UInt64.ofNat header) (UInt64.ofNat entry)).toNat =
        min (buffer.readLe offset 4) (wholeEntries returned header entry) := by
  have hreported : (UInt32.ofNat (buffer.readLe offset 4)).toNat = buffer.readLe offset 4 :=
    UInt32.toNat_ofNat_of_lt' (buffer.readLe_lt offset 4)
  rw [toNat_boundedEntryCount, hreported, UInt32.toNat_toUInt64, UInt64.toNat_ofNat_of_lt' hheader,
    UInt64.toNat_ofNat_of_lt' hentry]
  rfl

/-! ## Disks of a volume -/

/-- `diskNumbersIn`, as a reading. -/
def readExtents (returned : Dword) : Reading (List UInt32) := do
  let reported ← Reading.le 0 4
  let count := boundedEntryCount (UInt32.ofNat reported) returned.toUInt64
    (UInt64.ofNat ExtentsOffset) (UInt64.ofNat DiskExtentBytes)
  Reading.each (fun i => do
    let number ← Reading.le (ExtentsOffset + DiskExtentBytes * i) 4
    return UInt32.ofNat number) (List.range count.toNat)

theorem value_readExtents (returned : Dword) (buffer : QByteArray) :
    (readExtents returned).value buffer = diskNumbersIn returned buffer := by
  simp only [readExtents, diskNumbersIn, Reading.value_bind, Reading.value_le, Reading.value_each,
    Reading.value_pure]

/-- How many extents are read. -/
def extentsRead (returned : Dword) (buffer : QByteArray) : Nat :=
  min (buffer.readLe 0 4) (wholeEntries returned ExtentsOffset DiskExtentBytes)

theorem offsets_readExtents (returned : Dword) (buffer : QByteArray) :
    (readExtents returned).offsets buffer = List.range' 0 4 ++
      entryOffsets ExtentsOffset DiskExtentBytes 0 4 (extentsRead returned buffer) := by
  rw [readExtents, Reading.offsets_bind, Reading.offsets_le, Reading.value_le]
  dsimp only
  rw [toNat_entryCount buffer 0 returned (by decide) (by decide), Reading.offsets_each]
  simp only [Reading.offsets_bind, Reading.offsets_le, Reading.offsets_pure, List.append_nil]
  rfl

/-- The numbers come out of an answer, where there is one. -/
theorem readDiskNumbers_runs {handle : Handle} {attempts bytes : Nat} {t : List (Event WinI)}
    {numbers : List UInt32}
    (h : Runs (readDiskNumbers handle attempts bytes : Prog WinI ε _) t (some (.ok numbers))) :
    numbers = [] ∨ ∃ bytes returned buffer,
      (⟨WinOp.volumeDiskExtents handle bytes, Except.ok (returned, buffer)⟩ : Event WinI) ∈ t ∧
        numbers = (readExtents returned).value buffer := by
  induction attempts generalizing bytes t with
  | zero => exact .inl (Runs.ret_ok h).2.symm
  | succ attempts ih =>
    obtain ⟨answer, rest, rfl, hrest⟩ := Runs.call_ok h
    cases answer with
    | ok answer =>
      obtain ⟨rfl, rfl⟩ := Runs.ret_ok hrest
      refine .inr ⟨bytes, answer.1, answer.2, List.mem_singleton_self _, ?_⟩
      exact (value_readExtents answer.1 answer.2).symm
    | error code =>
      replace hrest : Runs (if code ≠ WindowsError.ERROR_MORE_DATA ∧
          code ≠ WindowsError.ERROR_INSUFFICIENT_BUFFER then pure []
        else readDiskNumbers handle attempts (bytes + DiskExtentBytes * 16)) rest
          (some (.ok numbers)) := hrest
      split at hrest
      · exact .inl (Runs.ret_ok hrest).2.symm
      · refine (ih hrest).imp_right ?_
        rintro ⟨bytes, returned, buffer, hmem, hnumbers⟩
        exact ⟨bytes, returned, buffer, List.mem_cons_of_mem _ hmem, hnumbers⟩

/-! ## The partition table -/

namespace RawDisk

/-- How many entries were returned of those that are reported. -/
def layoutCount (returned : Dword) (buffer : QByteArray) : Nat :=
  min (buffer.readLe 4 4) (wholeEntries returned PartitionEntryOffset PartitionInformationBytes)

/-- The position of the first entry with a length, or the number of entries where none has one. -/
def firstWithLength (returned : Dword) (buffer : QByteArray) : Nat :=
  (List.range (layoutCount returned buffer)).findIdx fun i => (hasLength i).value buffer

/-- How many entries are read: those up to the first with a length. -/
def layoutRead (returned : Dword) (buffer : QByteArray) : Nat :=
  min (firstWithLength returned buffer + 1) (layoutCount returned buffer)

theorem offsets_layoutEntries (returned : Dword) (buffer : QByteArray) :
    (layoutEntries returned).offsets buffer = List.range' 4 4 ++
      entryOffsets PartitionEntryOffset PartitionInformationBytes 16 8 (layoutRead returned buffer) := by
  rw [layoutEntries, Reading.offsets_bind, Reading.offsets_le, Reading.value_le]
  dsimp only
  rw [toNat_entryCount buffer 4 returned (by decide) (by decide), Reading.offsets_any,
    List.take_range]
  simp only [hasLength, Reading.offsets_bind, Reading.offsets_le, Reading.offsets_pure,
    List.append_nil]
  rfl

/-- The verdict comes out of an answer that has a whole header. -/
theorem layoutHasPartitions_runs {installed : Catalog} {disk : RawDisk} {t : List (Event RawI)}
    {verdict : Bool}
    (h : Runs (disk.layoutHasPartitions installed : Prog RawI ε _) t (some (.ok (.ok verdict)))) :
    ∃ bytes returned buffer,
      (⟨RawOp.driveLayout disk.handle bytes, Except.ok (returned, buffer)⟩ : Event RawI) ∈ t ∧
        PartitionEntryOffset ≤ returned.toNat ∧ verdict = (layoutEntries returned).value buffer := by
  obtain ⟨answer, rest, rfl, hrest⟩ := Runs.call_ok h
  cases answer with
  | error code =>
    obtain ⟨_, _, message, _, _, hmessage⟩ := Runs.bind_ok hrest
    cases (Runs.ret_ok hmessage).2
  | ok answer =>
    dsimp only at hrest
    split at hrest
    · cases (Runs.ret_ok hrest).2
    · next hheader =>
      obtain ⟨rfl, hverdict⟩ := Runs.ret_ok hrest
      refine ⟨_, answer.1, answer.2, List.mem_singleton_self _, Nat.le_of_not_lt hheader, ?_⟩
      exact (Except.ok.inj hverdict).symm

end RawDisk

/-! ## The serial number -/

theorem serialLength_inside (start available : Nat) (b : Bytes) :
    (serialLength start available).value b ≤ available ∧
      ∀ offset ∈ (serialLength start available).offsets b, offset < start + available := by
  induction available generalizing start with
  | zero => exact ⟨Nat.le_refl 0, fun _ h => absurd h List.not_mem_nil⟩
  | succ available ih =>
    obtain ⟨hvalue, hoffsets⟩ := ih (start + 1)
    rw [serialLength, Reading.value_bind, Reading.offsets_bind, Reading.value_byte,
      Reading.offsets_byte]
    split
    · refine ⟨Nat.zero_le _, fun offset hoffset => ?_⟩
      obtain rfl : offset = start := by simpa using hoffset
      omega
    · refine ⟨Nat.succ_le_succ hvalue, fun offset hoffset => ?_⟩
      rcases List.mem_cons.mp hoffset with rfl | hoffset
      · omega
      · have hlt := hoffsets offset (by simpa using hoffset)
        omega

/-- The serial number is looked up inside the buffer, wherever the descriptor says it is. -/
theorem serialFromDescriptor_inside (buffer : QByteArray) :
    ∀ offset ∈ serialFromDescriptor.offsets buffer, offset < buffer.size := by
  intro offset hoffset
  rw [serialFromDescriptor, Reading.offsets_bind, Reading.offsets_size, Reading.value_size,
    List.nil_append] at hoffset
  split at hoffset
  · exact absurd hoffset List.not_mem_nil
  · next hsize =>
    have hsize : 40 ≤ buffer.size := Nat.le_of_not_lt hsize
    rw [Reading.offsets_bind, Reading.offsets_le, Reading.value_le] at hoffset
    rcases List.mem_append.mp hoffset with hoffset | hoffset
    · obtain ⟨_, hlt⟩ := List.mem_range'_1.mp hoffset
      omega
    · split at hoffset
      · exact absurd hoffset List.not_mem_nil
      · next hinside =>
        obtain ⟨_, hstart⟩ := not_or.mp hinside
        obtain ⟨hlength, hseen⟩ := serialLength_inside (buffer.readLe 24 4)
          (buffer.size - buffer.readLe 24 4) buffer
        rw [Reading.offsets_bind, Reading.offsets_bind, Reading.offsets_each] at hoffset
        rcases List.mem_append.mp hoffset with hoffset | hoffset
        · have hlt := hseen offset hoffset
          omega
        · rcases List.mem_append.mp hoffset with hoffset | hoffset
          · obtain ⟨i, hi, hoffset⟩ := List.mem_flatMap.mp hoffset
            obtain ⟨_, hlt⟩ := List.mem_range'_1.mp hi
            obtain rfl : offset = i := by simpa using hoffset
            omega
          · exact absurd hoffset List.not_mem_nil

/-- A driver fills no more than the buffer it was given. -/
def RawOp.Filled : (o : RawOp) → o.Ans → Prop
  | .driveLayout _ bytes, .ok (returned, buffer) => buffer.size = bytes ∧ returned.toNat ≤ bytes
  | .storageProperty _ bytes, .ok (returned, buffer) => buffer.size = bytes ∧ returned.toNat ≤ bytes
  | _, _ => True

/-- What is handed on is as long as the driver has filled it. -/
theorem readStorageDeviceDescriptor_runs {handle : Handle} {t : List (Event RawI)}
    {descriptor : QByteArray} (hfilled : ∀ e ∈ t, RawOp.Filled e.op e.ans)
    (h : Runs (readStorageDeviceDescriptor handle : Prog RawI ε _) t (some (.ok (.ok descriptor)))) :
    ∃ bytes returned buffer,
      (⟨RawOp.storageProperty handle bytes, Except.ok (returned, buffer)⟩ : Event RawI) ∈ t ∧
        descriptor = buffer.left returned.toNat ∧ descriptor.size = returned.toNat := by
  obtain ⟨header, rest, rfl, hrest⟩ := Runs.call_ok h
  cases header with
  | error code => cases (Runs.ret_ok hrest).2
  | ok header =>
    dsimp only at hrest
    split at hrest
    · cases (Runs.ret_ok hrest).2
    · obtain ⟨answer, rest, rfl, hfull⟩ := Runs.call_ok hrest
      cases answer with
      | error code => cases (Runs.ret_ok hfull).2
      | ok answer =>
        dsimp only at hfull
        split at hfull
        · cases (Runs.ret_ok hfull).2
        · obtain ⟨rfl, hdescriptor⟩ := Runs.ret_ok hfull
          obtain rfl := Except.ok.inj hdescriptor
          have hmem := List.mem_cons_of_mem
            (⟨RawOp.storageProperty handle StorageHeaderBytes, Except.ok header⟩ : Event RawI)
            (List.mem_singleton_self
              (⟨RawOp.storageProperty handle (header.2.readLe 4 4), Except.ok answer⟩ : Event RawI))
          obtain ⟨hsize, hreturned⟩ := hfilled _ hmem
          refine ⟨_, answer.1, answer.2, hmem, rfl, ?_⟩
          rw [Bytes.size_left, hsize]
          exact Nat.min_eq_left hreturned

/-! ## Everything a driver reports -/

open RawDisk

/-- What is read of the answers of a driver, whatever they hold. -/
structure DriverDataBounded (ε : Type) : Prop where
  /-- No division by zero, nothing below zero, and no count that is cut short. -/
  counts : ∀ reportedCount returnedBytes headerBytes entryBytes,
    checkedEntryCount reportedCount returnedBytes headerBytes entryBytes =
      some (boundedEntryCount reportedCount returnedBytes headerBytes entryBytes)
  /-- The disks of a volume are those of an answer. -/
  volume : ∀ {handle t numbers},
    Runs (volumeDiskNumbers handle : Prog WinI ε _) t (some (.ok numbers)) →
      numbers = [] ∨ ∃ bytes returned buffer,
        (⟨WinOp.volumeDiskExtents handle bytes, Except.ok (returned, buffer)⟩ : Event WinI) ∈ t ∧
          numbers = (readExtents returned).value buffer
  /-- Of such an answer exactly the reported entries are read that were returned. -/
  extents : ∀ returned buffer,
    (readExtents returned).offsets buffer = List.range' 0 4 ++
        entryOffsets ExtentsOffset DiskExtentBytes 0 4 (extentsRead returned buffer) ∧
      EntriesReturned returned ExtentsOffset DiskExtentBytes 0 4 (extentsRead returned buffer)
  /-- The verdict on a layout is that of an answer. -/
  layout : ∀ {installed} {disk : RawDisk} {t verdict},
    Runs (disk.layoutHasPartitions installed : Prog RawI ε _) t (some (.ok (.ok verdict))) →
      ∃ bytes returned buffer,
        (⟨RawOp.driveLayout disk.handle bytes, Except.ok (returned, buffer)⟩ : Event RawI) ∈ t ∧
          PartitionEntryOffset ≤ returned.toNat ∧
          verdict = (layoutEntries returned).value buffer
  /-- Of such an answer the reported entries are read that were returned, up to the first that has a
  length. -/
  entries : ∀ returned buffer,
    (layoutEntries returned).offsets buffer = List.range' 4 4 ++
        entryOffsets PartitionEntryOffset PartitionInformationBytes 16 8
          (layoutRead returned buffer) ∧
      EntriesReturned returned PartitionEntryOffset PartitionInformationBytes 16 8
        (layoutRead returned buffer)
  /-- The serial number is looked up in what was returned of the descriptor. -/
  serial : ∀ {handle t descriptor}, (∀ e ∈ t, RawOp.Filled e.op e.ans) →
    Runs (readStorageDeviceDescriptor handle : Prog RawI ε _) t (some (.ok (.ok descriptor))) →
      ∃ bytes returned buffer,
        (⟨RawOp.storageProperty handle bytes, Except.ok (returned, buffer)⟩ : Event RawI) ∈ t ∧
          descriptor = buffer.left returned.toNat ∧
          ∀ offset ∈ serialFromDescriptor.offsets descriptor, offset < returned.toNat

theorem driverData_bounded (ε : Type) : DriverDataBounded ε where
  counts := checkedEntryCount_eq
  volume := readDiskNumbers_runs
  extents returned buffer := by
    refine ⟨offsets_readExtents returned buffer, ?_⟩
    exact entriesReturned (by decide) (Nat.min_le_right _ _)
  layout := layoutHasPartitions_runs
  entries returned buffer := by
    refine ⟨offsets_layoutEntries returned buffer, ?_⟩
    have hcount := Nat.min_le_right (firstWithLength returned buffer + 1)
      (layoutCount returned buffer)
    exact entriesReturned (by decide) (Nat.le_trans hcount (Nat.min_le_right _ _))
  serial hfilled hruns := by
    obtain ⟨bytes, returned, buffer, hmem, hdescriptor, hsize⟩ :=
      readStorageDeviceDescriptor_runs hfilled hruns
    refine ⟨bytes, returned, buffer, hmem, hdescriptor, ?_⟩
    rw [← hsize]
    exact serialFromDescriptor_inside _

/-- A layout of two whole entries of which the first has a length: the second is not read. -/
def twoEntryLayout : QByteArray := ((Bytes.zeros 18480).set 4 2).set 64 1

theorem layoutEntries_twoEntryLayout :
    (336 : Dword).toNat ≤ twoEntryLayout.size ∧ layoutCount 336 twoEntryLayout = 2 ∧
      (layoutEntries 336).offsets twoEntryLayout ≠ List.range' 4 4 ++
        entryOffsets PartitionEntryOffset PartitionInformationBytes 16 8
          (layoutCount 336 twoEntryLayout) := by
  refine ⟨by decide, by decide, ?_⟩
  decide

end UsbRestore
