-- SUMMARY: Both backends zero the same bytes, and never anything else.
import UsbRestore.Linux.ZeroWrites
import UsbRestore.Win.ZeroDisk

/-!
# The two zeroing loops

On Linux a write is given its offset, on Windows it goes where the file pointer is. What either loop
leaves of the same device is told by the same two predicates.
-/

namespace UsbRestore

open Prog

variable {ε : Type}

/-- A range inside a device whose sectors have a size that the program supports. -/
structure RangeOfDevice (image : Bytes) (offset bytes : UInt64) (sectorSize : UInt32) : Prop where
  supported : isSupportedSectorSize sectorSize = true
  inside : offset.toNat + bytes.toNat ≤ image.size
  addressable : image.size < 2 ^ 64

/-- What either loop does with a range, whatever state the device is in and whatever its writes are
answered. -/
structure ZeroedByBoth [Host] (ε : Type) (installed : Catalog) (image : Bytes)
    (offset bytes : UInt64) (sectorSize : UInt32) : Prop where
  linux : SectorAligned offset bytes sectorSize → ∀ {device : BlockDevice} {fd s fuel},
    device.fd = none ∨ device.fd = some fd → s.image = image →
    bytes.toNat + s.interrupts < fuel →
      BlockDevice.Zeroes fd (device.writeZeros installed fuel offset bytes sectorSize)
        (Medium.Zeroed offset.toNat bytes.toNat s) s
  windows : SectorAligned offset bytes sectorSize → ∀ {handle disk s fuel},
    RawDisk.Used ε handle disk s → s.image = image →
    bytes.toNat + RawDisk.MaxNotReadyRetries < fuel →
      RawDisk.Zeroes (ε := ε) handle (disk.writeZeros installed fuel offset bytes sectorSize)
        (Drive.Zeroed handle image offset.toNat bytes.toNat bytes.toNat s) s
  /-- What is not whole sectors is refused before any call. -/
  refused : bytes ≠ 0 → ¬SectorAligned offset bytes sectorSize → ∀ fuel,
    (∀ device : BlockDevice, ∃ message,
      device.writeZeros installed fuel offset bytes sectorSize = .fail message) ∧
    ∀ disk : RawDisk, ∃ message,
      (disk.writeZeros installed fuel offset bytes sectorSize : Prog RawI ε _) =
        .ret (.error message, disk)
  /-- An empty range is zeroed without any call. -/
  empty : bytes = 0 → ∀ fuel,
    (∀ device : BlockDevice,
      device.writeZeros installed fuel offset bytes sectorSize = .ret ()) ∧
    ∀ disk : RawDisk,
      (disk.writeZeros installed fuel offset bytes sectorSize : Prog RawI ε _) =
        .ret (.ok (), disk)

/-- What either backend leaves of the two ends of a disk. -/
structure ClearedByBoth [Host] (ε : Type) (installed : Catalog) (image : Bytes) (disk : DiskInfo) :
    Prop where
  linux : ∀ {device : BlockDevice} {fd s fuel}, device.fd = none ∨ device.fd = some fd →
    s.image = image → disk.size.toNat + s.interrupts < fuel →
      BlockDevice.Zeroes fd (clearSignatures installed fuel disk device) (fun r s' =>
        SignaturesCleared image (signatureClearRange disk.size disk.sectorSize) r s'.image) s
  windows : ∀ {handle} {rawDisk : RawDisk} {s fuel}, RawDisk.Used ε handle rawDisk s →
    s.image = image → disk.size.toNat + RawDisk.MaxNotReadyRetries < fuel →
      RawDisk.Zeroes (ε := ε) handle
        (rawDisk.clearPartitionSignatures installed fuel disk.size disk.sectorSize)
        (fun verdict rawDisk' s' =>
          SignaturesCleared image (signatureClearRange disk.size disk.sectorSize) verdict s'.image ∧
            Drive.Remembered handle rawDisk' s') s

/-- Both loops zero exactly what they are asked to, or some first part of it, in as many writes as
there are bytes; hence both backends clear the same ends of a disk. -/
theorem zeroLoops_exact [Host] (ε : Type) (installed : Catalog) (image : Bytes) :
    (∀ {offset bytes sectorSize}, RangeOfDevice image offset bytes sectorSize →
      ZeroedByBoth ε installed image offset bytes sectorSize) ∧
    ∀ {disk : DiskInfo}, image.size = disk.size.toNat → ClearedByBoth ε installed image disk := by
  constructor
  · intro offset bytes sectorSize hrange
    have hlimit := Nat.lt_of_le_of_lt hrange.inside hrange.addressable
    refine ⟨?linux, ?windows, ?refused, ?empty⟩
    case linux =>
      rintro haligned device fd s fuel hdevice rfl hfuel
      exact BlockDevice.writeZeros_zeroes hdevice hrange.supported haligned hlimit hfuel
    case windows =>
      rintro _ handle disk s fuel hused rfl hfuel
      exact RawDisk.writeZeros_zeroes hused.remembered hlimit hfuel
    case refused =>
      intro hbytes hunaligned fuel
      constructor
      · exact fun device => device.writeZeros_of_unaligned hrange.supported hbytes hunaligned
      · exact fun disk => disk.writeZeros_of_unaligned hrange.supported hbytes hunaligned
    case empty =>
      rintro rfl fuel
      constructor
      · exact fun device => device.writeZeros_of_empty offset sectorSize
      · exact fun disk => disk.writeZeros_of_empty offset sectorSize
  · intro disk hdisk
    refine ⟨?linux, ?windows⟩
    case linux =>
      rintro device fd s fuel hdevice rfl hfuel
      exact clearSignatures_clears hdevice hdisk hfuel
    case windows =>
      rintro handle rawDisk s fuel hused rfl hfuel
      exact RawDisk.clearPartitionSignatures_clears hused.remembered hfuel

open SmallStick in
/-- One sector of a stick of eight megabytes, and both ends of the stick. -/
theorem zeroLoops_exact_eightMegabytes :
    ZeroedByBoth Unit Catalog.english (Bytes.zeros 8388608) 4096 512 512 ∧
      ClearedByBoth Unit Catalog.english (Bytes.zeros 8388608) { size := 8388608 } := by
  have hrange : RangeOfDevice (Bytes.zeros 8388608) 4096 512 512 :=
    ⟨by decide, by decide, by decide⟩
  exact ⟨(zeroLoops_exact Unit Catalog.english (Bytes.zeros 8388608)).1 hrange,
    (zeroLoops_exact Unit Catalog.english (Bytes.zeros 8388608)).2 rfl⟩

open SmallStick in
/-- An empty range is zeroed wherever it lies. -/
theorem zeroLoops_misalignedEmpty :
    ¬SectorAligned 1 0 512 ∧
      ({ devicePath := [], fd := some 3 } : BlockDevice).writeZeros Catalog.english 1 1 0 512 =
        .ret () ∧
      (({ diskNumber := 7, handle := 0 } : RawDisk).writeZeros Catalog.english 1 1 0 512 :
        Prog RawI Unit _) = .ret (.ok (), { diskNumber := 7, handle := 0 }) := by
  refine ⟨?_, rfl, rfl⟩
  rintro ⟨hoffset, _⟩
  exact absurd hoffset (by decide)

end UsbRestore
