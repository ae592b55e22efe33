-- SUMMARY: A reader of GPT disks, independent of the writers: what it demands of an image.
import UsbRestore.Base.Bytes
import UsbRestore.Base.Crc32

/-!
# A GPT reader

What a GPT pair must be for a reader that knows the format and not the program: every
position is taken from the image, from the header that names it or from the size of
the disk.
-/

namespace UsbRestore

namespace GptReader

/-- "EFI PART" -/
def efiPart : Bytes := Bytes.ofList [0x45, 0x46, 0x49, 0x20, 0x50, 0x41, 0x52, 0x54]

/-- The last whole block of a disk. -/
def lastLba (image : Bytes) (sector : Nat) : Nat := image.size / sector - 1

/-- Bytes of one entry array: 128 entries of 128 bytes. -/
def arrayBytes : Nat := 128 * 128

/-! ## Header fields -/

def field (image : Bytes) (sector lba offset count : Nat) : Nat :=
  image.readLe (lba * sector + offset) count

def alternateLba (image : Bytes) (sector lba : Nat) : Nat := field image sector lba 32 8

def firstUsable (image : Bytes) (sector lba : Nat) : Nat := field image sector lba 40 8

def lastUsable (image : Bytes) (sector lba : Nat) : Nat := field image sector lba 48 8

def entryLba (image : Bytes) (sector lba : Nat) : Nat := field image sector lba 72 8

/-- A header in the block `lba`, with the checksums of itself and of its entry array. -/
structure ValidHeader (image : Bytes) (sector lba : Nat) : Prop where
  signature : image.Agree (lba * sector) efiPart 0 8
  size : field image sector lba 12 4 = 92
  checksum : field image sector lba 16 4 =
    (Crc32.crc32 ((image.slice (lba * sector) 92).write 16 (Bytes.zeros 4)).toList).toNat
  myLba : field image sector lba 24 8 = lba
  entryCount : field image sector lba 80 4 = 128
  entrySize : field image sector lba 84 4 = 128
  arrayChecksum : field image sector lba 88 4 =
    (Crc32.crc32 (image.slice (entryLba image sector lba * sector) arrayBytes).toList).toNat

/-- The first block as an MBR: one 0xEE entry over everything after it. -/
structure ProtectiveMbr (image : Bytes) (sector : Nat) : Prop where
  type : image.byteAt 450 = 0xEE
  first : image.readLe 454 4 = 1
  span : image.readLe 458 4 = min (lastLba image sector) 0xFFFFFFFF
  others : ∀ i, 462 ≤ i → i < 510 → image.byteAt i = 0
  signature : image.byteAt 510 = 0x55 ∧ image.byteAt 511 = 0xAA

/-- The blocks from `lba` on lie outside the usable range of the header in block `header`. -/
def OutsideUsable (image : Bytes) (sector header lba count : Nat) : Prop :=
  lba + count ≤ firstUsable image sector header ∨ lastUsable image sector header < lba

/-- The usable range leaves out both headers and both entry arrays. -/
structure ValidUsable (image : Bytes) (sector header : Nat) : Prop where
  nonempty : firstUsable image sector header ≤ lastUsable image sector header
  headers : ∀ lba ∈ [1, lastLba image sector], OutsideUsable image sector header lba 1
  arrays : ∀ lba ∈ [1, lastLba image sector],
    OutsideUsable image sector header (entryLba image sector lba) (arrayBytes / sector)

/-- The image is a GPT disk with an intact pair of headers. -/
structure Accepts (image : Bytes) (sector : Nat) : Prop where
  mbr : ProtectiveMbr image sector
  primary : ValidHeader image sector 1
  backup : ValidHeader image sector (lastLba image sector)
  alternates : alternateLba image sector 1 = lastLba image sector ∧
    alternateLba image sector (lastLba image sector) = 1
  usable : ∀ lba ∈ [1, lastLba image sector], ValidUsable image sector lba
  arrays : image.Agree (entryLba image sector 1 * sector) image
    (entryLba image sector (lastLba image sector) * sector) arrayBytes

/-- An entry array at `offset` that holds one partition and nothing else. -/
structure SoleEntry (image : Bytes) (offset : Nat) (typeGuid partitionGuid : Bytes)
    (first last : Nat) (name : List UInt16) : Prop where
  typeGuid : image.Agree offset typeGuid 0 16
  partitionGuid : image.Agree (offset + 16) partitionGuid 0 16
  first : image.readLe (offset + 32) 8 = first
  last : image.readLe (offset + 40) 8 = last
  attributes : image.readLe (offset + 48) 8 = 0
  name : ∀ i, i < 36 → image.readLe (offset + 56 + 2 * i) 2 = (name.getD i 0).toNat
  others : ∀ i, 128 ≤ i → i < arrayBytes → image.byteAt (offset + i) = 0

/-- An array is read the same wherever its bytes stand. -/
theorem SoleEntry.of_agree {image array : Bytes} {offset : Nat} {typeGuid partitionGuid : Bytes}
    {first last : Nat} {name : List UInt16}
    (h : SoleEntry array 0 typeGuid partitionGuid first last name)
    (hagree : image.Agree offset array 0 arrayBytes) :
    SoleEntry image offset typeGuid partitionGuid first last name := by
  have hpart : ∀ o count, o + count ≤ 128 → image.Agree (offset + o) array (0 + o) count := by
    intro o count hle
    exact hagree.mono (Nat.le_trans hle (by decide))
  constructor
  case typeGuid => exact (hpart 0 16 (by omega)).trans h.typeGuid
  case partitionGuid => exact (hpart 16 16 (by omega)).trans h.partitionGuid
  case first => rw [Bytes.readLe_congr (hpart 32 8 (by omega)), h.first]
  case last => rw [Bytes.readLe_congr (hpart 40 8 (by omega)), h.last]
  case attributes => rw [Bytes.readLe_congr (hpart 48 8 (by omega)), h.attributes]
  case name =>
    intro i hi
    rw [Nat.add_assoc, Bytes.readLe_congr (hpart (56 + 2 * i) 2 (by omega)), ← Nat.add_assoc,
      h.name i hi]
  case others =>
    intro i hi hlt
    have hzero := h.others i hi hlt
    rwa [← hagree i hlt] at hzero

end GptReader

end UsbRestore
