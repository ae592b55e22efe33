-- SUMMARY: Windows as a machine: volumes, drive letters and handles, and what the calls answer of them.
import Mathlib.Logic.Function.Basic
import UsbRestore.Base.Machine
import UsbRestore.Win.VolumeManager

/-!
# Windows and its volumes

Questions are answered by what the volumes are; opening for writing, locking, dismounting and
removing a letter may fail. Nothing changes but by the calls themselves.
-/

namespace UsbRestore

open Prog WindowsError

structure Volume where
  /-- The volume's name without the backslash at its end. -/
  device : QString
  /-- The disk of every extent. -/
  extents : List UInt32
  isOffline : Bool
  /-- It can be opened with no access rights. -/
  answersQueries : Bool
  /-- Windows says which paths lead to it. -/
  pathsKnown : Bool
  deriving DecidableEq

/-- The name that `FindFirstVolumeW` finds. -/
def Volume.name (v : Volume) : QString := v.device ++ [QChar.ofChar '\\']

/-- The disks the tool can see the volume on: the largest buffer has room for 65 extents. -/
def Volume.visibleDisks (v : Volume) : List UInt32 :=
  if v.extents.length ≤ 65 then v.extents else []

/-- `\\.\E:` -/
def drivePath (letter : QChar) : QString := DevicePrefix ++ driveName letter

/-- `E:\` -/
def driveRoot (letter : QChar) : QString := driveName letter ++ [QChar.ofChar '\\']

/-- The volumes that can be found, the volume behind every letter, the open handles, the rest of
the search, and the volumes that were locked and dismounted. -/
structure Windows where
  volumes : List Volume
  drives : QChar → Option Volume
  handles : Handle → Option Volume := fun _ => none
  search : List Volume := []
  locked : List Volume := []
  dismounted : List Volume := []

namespace Windows

/-- A path that opens a volume. -/
inductive LeadsTo (w : Windows) : QString → Volume → Prop where
  | device {v : Volume} (h : v ∈ w.volumes) : LeadsTo w v.device v
  | drive {letter : QChar} {v : Volume} (h : w.drives letter = some v) :
    LeadsTo w (drivePath letter) v

/-- What the driver puts into a buffer that is large enough. -/
structure HoldsExtents (disks : List UInt32) (returned : Dword) (buffer : QByteArray) : Prop where
  returned : returned.toNat = ExtentsOffset + DiskExtentBytes * disks.length
  count : buffer.readLe 0 4 = disks.length
  extent : ∀ i disk, disks[i]? = some disk →
    buffer.readLe (ExtentsOffset + DiskExtentBytes * i) 4 = disk.toNat

/-- The drive roots among the paths are those that lead to the volume. -/
def PathsOf (w : Windows) (v : Volume) (paths : List QString) : Prop :=
  ∀ path, isDriveRoot path = true →
    (path ∈ paths ↔ ∃ letter, path = driveRoot letter ∧ w.drives letter = some v)

def step (w : Windows) : (o : WinOp) → o.Ans → Windows → Prop
  | .createFile path access, .ok handle, w' =>
    w.handles handle = none ∧ ∃ v, w.LeadsTo path v ∧
      (access = .query → v.answersQueries = true) ∧
      w' = { w with handles := Function.update w.handles handle (some v) }
  | .createFile path access, .error _, w' =>
    (access = .query → ∀ v, w.LeadsTo path v → v.answersQueries = false) ∧ w' = w
  | .closeHandle handle, _, w' =>
    w' = { w with handles := Function.update w.handles handle none }
  | .volumeDiskExtents handle bytes, .ok (returned, buffer), w' =>
    (∀ v, w.handles handle = some v → ExtentsOffset + DiskExtentBytes * v.extents.length ≤ bytes ∧
      HoldsExtents v.extents returned buffer) ∧ w' = w
  | .volumeDiskExtents handle bytes, .error code, w' =>
    (∀ v, w.handles handle = some v → bytes < ExtentsOffset + DiskExtentBytes * v.extents.length ∧
      code = ERROR_MORE_DATA) ∧ w' = w
  | .volumeIsOffline handle, offline, w' =>
    (∀ v, w.handles handle = some v → offline = v.isOffline) ∧ w' = w
  | .lockVolume handle, .ok (), w' =>
    ∃ v, w.handles handle = some v ∧ w' = { w with locked := v :: w.locked }
  | .lockVolume _, .error _, w' => w' = w
  | .dismountVolume handle, .ok (), w' =>
    ∃ v, w.handles handle = some v ∧ w' = { w with dismounted := v :: w.dismounted }
  | .dismountVolume _, .error _, w' => w' = w
  | .deleteVolumeMountPoint path, .ok (), w' =>
    ∃ letter, path = driveRoot letter ∧
      w' = { w with drives := Function.update w.drives letter none }
  | .deleteVolumeMountPoint _, .error _, w' => w' = w
  | .logicalDrives, drives, w' =>
    (∀ letter ∈ DriveLetters, hasDrive drives letter = (w.drives letter).isSome) ∧ w' = w
  | .findFirstVolume, some (_, name), w' =>
    ∃ v rest, w.volumes = v :: rest ∧ name = v.name ∧ w' = { w with search := rest }
  | .findFirstVolume, none, w' => w.volumes = [] ∧ w' = w
  | .findNextVolume _, some name, w' =>
    ∃ v rest, w.search = v :: rest ∧ name = v.name ∧ w' = { w with search := rest }
  | .findNextVolume _, none, w' => w.search = [] ∧ w' = w
  | .findVolumeClose _, _, w' => w' = { w with search := [] }
  | .volumePathNames name, some paths, w' =>
    (∀ v ∈ w.volumes, name = v.name → v.pathsKnown = true ∧ w.PathsOf v paths) ∧ w' = w
  | .volumePathNames name, none, w' =>
    (∀ v ∈ w.volumes, name = v.name → v.pathsKnown = false) ∧ w' = w
  | .formatMessage _, _, w' => w' = w
  | .reporter _, _, w' => w' = w

/-- Volumes are told apart by their devices, and a device path is no drive path. -/
structure WellFormed (w : Windows) : Prop where
  distinct : ∀ v ∈ w.volumes, ∀ u ∈ w.volumes, v.device = u.device → v = u
  device : ∀ v ∈ w.volumes, v.device.getLast? ≠ some (QChar.ofChar '\\')
  notDrive : ∀ v ∈ w.volumes, ∀ letter, v.device ≠ drivePath letter
  letter : ∀ letter v, w.drives letter = some v → letter ∈ DriveLetters

/-! ## Names -/

end Windows

theorem withoutTrailingSlash_name {v : Volume}
    (h : v.device.getLast? ≠ some (QChar.ofChar '\\')) :
    withoutTrailingSlash v.name = v.device := by
  unfold withoutTrailingSlash Volume.name
  rw [List.rdropWhile_concat_pos _ _ _ (by decide)]
  refine List.rdropWhile_eq_self_iff.mpr fun hne => ?_
  intro hlast
  refine h ?_
  rw [List.getLast?_eq_some_getLast hne]
  exact congrArg some (beq_iff_eq.mp hlast)

theorem driveName_injective {letter other : QChar} (h : driveName letter = driveName other) :
    letter = other :=
  (List.cons.inj h).1

theorem drivePath_injective {letter other : QChar} (h : drivePath letter = drivePath other) :
    letter = other :=
  driveName_injective (List.append_cancel_left h)

theorem driveRoot_injective {letter other : QChar} (h : driveRoot letter = driveRoot other) :
    letter = other :=
  driveName_injective (List.append_cancel_right h)

theorem isDriveRoot_driveRoot (letter : QChar) : isDriveRoot (driveRoot letter) = true := rfl

namespace Windows

variable {w : Windows}

/-- The name of a volume leads to that volume alone. -/
theorem LeadsTo.of_device (hw : w.WellFormed) {v u : Volume} (hv : v ∈ w.volumes)
    (h : w.LeadsTo v.device u) : u = v := by
  generalize hpath : v.device = path at h
  cases h with
  | device hu => exact (hw.distinct _ hv _ hu hpath).symm
  | drive _ => exact absurd hpath (hw.notDrive _ hv _)

/-- A drive leads to the volume that has its letter. -/
theorem LeadsTo.of_drive (hw : w.WellFormed) {letter : QChar} {v : Volume}
    (h : w.LeadsTo (drivePath letter) v) : w.drives letter = some v := by
  generalize hpath : drivePath letter = path at h
  cases h with
  | device hv => exact absurd hpath.symm (hw.notDrive _ hv _)
  | drive hdrive =>
    obtain rfl := drivePath_injective hpath
    exact hdrive

/-! ## Disks of a volume -/

/-- Where the buffer holds every entry that is counted, the bound takes none of them away. -/
theorem boundedEntryCount_exact {count returned : UInt32} {n : Nat} (hcount : count.toNat = n)
    (hreturned : returned.toNat = ExtentsOffset + DiskExtentBytes * n) :
    (boundedEntryCount count returned.toUInt64 (UInt64.ofNat ExtentsOffset)
      (UInt64.ofNat DiskExtentBytes)).toNat = n := by
  have hheader : (UInt64.ofNat ExtentsOffset).toNat = 8 := rfl
  have hentry : (UInt64.ofNat DiskExtentBytes).toNat = 24 := rfl
  have hreturned : returned.toUInt64.toNat = 8 + 24 * n := by
    rw [UInt32.toNat_toUInt64, hreturned]
    rfl
  have hle : UInt64.ofNat ExtentsOffset ≤ returned.toUInt64 := by
    rw [UInt64.le_iff_toNat_le, hheader, hreturned]
    exact Nat.le_add_right 8 _
  have hfits : (returned.toUInt64 - UInt64.ofNat ExtentsOffset) / UInt64.ofNat DiskExtentBytes =
      count.toUInt64 := by
    rw [← UInt64.toNat_inj, UInt64.toNat_div, UInt64.toNat_sub_of_le _ _ hle, hreturned, hheader,
      hentry, UInt32.toNat_toUInt64, hcount]
    omega
  unfold boundedEntryCount
  rw [if_neg (by rintro (h | h); exacts [absurd h (by decide), absurd hle (UInt64.not_le.mpr h)])]
  dsimp only
  rw [hfits, show min count.toUInt64 count.toUInt64 = count.toUInt64 from ite_self _]
  simpa using hcount

/-- The disks of the extents are read from the buffer as they stand there. -/
theorem diskNumbersIn_of_holds {disks : List UInt32} {returned : Dword} {buffer : QByteArray}
    (h : HoldsExtents disks returned buffer) : diskNumbersIn returned buffer = disks := by
  have hreturned := h.returned
  have hlength : disks.length < 2 ^ 32 := by
    have := returned.toNat_lt
    unfold ExtentsOffset DiskExtentBytes at hreturned
    omega
  have hcount : (UInt32.ofNat (buffer.readLe 0 4)).toNat = disks.length := by
    rw [h.count]
    exact UInt32.toNat_ofNat_of_lt' hlength
  unfold diskNumbersIn
  dsimp only
  rw [boundedEntryCount_exact hcount hreturned]
  refine List.ext_getElem? fun i => ?_
  rw [List.getElem?_map]
  by_cases hi : i < disks.length
  · have hdisk := h.extent i _ (List.getElem?_eq_getElem hi)
    rw [List.getElem?_range hi, List.getElem?_eq_getElem hi, Option.map_some, hdisk,
      UInt32.ofNat_toNat]
  · rw [List.getElem?_eq_none (by simpa using hi), List.getElem?_eq_none (by simpa using hi)]
    rfl

/-- The attempts read what fits into the buffer of the last of them. -/
theorem readDiskNumbers_ensures {ε : Type} {handle : Handle} {v : Volume}
    (h : w.handles handle = some v) (attempts bytes : Nat) :
    (readDiskNumbers handle attempts bytes : Prog WinI ε _).Ensures step
      (fun numbers w' => w' = w ∧
        numbers = if 0 < attempts ∧ ExtentsOffset + DiskExtentBytes * v.extents.length ≤
            bytes + DiskExtentBytes * 16 * (attempts - 1)
          then v.extents else []) w := by
  induction attempts generalizing bytes with
  | zero => exact ⟨rfl, (if_neg (fun h => Nat.lt_irrefl 0 h.1)).symm⟩
  | succ attempts ih =>
    rw [Nat.add_sub_cancel]
    refine Ensures.call fun ans w' hstep => ?_
    cases ans with
    | ok answer =>
      obtain ⟨hfits, rfl⟩ := hstep
      obtain ⟨hfits, hholds⟩ := hfits v h
      refine ⟨rfl, ?_⟩
      rw [if_pos ⟨Nat.succ_pos _, by omega⟩]
      exact diskNumbersIn_of_holds hholds
    | error code =>
      obtain ⟨hanswer, rfl⟩ := hstep
      obtain ⟨hshort, rfl⟩ := hanswer v h
      refine Ensures.mono (ih (bytes + DiskExtentBytes * 16)) ?_
      rintro numbers w' ⟨rfl, rfl⟩
      refine ⟨rfl, if_congr ?_ rfl rfl⟩
      have hshort : bytes < 8 + 24 * v.extents.length := hshort
      unfold ExtentsOffset DiskExtentBytes
      omega

/-- The disks of an open volume are asked for without changing anything: those that are visible are
returned. -/
theorem volumeDiskNumbers_ensures {ε : Type} {handle : Handle} {v : Volume}
    (h : w.handles handle = some v) :
    (volumeDiskNumbers handle : Prog WinI ε _).Ensures step
      (fun numbers w' => w' = w ∧ numbers = v.visibleDisks) w := by
  refine Ensures.mono (readDiskNumbers_ensures h 5 VolumeDiskExtentsBytes) ?_
  rintro numbers w' ⟨rfl, rfl⟩
  refine ⟨rfl, if_congr ?_ rfl rfl⟩
  unfold ExtentsOffset DiskExtentBytes VolumeDiskExtentsBytes
  omega

theorem volumeHasDiskExtent_ensures {ε : Type} {handle : Handle} {v : Volume}
    (h : w.handles handle = some v) (diskNumber : UInt32) :
    (volumeHasDiskExtent handle diskNumber : Prog WinI ε _).Ensures step
      (fun belongs w' => w' = w ∧ belongs = decide (diskNumber ∈ v.visibleDisks)) w := by
  refine Ensures.seq (volumeDiskNumbers_ensures h) ?_
  rintro numbers w' ⟨rfl, rfl⟩
  exact ⟨rfl, rfl⟩

end Windows

end UsbRestore
