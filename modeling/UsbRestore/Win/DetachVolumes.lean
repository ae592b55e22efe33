-- SUMMARY: Which volumes both passes over a disk detach, and which fall between them.
import UsbRestore.Win.VolumePasses

/-!
# Detaching volumes

Before a restore changes a disk, the volumes without a drive letter are dismounted, and then those
with one. The pass by letter leaves A and B out, so a volume whose only letters are these is taken
by neither.
-/

namespace UsbRestore

open Prog

namespace Windows

variable {w : Windows} {v : Volume}

/-! ## Both passes -/

/-- What `restore` does to the volumes of a disk before it changes it. -/
def detachVolumes [Host] (installed : Catalog) (fuel : Nat) (diskNumber : UInt32)
    (protectedLetters : List QString) : Prog WinI RestoreMessage Unit := do
  dismountUnletteredVolumesOnDisk installed fuel diskNumber
  removeMountPointsForDisk installed diskNumber protectedLetters

/-- A volume on the disk that is taken by name or by one of its letters. -/
def Taken [Host] (w : Windows) (diskNumber : UInt32) (protectedLetters : List QString)
    (v : Volume) : Prop :=
  v ∈ w.volumes ∧ w.Unlettered diskNumber v ∨ ∃ letter, w.drives letter = some v ∧
    v.answersQueries = true ∧ diskNumber ∈ v.visibleDisks ∧ Removable protectedLetters letter

/-- The two passes together take the volumes that either of them takes. -/
theorem detachVolumes_ensures [Host] (hupper : KeepsCapitals) (installed : Catalog) (fuel : Nat)
    (diskNumber : UInt32) (protectedLetters : List QString) (hw : w.WellFormed) :
    (detachVolumes installed fuel diskNumber protectedLetters).Ensures step
      (fun _ w' => w.Detaches w' (w.Taken diskNumber protectedLetters)) w := by
  refine Ensures.seq (dismountUnletteredVolumesOnDisk_ensures installed fuel diskNumber hw) ?_
  intro _ w' ⟨hdrives, hfirst⟩
  have hw' : w'.WellFormed :=
    ⟨by rw [hfirst.volumes]; exact hw.distinct, by rw [hfirst.volumes]; exact hw.device,
      by rw [hfirst.volumes]; exact hw.notDrive, by rw [hdrives]; exact hw.letter⟩
  refine Ensures.mono (removeMountPointsForDisk_ensures hupper installed diskNumber protectedLetters
    hw') fun _ w'' hsecond => ?_
  rw [hdrives] at hsecond
  exact hfirst.trans hsecond

/-- One of the volume's letters is C or guarded. -/
def Shielded [Host] (w : Windows) (protectedLetters : List QString) (v : Volume) : Prop :=
  ∃ letter, w.drives letter = some v ∧ [letter] ∈ protectedSet protectedLetters

/-- The passes can reach a volume: it answers, with no more extents than are asked for, and it is
known to have no letter or has one that is not A or B. -/
structure WithinReach (w : Windows) (v : Volume) : Prop where
  answers : v.answersQueries = true
  extents : v.extents.length ≤ 65
  letters : (v.pathsKnown = true ∧ ∀ letter, w.drives letter ≠ some v) ∨
    ∃ letter, w.drives letter = some v ∧ letter ≠ QChar.ofChar 'A' ∧ letter ≠ QChar.ofChar 'B'

/-- A volume with too many extents shows no disk at all. -/
theorem mem_visibleDisks {diskNumber : UInt32} :
    diskNumber ∈ v.visibleDisks ↔ v.extents.length ≤ 65 ∧ diskNumber ∈ v.extents := by
  unfold Volume.visibleDisks
  by_cases hlength : v.extents.length ≤ 65
  · rw [if_pos hlength]
    exact (and_iff_right hlength).symm
  · rw [if_neg hlength]
    exact iff_of_false List.not_mem_nil fun h => hlength h.1

/-- The letter of the system is always protected. -/
theorem C_mem_protectedSet [Host] (protectedLetters : List QString) :
    QStringLiteral "C" ∈ protectedSet protectedLetters := by
  unfold protectedSet
  refine List.foldlRecOn protectedLetters _ (List.mem_singleton_self _) ?_
  intro found hfound letter _
  dsimp only
  split_ifs
  · exact List.mem_append_left _ hfound
  · exact hfound

/-- A letter that is not C and not guarded is left out by the second pass if it is A or B. -/
theorem high_of_not_low [Host] {letter : QChar} {protectedLetters : List QString}
    (h : letter ∈ DriveLetters) (hunprotected : [letter] ∉ protectedSet protectedLetters) :
    QChar.ofChar 'D' ≤ letter ↔ letter ≠ QChar.ofChar 'A' ∧ letter ≠ QChar.ofChar 'B' := by
  have hcases : ∀ letter ∈ DriveLetters, QChar.ofChar 'D' ≤ letter ∨
      letter = QChar.ofChar 'A' ∨ letter = QChar.ofChar 'B' ∨ letter = QChar.ofChar 'C' := by
    decide
  have hC : letter ≠ QChar.ofChar 'C' := by
    rintro rfl
    exact hunprotected (C_mem_protectedSet protectedLetters)
  constructor
  · intro hhigh
    constructor
    · rintro rfl
      exact absurd hhigh (by decide)
    · rintro rfl
      exact absurd hhigh (by decide)
  · rintro ⟨hA, hB⟩
    rcases hcases letter h with hhigh | hA' | hB' | hC'
    · exact hhigh
    · exact absurd hA' hA
    · exact absurd hB' hB
    · exact absurd hC' hC

/-- Of the volumes that are not shielded, both passes together detach those that are within their
reach, and never one of another disk. -/
theorem detachVolumes_detaches_iff [Host] (hupper : KeepsCapitals) (installed : Catalog)
    (fuel : Nat) (diskNumber : UInt32) (protectedLetters : List QString) (hw : w.WellFormed)
    (hlocked : w.locked = []) (hdismounted : w.dismounted = []) {w' : Windows}
    (hrun : Ends step (detachVolumes installed fuel diskNumber protectedLetters) w (.ok ()) w') :
    ((∀ v ∈ w.volumes, v.isOffline = false → diskNumber ∈ v.extents →
          ¬w.Shielded protectedLetters v → v ∈ w'.locked ∧ v ∈ w'.dismounted) ∧
        ∀ v, v ∈ w'.locked ∨ v ∈ w'.dismounted → diskNumber ∈ v.extents) ↔
      ∀ v ∈ w.volumes, v.isOffline = false → diskNumber ∈ v.extents →
        ¬w.Shielded protectedLetters v → w.WithinReach v := by
  have hdetaches : w.Detaches w' (w.Taken diskNumber protectedLetters) :=
    (detachVolumes_ensures hupper installed fuel diskNumber protectedLetters hw).ends hrun
  have hlockedIff : ∀ v, v ∈ w'.locked ↔ w.Taken diskNumber protectedLetters v := by
    intro v
    rw [hdetaches.locked, hlocked]
    simp
  have hdismountedIff : ∀ v, v ∈ w'.dismounted ↔ w.Taken diskNumber protectedLetters v := by
    intro v
    rw [hdetaches.dismounted, hdismounted]
    simp
  have hbelongs : ∀ v, w.Taken diskNumber protectedLetters v → diskNumber ∈ v.extents := by
    rintro v (⟨-, htaken⟩ | ⟨_, -, -, hvisible, -⟩)
    · exact (mem_visibleDisks.mp htaken.belongs).2
    · exact (mem_visibleDisks.mp hvisible).2
  have hreach : ∀ v ∈ w.volumes, v.isOffline = false → diskNumber ∈ v.extents →
      ¬w.Shielded protectedLetters v →
        (w.Taken diskNumber protectedLetters v ↔ w.WithinReach v) := by
    intro v hv honline hextent hshield
    have hunprotected : ∀ letter, w.drives letter = some v →
        [letter] ∉ protectedSet protectedLetters := fun letter hletter hmem =>
      hshield ⟨letter, hletter, hmem⟩
    constructor
    · rintro (⟨-, htaken⟩ | ⟨letter, hletter, hanswers, hvisible, hremovable⟩)
      · exact ⟨htaken.answers, (mem_visibleDisks.mp htaken.belongs).1,
          .inl ⟨htaken.pathsKnown, htaken.unlettered⟩⟩
      · exact ⟨hanswers, (mem_visibleDisks.mp hvisible).1, .inr ⟨letter, hletter,
          (high_of_not_low (hw.letter letter v hletter) hremovable.unprotected).mp
            hremovable.high⟩⟩
    · rintro ⟨hanswers, hlength, ⟨hknown, hnone⟩ | ⟨letter, hletter, hnotLow⟩⟩
      · exact .inl ⟨hv, hknown, hnone, hanswers, mem_visibleDisks.mpr ⟨hlength, hextent⟩, honline⟩
      · refine .inr ⟨letter, hletter, hanswers, mem_visibleDisks.mpr ⟨hlength, hextent⟩, ?_,
          hunprotected letter hletter⟩
        exact (high_of_not_low (hw.letter letter v hletter) (hunprotected letter hletter)).mpr
          hnotLow
  constructor
  · rintro ⟨hall, -⟩ v hv honline hextent hshield
    exact (hreach v hv honline hextent hshield).mp
      ((hlockedIff v).mp (hall v hv honline hextent hshield).1)
  · intro hall
    refine ⟨fun v hv honline hextent hshield => ?_, ?_⟩
    · have htaken := (hreach v hv honline hextent hshield).mpr (hall v hv honline hextent hshield)
      exact ⟨(hlockedIff v).mpr htaken, (hdismountedIff v).mpr htaken⟩
    · rintro v (h | h)
      · exact hbelongs v ((hlockedIff v).mp h)
      · exact hbelongs v ((hdismountedIff v).mp h)

/-! ## A kernel that refuses nothing -/

/-- The volume behind a path. -/
def target (w : Windows) (path : QString) : Option Volume :=
  (w.volumes.find? fun v => v.device = path).or
    (DriveLetters.findSome? fun letter => if drivePath letter = path then w.drives letter else none)

theorem leadsTo_of_target {path : QString} (h : w.target path = some v) : w.LeadsTo path v := by
  unfold target at h
  rcases Option.or_eq_some_iff.mp h with hdevice | ⟨-, hdrive⟩
  · have hpath := List.find?_some hdevice
    rw [← of_decide_eq_true hpath]
    exact .device (List.mem_of_find?_eq_some hdevice)
  · obtain ⟨letter, -, hletter⟩ := List.exists_of_findSome?_eq_some hdrive
    split_ifs at hletter with hpath
    rw [← hpath]
    exact .drive hletter

/-- One extent, on one of the first disks. -/
def extentBuffer (disk : UInt32) : QByteArray :=
  Bytes.ofList ([1, 0, 0, 0, 0, 0, 0, 0, disk.toUInt8] ++ List.replicate 23 0)

theorem extentBuffer_holds {disk : UInt32} (h : disk = 0 ∨ disk = 1) :
    HoldsExtents [disk] 32 (extentBuffer disk) where
  returned := rfl
  count := by rcases h with rfl | rfl <;> decide
  extent i other hother := by
    cases i with
    | zero =>
      obtain rfl := Option.some.inj hother
      rcases h with rfl | rfl <;> decide
    | succ i => cases hother

/-- The letters that lead to the volume. -/
def lettersOf (w : Windows) (v : Volume) : List QChar :=
  DriveLetters.filter fun letter => w.drives letter = some v

/-- What Windows answers where nothing is refused: every file is opened as handle 7. -/
def kernel : Kernel WinI Windows
  | w, .createFile path _ =>
    if w.handles 7 = none then (w.target path).bind fun v =>
      if v.answersQueries then some (.ok 7, w.opened 7 v) else none
    else none
  | w, .closeHandle handle => some ((), w.closed handle)
  | w, .volumeDiskExtents handle bytes => (w.handles handle).bind fun v =>
    if 32 ≤ bytes ∧ (v.extents = [0] ∨ v.extents = [1]) then
      some (.ok (32, extentBuffer v.extents.headI), w)
    else none
  | w, .volumeIsOffline handle => (w.handles handle).map fun v => (v.isOffline, w)
  | w, .lockVolume handle =>
    (w.handles handle).map fun v => (.ok (), { w with locked := v :: w.locked })
  | w, .dismountVolume handle =>
    (w.handles handle).map fun v => (.ok (), { w with dismounted := v :: w.dismounted })
  | w, .deleteVolumeMountPoint path =>
    (DriveLetters.find? fun letter => driveRoot letter = path).map fun letter =>
      (.ok (), { w with drives := Function.update w.drives letter none })
  | w, .logicalDrives =>
    let drives : Dword := DriveLetters.foldl (fun drives letter =>
      if (w.drives letter).isSome then
        drives ||| ((1 : UInt32) <<< (letter - QChar.ofChar 'A').toUInt32)
      else drives) 0
    if ∀ letter ∈ DriveLetters, hasDrive drives letter = (w.drives letter).isSome then
      some (drives, w)
    else none
  | w, .findFirstVolume =>
    match w.volumes with
    | v :: rest => some (some (9, v.name), { w with search := rest })
    | [] => some (none, w)
  | w, .findNextVolume _ =>
    match w.search with
    | v :: rest => some (some v.name, { w with search := rest })
    | [] => some (none, w)
  | w, .findVolumeClose _ => some ((), { w with search := [] })
  | w, .volumePathNames name => (w.volumes.find? fun v => v.name = name).bind fun v =>
    if v.pathsKnown ∧ ∀ u ∈ w.volumes, name = u.name → u = v then
      some (some ((w.lettersOf v).map driveRoot), w)
    else none
  | w, .formatMessage _ => some ([], w)
  | w, .reporter (.step _ _) => some ((), w)
  | w, .reporter (.detail _) => some ((), w)
  | w, .reporter .cancelRequested => some (false, w)

/-- No letter but those of the alphabet leads to a volume. -/
def Lettered (w : Windows) : Prop := ∀ letter v, w.drives letter = some v → letter ∈ DriveLetters

theorem pathsOf_lettersOf (hw : w.Lettered) : w.PathsOf v ((w.lettersOf v).map driveRoot) := by
  intro path _
  rw [List.mem_map]
  constructor
  · rintro ⟨letter, hletter, rfl⟩
    exact ⟨letter, rfl, of_decide_eq_true (List.mem_filter.mp hletter).2⟩
  · rintro ⟨letter, rfl, hdrive⟩
    exact ⟨letter, List.mem_filter.mpr ⟨hw _ _ hdrive, decide_eq_true hdrive⟩, rfl⟩

theorem kernel_createFile {path : QString} {access : Access} {answered : Except Dword Handle}
    {w' : Windows} (h : kernel w (.createFile path access) = some (answered, w')) :
    w.step (.createFile path access) answered w' ∧ w'.drives = w.drives := by
  unfold kernel at h
  dsimp only at h
  split_ifs at h with hfree
  obtain ⟨v, htarget, h⟩ := Option.bind_eq_some_iff.mp h
  split_ifs at h with hanswers
  cases h
  exact ⟨⟨hfree, v, leadsTo_of_target htarget, fun _ => hanswers, rfl⟩, rfl⟩

theorem kernel_volumeDiskExtents {handle : Handle} {bytes : Nat}
    {answered : Except Dword (Dword × QByteArray)} {w' : Windows}
    (h : kernel w (.volumeDiskExtents handle bytes) = some (answered, w')) :
    w.step (.volumeDiskExtents handle bytes) answered w' ∧ w' = w := by
  obtain ⟨v, hhandle, h⟩ := Option.bind_eq_some_iff.mp h
  split_ifs at h with hanswer
  cases h
  obtain ⟨hbytes, hextents⟩ := hanswer
  refine ⟨⟨fun u hu => ?_, rfl⟩, rfl⟩
  obtain rfl : v = u := Option.some.inj (hhandle.symm.trans hu)
  rcases hextents with hextents | hextents
  · rw [hextents]
    exact ⟨hbytes, extentBuffer_holds (.inl rfl)⟩
  · rw [hextents]
    exact ⟨hbytes, extentBuffer_holds (.inr rfl)⟩

theorem kernel_volumePathNames (hw : w.Lettered) {name : QString}
    {answered : Option (List QString)} {w' : Windows}
    (h : kernel w (.volumePathNames name) = some (answered, w')) :
    w.step (.volumePathNames name) answered w' ∧ w' = w := by
  obtain ⟨v, -, h⟩ := Option.bind_eq_some_iff.mp h
  split_ifs at h with hanswer
  cases h
  obtain ⟨hknown, hunique⟩ := hanswer
  refine ⟨⟨fun u hu hname => ?_, rfl⟩, rfl⟩
  rw [hunique u hu hname]
  exact ⟨hknown, pathsOf_lettersOf hw⟩

/-- Every answer of the kernel is one that the machine allows, and keeps the letters in their
form. -/
theorem kernel_within : kernel.Within step Lettered := by
  intro w o answered w' hw h
  cases o
  case createFile path access =>
    obtain ⟨hstep, hdrives⟩ := kernel_createFile h
    exact ⟨hstep, fun letter v hv => hw letter v (hdrives ▸ hv)⟩
  case volumeDiskExtents handle bytes =>
    obtain ⟨hstep, rfl⟩ := kernel_volumeDiskExtents h
    exact ⟨hstep, hw⟩
  case volumePathNames name =>
    obtain ⟨hstep, rfl⟩ := kernel_volumePathNames hw h
    exact ⟨hstep, hw⟩
  case closeHandle handle =>
    cases h
    exact ⟨rfl, hw⟩
  case volumeIsOffline handle =>
    obtain ⟨v, hhandle, h⟩ := Option.map_eq_some_iff.mp h
    cases h
    refine ⟨⟨fun u hu => ?_, rfl⟩, hw⟩
    rw [Option.some.inj (hhandle.symm.trans hu)]
  case lockVolume handle =>
    obtain ⟨v, hhandle, h⟩ := Option.map_eq_some_iff.mp h
    cases h
    exact ⟨⟨v, hhandle, rfl⟩, hw⟩
  case dismountVolume handle =>
    obtain ⟨v, hhandle, h⟩ := Option.map_eq_some_iff.mp h
    cases h
    exact ⟨⟨v, hhandle, rfl⟩, hw⟩
  case deleteVolumeMountPoint path =>
    obtain ⟨letter, hletter, h⟩ := Option.map_eq_some_iff.mp h
    cases h
    have hroot : driveRoot letter = path := by simpa using List.find?_some hletter
    refine ⟨⟨letter, hroot.symm, rfl⟩, fun other v hv => ?_⟩
    dsimp only at hv
    rw [Function.update_apply] at hv
    split_ifs at hv
    exact hw other v hv
  case logicalDrives =>
    unfold kernel at h
    dsimp only at h
    split_ifs at h with hdrives
    cases h
    exact ⟨⟨hdrives, rfl⟩, hw⟩
  case findFirstVolume =>
    unfold kernel at h
    dsimp only at h
    split at h
    case h_1 v rest hvolumes =>
      cases h
      exact ⟨⟨v, rest, hvolumes, rfl, rfl⟩, hw⟩
    case h_2 hvolumes =>
      cases h
      exact ⟨⟨hvolumes, rfl⟩, hw⟩
  case findNextVolume finder =>
    unfold kernel at h
    dsimp only at h
    split at h
    case h_1 v rest hsearch =>
      cases h
      exact ⟨⟨v, rest, hsearch, rfl, rfl⟩, hw⟩
    case h_2 hsearch =>
      cases h
      exact ⟨⟨hsearch, rfl⟩, hw⟩
  case findVolumeClose finder =>
    cases h
    exact ⟨rfl, hw⟩
  case formatMessage code =>
    cases h
    exact ⟨rfl, hw⟩
  case reporter op =>
    cases op <;>
    · cases h
      exact ⟨rfl, hw⟩

end Windows

/-! ### Volumes of two disks -/

namespace TwoDisks

open Windows SmallStick

def volume (number : String) (disk : UInt32) : Volume where
  device := QStringLiteral ("\\\\?\\Volume\x7b" ++ number ++ "\x7d")
  extents := [disk]
  isOffline := false
  answersQueries := true
  pathsKnown := true

/-- On disk 1, without a letter. -/
def unlettered : Volume := volume "1" 1

/-- On disk 1, as `E:`. -/
def lettered : Volume := volume "2" 1

/-- On disk 0, as `F:`. -/
def foreign : Volume := volume "3" 0

def windows : Windows where
  volumes := [foreign, unlettered, lettered]
  drives letter :=
    if letter = QChar.ofChar 'E' then some lettered
    else if letter = QChar.ofChar 'F' then some foreign
    else none

theorem windows_drives {letter : QChar} {v : Volume} (h : windows.drives letter = some v) :
    letter = QChar.ofChar 'E' ∧ v = lettered ∨ letter = QChar.ofChar 'F' ∧ v = foreign := by
  unfold windows at h
  dsimp only at h
  split_ifs at h with hE hF
  · exact .inl ⟨hE, (Option.some.inj h).symm⟩
  · exact .inr ⟨hF, (Option.some.inj h).symm⟩

theorem windows_lettered : windows.Lettered := by
  intro letter v h
  rcases windows_drives h with ⟨rfl, -⟩ | ⟨rfl, -⟩ <;> decide

theorem windows_wellFormed : windows.WellFormed where
  distinct := by decide +kernel
  device := by decide +kernel
  notDrive := by
    have hdevice : ∀ v ∈ windows.volumes, v.device.length = 13 := by decide +kernel
    intro v hv letter h
    have hlength : (13 : Nat) = 6 := (hdevice v hv).symm.trans (congrArg List.length h)
    exact absurd hlength (by decide)
  letter := windows_lettered

theorem withinReach {v : Volume} (hv : v ∈ windows.volumes) (hdisk : 1 ∈ v.extents) :
    windows.WithinReach v := by
  simp only [windows, List.mem_cons, List.not_mem_nil, or_false] at hv
  rcases hv with rfl | rfl | rfl
  · exact absurd hdisk (by decide)
  · refine ⟨rfl, by decide, .inl ⟨rfl, fun letter h => ?_⟩⟩
    rcases windows_drives h with ⟨-, hv⟩ | ⟨-, hv⟩ <;> exact absurd hv (by decide +kernel)
  · exact ⟨rfl, by decide, .inr ⟨QChar.ofChar 'E', rfl, by decide, by decide⟩⟩

theorem not_shielded {v : Volume} (hdisk : 1 ∈ v.extents) : ¬windows.Shielded [] v := by
  rintro ⟨letter, hletter, hprotected⟩
  rcases windows_drives hletter with ⟨rfl, -⟩ | ⟨-, rfl⟩
  · exact absurd hprotected (by decide)
  · exact absurd hdisk (by decide)

theorem keepsCapitals : KeepsCapitals := by
  unfold KeepsCapitals
  decide +kernel

end TwoDisks

open TwoDisks Windows SmallStick in
/-- The first pass takes the volume that has no letter, the second the one that has; the volume of
the other disk stays. -/
theorem Windows.detachVolumes_detaches_small :
    ∃ w', Ends step (detachVolumes Catalog.english 3 1 []) windows (.ok ()) w' ∧
      (∀ v ∈ [unlettered, lettered], v ∈ w'.locked ∧ v ∈ w'.dismounted) ∧
      foreign ∉ w'.locked ∧ foreign ∉ w'.dismounted := by
  obtain ⟨_, w', hrun, -⟩ := drive_ok kernel_within
    (p := detachVolumes Catalog.english 3 1 []) (s := windows) (g := fun _ _ => ()) (x := ())
    (by decide +kernel) windows_lettered
  obtain ⟨htaken, hbelongs⟩ := (detachVolumes_detaches_iff keepsCapitals Catalog.english 3 1 []
    windows_wellFormed rfl rfl hrun).mpr fun v hv _ hdisk _ => withinReach hv hdisk
  refine ⟨w', hrun, fun v hv => ?_, fun h => ?_, fun h => ?_⟩
  · have hdisk : ∀ v ∈ [unlettered, lettered], 1 ∈ v.extents ∧ v.isOffline = false := by decide
    obtain ⟨hdisk, honline⟩ := hdisk v hv
    exact htaken v (List.mem_cons_of_mem _ hv) honline hdisk (not_shielded hdisk)
  · exact absurd (hbelongs foreign (.inl h)) (by decide)
  · exact absurd (hbelongs foreign (.inr h)) (by decide)

/-! ### One volume, with the letter B -/

namespace OneVolume

open Windows

def volume : Volume where
  device := QStringLiteral "\\\\?\\Volume\x7b1\x7d"
  extents := [1]
  isOffline := false
  answersQueries := true
  pathsKnown := true

/-- The volume, and the letter it was given. -/
def withLetter (letter : Option QChar) : Windows where
  volumes := [volume]
  drives other := if letter = some other then some volume else none

end OneVolume

open OneVolume Windows SmallStick in
/-- Both passes succeed, and the volume that has the letter B is still mounted. -/
theorem Windows.detachVolumes_leaves_letterB :
    ∃ w', Ends step (detachVolumes Catalog.english 1 1 []) (withLetter (some (QChar.ofChar 'B')))
        (.ok ()) w' ∧
      ∃ v ∈ w'.volumes, v.isOffline = false ∧ 1 ∈ v.extents ∧
        ¬(withLetter (some (QChar.ofChar 'B'))).Shielded [] v ∧
          v ∉ w'.locked ∧ v ∉ w'.dismounted := by
  have hdrives : ∀ letter v, (withLetter (some (QChar.ofChar 'B'))).drives letter = some v →
      letter = QChar.ofChar 'B' := by
    intro letter v h
    unfold withLetter at h
    dsimp only at h
    split_ifs at h with hB
    exact (Option.some.inj hB).symm
  have hlettered : (withLetter (some (QChar.ofChar 'B'))).Lettered := by
    intro letter v h
    rw [hdrives letter v h]
    decide
  obtain ⟨_, w', hrun, hleft⟩ := drive_ok kernel_within
    (p := detachVolumes Catalog.english 1 1 []) (s := withLetter (some (QChar.ofChar 'B')))
    (g := fun _ w' => (w'.volumes, w'.locked, w'.dismounted)) (x := ([volume], [], []))
    (by decide +kernel) hlettered
  obtain ⟨hvolumes, hlocked, hdismounted⟩ : w'.volumes = [volume] ∧ w'.locked = [] ∧
      w'.dismounted = [] := by simpa using hleft
  refine ⟨w', hrun, volume, ?_, rfl, List.mem_singleton_self _, ?_, ?_, ?_⟩
  · rw [hvolumes]
    exact List.mem_singleton_self _
  · rintro ⟨letter, hletter, hprotected⟩
    rw [hdrives letter volume hletter] at hprotected
    exact absurd hprotected (by decide)
  · rw [hlocked]
    exact List.not_mem_nil
  · rw [hdismounted]
    exact List.not_mem_nil

end UsbRestore
