-- SUMMARY: What each of the two passes over the volumes of a disk detaches.
import UsbRestore.Win.VolumeWorld

/-!
# The passes over the volumes

The first pass takes the volumes that have no drive letter, the second goes by letter. Each of them
detaches exactly the volumes that a predicate of the state before tells, and leaves the rest alone.
-/

namespace UsbRestore

open Prog

namespace Windows

variable {ε : Type} {w : Windows} {v : Volume}

/-! ## Opening and detaching -/

def opened (w : Windows) (handle : Handle) (v : Volume) : Windows :=
  { w with handles := Function.update w.handles handle (some v) }

def closed (w : Windows) (handle : Handle) : Windows :=
  { w with handles := Function.update w.handles handle none }

def detached (w : Windows) (v : Volume) : Windows :=
  { w with locked := v :: w.locked, dismounted := v :: w.dismounted }

theorem handles_opened (handle : Handle) : (w.opened handle v).handles handle = some v :=
  Function.update_self _ _ _

theorem closed_opened {handle : Handle} (h : w.handles handle = none) :
    (w.opened handle v).closed handle = w := by
  unfold closed opened
  dsimp only
  rw [Function.update_idem, ← h, Function.update_eq_self]

theorem closed_detached_opened {handle : Handle} (h : w.handles handle = none) (u : Volume) :
    ((w.opened handle v).detached u).closed handle = w.detached u := by
  unfold closed opened detached
  dsimp only
  rw [Function.update_idem, ← h, Function.update_eq_self]

theorem closeHandle_ensures (handle : Handle) :
    (Win.closeHandle handle : Prog WinI ε Unit).Ensures step (fun _ w' => w' = w.closed handle) w :=
  Ensures.op fun _ _ hstep => hstep

theorem failWith_ensures {α : Type} (context : RestoreMessage) (code : Dword)
    (Q : α → Windows → Prop) :
    (failWith context code : Prog WinI RestoreMessage α).Ensures step Q w := by
  refine Ensures.seq (Q := fun _ _ => True) (ensures_trivial _ _) fun _ _ _ => ?_
  exact Ensures.fail

/-- A volume that a path leads to, opened without access rights. -/
theorem openQuery_ensures {path : QString} (hpath : w.LeadsTo path v)
    (hunique : ∀ u, w.LeadsTo path u → u = v) :
    (openVolumePath path .query : Prog WinI ε _).Ensures step
      (fun answer w' => match answer with
        | .ok handle => v.answersQueries = true ∧ w.handles handle = none ∧ w' = w.opened handle v
        | .error _ => v.answersQueries = false ∧ w' = w) w := by
  refine Ensures.op fun answer w' hstep => ?_
  cases answer with
  | ok handle =>
    obtain ⟨hfree, u, hu, hanswers, rfl⟩ := hstep
    obtain rfl := hunique u hu
    exact ⟨hanswers rfl, hfree, rfl⟩
  | error code =>
    obtain ⟨hrefuses, rfl⟩ := hstep
    exact ⟨hrefuses rfl v hpath, rfl⟩

/-- A path that leads to one volume alone opens that volume. -/
theorem openReadWrite_ensures {path : QString} (hunique : ∀ u, w.LeadsTo path u → u = v) :
    (openVolumePath path .readWrite : Prog WinI ε _).Ensures step
      (fun answer w' => ∀ handle, answer = .ok handle →
        w.handles handle = none ∧ w' = w.opened handle v) w := by
  refine Ensures.op fun answer w' hstep => ?_
  rintro handle rfl
  obtain ⟨hfree, u, hu, -, rfl⟩ := hstep
  obtain rfl := hunique u hu
  exact ⟨hfree, rfl⟩

/-- Locking and dismounting through a handle takes the volume behind it and no other. -/
theorem lockAndDismount_ensures (installed : Catalog) {handle : Handle}
    (h : w.handles handle = some v) (volumePath : QString) :
    (lockAndDismount installed handle volumePath).Ensures step
      (fun _ w' => w' = w.detached v) w := by
  refine Ensures.call fun locked w' hlock => ?_
  cases locked with
  | error code => exact failWith_ensures _ _ _
  | ok done =>
    obtain ⟨u, hu, rfl⟩ := hlock
    obtain rfl : v = u := Option.some.inj (h.symm.trans hu)
    refine Ensures.call fun dismounted w' hdismount => ?_
    cases dismounted with
    | error code => exact failWith_ensures _ _ _
    | ok done =>
      obtain ⟨u, hu, rfl⟩ := hdismount
      obtain rfl : v = u := Option.some.inj (h.symm.trans hu)
      exact Ensures.ret rfl

/-! ## Volumes without a letter -/

/-- What the first pass detaches. -/
structure Unlettered (w : Windows) (diskNumber : UInt32) (v : Volume) : Prop where
  pathsKnown : v.pathsKnown = true
  unlettered : ∀ letter, w.drives letter ≠ some v
  answers : v.answersQueries = true
  belongs : diskNumber ∈ v.visibleDisks
  online : v.isOffline = false

/-- The answer is no exactly where the paths of the volume are known and none of them is a drive. -/
theorem mayHaveDriveLetter_ensures (hv : v ∈ w.volumes) :
    (mayHaveDriveLetter v.name : Prog WinI ε Bool).Ensures step
      (fun may w' => w' = w ∧
        (may = false ↔ v.pathsKnown = true ∧ ∀ letter, w.drives letter ≠ some v)) w := by
  refine Ensures.call fun answer w' hstep => ?_
  cases answer with
  | none =>
    obtain ⟨hunknown, rfl⟩ := hstep
    refine Ensures.ret ⟨rfl, ?_⟩
    rw [hunknown v hv rfl]
    simp
  | some paths =>
    obtain ⟨hanswer, rfl⟩ := hstep
    obtain ⟨hknown, hpaths⟩ := hanswer v hv rfl
    refine Ensures.ret ⟨rfl, ?_⟩
    have hempty : (firstDriveRootFromMultiSz paths).isEmpty = true ↔
        ∀ path ∈ paths, isDriveRoot path = false := by
      unfold firstDriveRootFromMultiSz
      cases hfind : paths.find? isDriveRoot with
      | none =>
        have hnone := List.find?_eq_none.mp hfind
        simpa using hnone
      | some path =>
        have hroot := List.find?_some hfind
        refine iff_of_false ?_ fun hnone => ?_
        · intro hempty
          rw [Option.getD_some, List.isEmpty_iff] at hempty
          rw [hempty] at hroot
          exact absurd hroot (by decide)
        · exact Bool.false_ne_true
            ((hnone path (List.mem_of_find?_eq_some hfind)).symm.trans hroot)
    rw [Bool.not_true, Bool.false_or, Bool.not_eq_false', hempty]
    constructor
    · intro hnone
      refine ⟨hknown, fun letter hletter => ?_⟩
      have hmem := (hpaths (driveRoot letter) (isDriveRoot_driveRoot letter)).mpr
        ⟨letter, rfl, hletter⟩
      exact Bool.false_ne_true ((hnone _ hmem).symm.trans (isDriveRoot_driveRoot letter))
    · rintro ⟨-, hnone⟩ path hmem
      rw [Bool.eq_false_iff]
      intro hroot
      obtain ⟨letter, -, hletter⟩ := (hpaths path hroot).mp hmem
      exact hnone letter hletter

/-- One volume of the search: detached if it is for the first pass, and left as it is if not. -/
theorem dismountIfUnlettered_ensures (hw : w.WellFormed) (hv : v ∈ w.volumes)
    (installed : Catalog) (diskNumber : UInt32) :
    (dismountIfUnlettered installed diskNumber v.name).Ensures step
      (fun _ w' => w.Unlettered diskNumber v ∧ w' = w.detached v ∨
        ¬w.Unlettered diskNumber v ∧ w' = w) w := by
  have hunique : ∀ u, w.LeadsTo v.device u → u = v := fun u => LeadsTo.of_device hw hv
  unfold dismountIfUnlettered
  rw [withoutTrailingSlash_name (hw.device v hv)]
  refine Ensures.seq (mayHaveDriveLetter_ensures hv) ?_
  rintro may w ⟨rfl, hmay⟩
  cases may with
  | true =>
    refine .inr ⟨fun h => ?_, rfl⟩
    exact Bool.noConfusion (hmay.mpr ⟨h.pathsKnown, h.unlettered⟩)
  | false =>
    obtain ⟨hknown, hletters⟩ := hmay.mp rfl
    refine Ensures.seq (openQuery_ensures (.device hv) hunique) fun answer w' hopened => ?_
    cases answer with
    | error code =>
      obtain ⟨hrefuses, rfl⟩ := hopened
      refine .inr ⟨fun h => ?_, rfl⟩
      exact Bool.false_ne_true (hrefuses.symm.trans h.answers)
    | ok handle =>
      obtain ⟨hanswers, hfree, rfl⟩ := hopened
      refine Ensures.seq (volumeHasDiskExtent_ensures (handles_opened handle) diskNumber) ?_
      rintro belongs _ ⟨rfl, rfl⟩
      refine Ensures.call fun offline w' hoffline => ?_
      obtain ⟨hoffline, rfl⟩ := hoffline
      obtain rfl := hoffline v (handles_opened handle)
      refine Ensures.seq (closeHandle_ensures handle) ?_
      rintro _ _ rfl
      rw [closed_opened hfree]
      by_cases hskip : (!decide (diskNumber ∈ v.visibleDisks) || v.isOffline) = true
      · rw [if_pos hskip]
        refine .inr ⟨fun h => ?_, rfl⟩
        simp [h.belongs, h.online] at hskip
      rw [if_neg hskip]
      rw [Bool.or_eq_true, Bool.not_eq_true', decide_eq_false_iff_not, not_or, not_not,
        Bool.not_eq_true] at hskip
      have htaken : w.Unlettered diskNumber v :=
        ⟨hknown, hletters, hanswers, hskip.1, hskip.2⟩
      refine Ensures.seq (openReadWrite_ensures hunique) fun answer w' hopened => ?_
      cases answer with
      | error code => exact failWith_ensures _ _ _
      | ok handle =>
        obtain ⟨hfree, rfl⟩ := hopened handle rfl
        refine Ensures.seq (volumeHasDiskExtent_ensures (handles_opened handle) diskNumber) ?_
        rintro belongs _ ⟨rfl, rfl⟩
        rw [if_neg (by simp [hskip.1])]
        refine Ensures.seq (Q := fun _ w' => w' = w.detached v) (Ensures.withCleanup
          (lockAndDismount_ensures installed (handles_opened handle) v.name) ?_) ?_
        · rintro _ _ rfl
          refine Ensures.mono (closeHandle_ensures handle) ?_
          rintro _ _ rfl
          exact closed_detached_opened hfree v
        · rintro _ _ rfl
          refine Ensures.op fun _ w' hdetail => ?_
          exact .inl ⟨htaken, hdetail⟩

/-! ## Passes -/

/-- A pass has detached some volumes, and has left the rest and the handles alone. -/
structure Detaches (w w' : Windows) (taken : Volume → Prop) : Prop where
  volumes : w'.volumes = w.volumes
  handles : w'.handles = w.handles
  locked : ∀ v, v ∈ w'.locked ↔ v ∈ w.locked ∨ taken v
  dismounted : ∀ v, v ∈ w'.dismounted ↔ v ∈ w.dismounted ∨ taken v

theorem Detaches.none (w : Windows) : w.Detaches w fun _ => False :=
  ⟨rfl, rfl, by simp, by simp⟩

theorem Detaches.detached (w : Windows) (v : Volume) : w.Detaches (w.detached v) (· = v) where
  volumes := rfl
  handles := rfl
  locked u := by
    rw [Windows.detached, List.mem_cons, or_comm]
  dismounted u := by
    rw [Windows.detached, List.mem_cons, or_comm]

/-- What two passes take is what either takes. -/
theorem Detaches.trans {w' w'' : Windows} {taken more : Volume → Prop} (h : w.Detaches w' taken)
    (h' : w'.Detaches w'' more) : w.Detaches w'' fun v => taken v ∨ more v where
  volumes := h'.volumes.trans h.volumes
  handles := h'.handles.trans h.handles
  locked v := by rw [h'.locked, h.locked, or_assoc]
  dismounted v := by rw [h'.dismounted, h.dismounted, or_assoc]

theorem Detaches.congr {w' : Windows} {taken other : Volume → Prop} (h : w.Detaches w' taken)
    (hsame : ∀ v, taken v ↔ other v) : w.Detaches w' other where
  volumes := h.volumes
  handles := h.handles
  locked v := by rw [h.locked, hsame]
  dismounted v := by rw [h.dismounted, hsame]

/-- The search from a volume on. The induction is on the rounds of the loop. -/
theorem dismountUnlettered_ensures (installed : Catalog) (diskNumber : UInt32) (finder : Handle)
    (fuel : Nat) {v : Volume} (hw : w.WellFormed) (hv : v ∈ w.volumes)
    (hrest : ∀ u ∈ w.search, u ∈ w.volumes) :
    (dismountUnlettered installed diskNumber finder fuel v.name).Ensures step
      (fun _ w' => w'.drives = w.drives ∧ w.Detaches w'
        fun u => u ∈ v :: w.search ∧ w.Unlettered diskNumber u) w := by
  induction fuel generalizing w v with
  | zero => trivial
  | succ fuel ih =>
    unfold dismountUnlettered
    refine Ensures.seq (Q := fun _ w' => w'.drives = w.drives ∧ w'.search = w.search ∧
      w.Detaches w' fun u => u = v ∧ w.Unlettered diskNumber u) ?_ ?_
    · refine Ensures.mono (dismountIfUnlettered_ensures hw hv installed diskNumber) ?_
      rintro _ w' (⟨htaken, rfl⟩ | ⟨hleft, rfl⟩)
      · refine ⟨rfl, rfl, (Detaches.detached w v).congr fun u => ?_⟩
        refine ⟨?_, And.left⟩
        rintro rfl
        exact ⟨rfl, htaken⟩
      · refine ⟨rfl, rfl, (Detaches.none w').congr fun u => ?_⟩
        refine iff_of_false id ?_
        rintro ⟨rfl, htaken⟩
        exact hleft htaken
    · intro _ w' ⟨hdrives, hsearch, hdetaches⟩
      refine Ensures.call fun answer w'' hstep => ?_
      cases answer with
      | none =>
        obtain ⟨hdone, rfl⟩ := hstep
        refine Ensures.ret ⟨hdrives, hdetaches.congr fun u => ?_⟩
        rw [← hsearch, hdone, List.mem_singleton]
      | some name =>
        obtain ⟨next, rest, hnext, rfl, rfl⟩ := hstep
        rw [hsearch] at hnext
        have hw' : WellFormed { w' with search := rest } :=
          ⟨by rw [hdetaches.volumes]; exact hw.distinct, by rw [hdetaches.volumes]; exact hw.device,
            by rw [hdetaches.volumes]; exact hw.notDrive, by rw [hdrives]; exact hw.letter⟩
        have hsame : ∀ u, Unlettered { w' with search := rest } diskNumber u ↔
            w.Unlettered diskNumber u := by
          intro u
          constructor
          · rintro ⟨h1, h2, h3, h4, h5⟩
            exact ⟨h1, by rw [← hdrives]; exact h2, h3, h4, h5⟩
          · rintro ⟨h1, h2, h3, h4, h5⟩
            exact ⟨h1, by rw [hdrives]; exact h2, h3, h4, h5⟩
        have hlisted : ∀ u ∈ next :: rest, u ∈ w'.volumes := by
          intro u hu
          rw [hdetaches.volumes]
          exact hrest u (hnext ▸ hu)
        refine Ensures.mono (ih hw' (hlisted next List.mem_cons_self)
          fun u hu => hlisted u (List.mem_cons_of_mem _ hu)) ?_
        intro _ w'' ⟨hdrives', hdetaches'⟩
        refine ⟨hdrives'.trans hdrives, ?_⟩
        have hlater : w'.Detaches w'' fun u => u ∈ next :: rest ∧ w.Unlettered diskNumber u := by
          refine Detaches.congr ⟨hdetaches'.volumes, hdetaches'.handles, hdetaches'.locked,
            hdetaches'.dismounted⟩ fun u => ?_
          rw [hsame]
        refine (hdetaches.trans hlater).congr fun u => ?_
        rw [← or_and_right, hnext, List.mem_cons (a := u) (b := v)]

/-- The pass over all volumes takes exactly those that it finds on the disk without a drive
letter. -/
theorem dismountUnletteredVolumesOnDisk_ensures (installed : Catalog) (fuel : Nat)
    (diskNumber : UInt32) (hw : w.WellFormed) :
    (dismountUnletteredVolumesOnDisk installed fuel diskNumber).Ensures step
      (fun _ w' => w'.drives = w.drives ∧
        w.Detaches w' fun v => v ∈ w.volumes ∧ w.Unlettered diskNumber v) w := by
  refine Ensures.call fun answer w' hstep => ?_
  cases answer with
  | none =>
    obtain ⟨hnone, rfl⟩ := hstep
    refine Ensures.ret ⟨rfl, (Detaches.none _).congr fun v => ?_⟩
    rw [hnone]
    simp
  | some first =>
    obtain ⟨finder, name⟩ := first
    obtain ⟨v, rest, hvolumes, rfl, rfl⟩ := hstep
    have hw' : WellFormed { w with search := rest } := ⟨hw.distinct, hw.device, hw.notDrive, hw.letter⟩
    have hv : v ∈ w.volumes := by
      rw [hvolumes]
      exact List.mem_cons_self
    have hrest : ∀ u ∈ rest, u ∈ w.volumes := by
      rw [hvolumes]
      exact fun u hu => List.mem_cons_of_mem _ hu
    refine Ensures.withCleanup
      (dismountUnlettered_ensures installed diskNumber finder fuel hw' hv hrest) ?_
    intro _ w' ⟨hdrives, hdetaches⟩
    refine Ensures.op fun _ w'' hclosed => ?_
    obtain rfl := hclosed
    refine ⟨hdrives, ?_⟩
    have hsame : ∀ u, (u ∈ v :: rest ∧ Unlettered { w with search := rest } diskNumber u) ↔
        u ∈ w.volumes ∧ w.Unlettered diskNumber u := by
      intro u
      rw [hvolumes]
      refine and_congr_right fun _ => ⟨?_, ?_⟩
      · rintro ⟨h1, h2, h3, h4, h5⟩
        exact ⟨h1, h2, h3, h4, h5⟩
      · rintro ⟨h1, h2, h3, h4, h5⟩
        exact ⟨h1, h2, h3, h4, h5⟩
    exact Detaches.congr ⟨hdetaches.volumes, hdetaches.handles, hdetaches.locked,
      hdetaches.dismounted⟩ hsame

/-! ## Drive letters -/

/-- The letter leads to a volume that can be seen on the disk. -/
def LetterOnDisk (w : Windows) (diskNumber : UInt32) (letter : QChar) : Prop :=
  ∃ v, w.drives letter = some v ∧ v.answersQueries = true ∧ diskNumber ∈ v.visibleDisks

/-- A letter is listed once under each disk that its volume lies on. -/
theorem add_foldl (letters : LettersByDisk) (disks : List UInt32) (name : QString)
    (diskNumber : UInt32) :
    (disks.foldl (fun letters disk => letters.add disk name) letters) diskNumber =
      if diskNumber ∈ disks ∧ name ∉ letters diskNumber then letters diskNumber ++ [name]
      else letters diskNumber := by
  induction disks generalizing letters with
  | nil => simp
  | cons disk disks ih =>
    rw [List.foldl_cons, ih]
    unfold LettersByDisk.add
    by_cases hname : name ∈ letters disk
    · rw [if_pos hname]
      by_cases hdisk : diskNumber = disk
      · subst hdisk
        simp [hname]
      · simp [hdisk]
    · rw [if_neg hname]
      by_cases hdisk : diskNumber = disk
      · subst hdisk
        simp [hname]
      · simp [hdisk]

/-- Of the letters of `rest`, those on the disk were added to its list, each once. -/
def Listed (w : Windows) (diskNumber : UInt32) (rest : List QChar)
    (letters found : LettersByDisk) : Prop :=
  ∃ more : List QChar, found diskNumber = letters diskNumber ++ more.map driveName ∧ more.Nodup ∧
    ∀ letter, letter ∈ more ↔ letter ∈ rest ∧ w.LetterOnDisk diskNumber letter

section Listed

variable {diskNumber : UInt32} {letter : QChar} {rest : List QChar}
  {letters next found : LettersByDisk}

/-- A letter that leads nowhere on the disk adds nothing to its list. -/
theorem Listed.skip (h : w.Listed diskNumber rest next found)
    (hoff : ¬w.LetterOnDisk diskNumber letter) (hsame : next diskNumber = letters diskNumber) :
    w.Listed diskNumber (letter :: rest) letters found := by
  obtain ⟨more, hfound, hdistinct, hmore⟩ := h
  refine ⟨more, hsame ▸ hfound, hdistinct, fun other => (hmore other).trans ?_⟩
  refine and_congr_left fun hon => ?_
  rw [List.mem_cons, or_iff_right]
  rintro rfl
  exact hoff hon

/-- A letter on the disk is added to its list in front of the letters that follow it. -/
theorem Listed.take (h : w.Listed diskNumber rest next found) (hletter : letter ∉ rest)
    (hon : w.LetterOnDisk diskNumber letter)
    (hadded : next diskNumber = letters diskNumber ++ [driveName letter]) :
    w.Listed diskNumber (letter :: rest) letters found := by
  obtain ⟨more, hfound, hdistinct, hmore⟩ := h
  refine ⟨letter :: more, ?_, ?_, fun other => ?_⟩
  · rw [hfound, hadded, List.append_assoc]
    rfl
  · exact List.nodup_cons.mpr ⟨fun hmem => hletter ((hmore letter).mp hmem).1, hdistinct⟩
  · rw [List.mem_cons, hmore, List.mem_cons]
    constructor
    · rintro (rfl | ⟨hother, honOther⟩)
      · exact ⟨.inl rfl, hon⟩
      · exact ⟨.inr hother, honOther⟩
    · rintro ⟨rfl | hother, honOther⟩
      · exact .inl rfl
      · exact .inr ⟨hother, honOther⟩

end Listed

/-- The disks of an opened volume are read, and its handle is closed. -/
theorem readDisks_ensures {β : Type} {handle : Handle} (hfree : w.handles handle = none)
    {f : List UInt32 → Prog WinI ε β} {Q : β → Windows → Prop}
    (h : (f v.visibleDisks).Ensures step Q w) :
    (do let disks ← volumeDiskNumbers handle; Win.closeHandle handle; f disks :
      Prog WinI ε β).Ensures step Q (w.opened handle v) := by
  refine Ensures.seq (volumeDiskNumbers_ensures (handles_opened handle)) ?_
  rintro disks _ ⟨rfl, rfl⟩
  refine Ensures.seq (closeHandle_ensures handle) ?_
  rintro _ _ rfl
  rw [closed_opened hfree]
  exact h

/-- The letters still to be asked about add those of them that lead to the disk. -/
theorem lettersOfDrives_ensures (hw : w.WellFormed) {drives : Dword} {rest : List QChar}
    (hrest : ∀ letter ∈ rest, hasDrive drives letter = (w.drives letter).isSome)
    (hnodup : rest.Nodup) (diskNumber : UInt32) {letters : LettersByDisk}
    (hnew : ∀ letter ∈ rest, driveName letter ∉ letters diskNumber) :
    (lettersOfDrives drives rest letters : Prog WinI ε _).Ensures step
      (fun found w' => w' = w ∧ w.Listed diskNumber rest letters found) w := by
  induction rest generalizing letters with
  | nil => exact Ensures.ret ⟨rfl, [], by simp, List.nodup_nil, by simp⟩
  | cons letter rest ih =>
    obtain ⟨hletter, hnodup⟩ := List.nodup_cons.mp hnodup
    have hnext : ∀ next : LettersByDisk, (∀ other ∈ rest, driveName other ∉ next diskNumber) →
        (lettersOfDrives drives rest next : Prog WinI ε _).Ensures step
          (fun found w' => w' = w ∧ w.Listed diskNumber rest next found) w := fun next h =>
      ih (fun other hother => hrest other (List.mem_cons_of_mem _ hother)) hnodup h
    have hothers : ∀ other ∈ rest, driveName other ∉ letters diskNumber :=
      fun other hother => hnew other (List.mem_cons_of_mem _ hother)
    unfold lettersOfDrives
    rw [hrest letter List.mem_cons_self]
    cases hdrive : w.drives letter with
    | none =>
      have hoff : ¬w.LetterOnDisk diskNumber letter := by
        rintro ⟨v, hv, -⟩
        cases hdrive.symm.trans hv
      exact (hnext letters hothers).mono fun found w' h => ⟨h.1, h.2.skip hoff rfl⟩
    | some v =>
      have hunique : ∀ u, w.LeadsTo (drivePath letter) u → u = v := by
        intro u hu
        exact Option.some.inj ((hu.of_drive hw).symm.trans hdrive)
      refine Ensures.seq (openQuery_ensures (.drive hdrive) hunique) fun answer w' hopened => ?_
      cases answer with
      | error code =>
        obtain ⟨hrefuses, rfl⟩ := hopened
        have hoff : ¬w'.LetterOnDisk diskNumber letter := by
          rintro ⟨u, hu, hanswers, -⟩
          obtain rfl : v = u := Option.some.inj (hdrive.symm.trans hu)
          exact Bool.false_ne_true (hrefuses.symm.trans hanswers)
        exact (hnext letters hothers).mono fun found w h => ⟨h.1, h.2.skip hoff rfl⟩
      | ok handle =>
        obtain ⟨hanswers, hfree, rfl⟩ := hopened
        refine readDisks_ensures hfree ?_
        have hadded := add_foldl letters v.visibleDisks (driveName letter) diskNumber
        by_cases hdisk : diskNumber ∈ v.visibleDisks
        · rw [if_pos ⟨hdisk, hnew letter List.mem_cons_self⟩] at hadded
          refine (hnext _ ?_).mono fun found w' h =>
            ⟨h.1, h.2.take hletter ⟨v, hdrive, hanswers, hdisk⟩ hadded⟩
          intro other hother
          rw [hadded, List.mem_append, List.mem_singleton, not_or]
          refine ⟨hothers other hother, fun heq => hletter ?_⟩
          exact driveName_injective heq ▸ hother
        · rw [if_neg fun h => hdisk h.1] at hadded
          have hoff : ¬w.LetterOnDisk diskNumber letter := by
            rintro ⟨u, hu, -, hon⟩
            obtain rfl : v = u := Option.some.inj (hdrive.symm.trans hu)
            exact hdisk hon
          refine (hnext _ ?_).mono fun found w' h => ⟨h.1, h.2.skip hoff hadded⟩
          intro other hother
          rw [hadded]
          exact hothers other hother

/-- The letters that are listed for a disk are those of the volumes that lie on it, each listed
once. -/
theorem driveLettersByDisk_ensures (hw : w.WellFormed) (diskNumber : UInt32) :
    (driveLettersByDisk : Prog WinI ε _).Ensures step
      (fun found w' => w' = w ∧ ∃ letters : List QChar,
        found diskNumber = letters.map driveName ∧ letters.Nodup ∧
          ∀ letter, letter ∈ letters ↔ w.LetterOnDisk diskNumber letter) w := by
  refine Ensures.call fun drives w' hstep => ?_
  obtain ⟨hdrives, rfl⟩ := hstep
  refine Ensures.mono (lettersOfDrives_ensures hw hdrives (by decide) diskNumber fun _ _ => List.not_mem_nil) ?_
  rintro found w ⟨rfl, letters, hfound, hdistinct, hletters⟩
  refine ⟨rfl, letters, hfound, hdistinct, fun letter => ?_⟩
  rw [hletters, and_iff_right_iff_imp]
  rintro ⟨v, hv, -⟩
  exact hw.letter letter v hv

/-! ## Volumes with a letter -/

/-- `QString::toUpper` keeps the capital letters. -/
def KeepsCapitals [Host] : Prop := ∀ letter ∈ DriveLetters, Host.toUpper [letter] = [letter]

theorem normalizedLetter_driveName [Host] (hupper : KeepsCapitals) {letter : QChar}
    (h : letter ∈ DriveLetters) : normalizedLetter (driveName letter) = [letter] := by
  have hslash : ∀ letter ∈ DriveLetters,
      withoutTrailingSlash (driveName letter).trimmed = driveName letter := by
    decide +kernel
  unfold normalizedLetter
  dsimp only
  have hcolon : (driveName letter).getLast? = some (QChar.ofChar ':') := rfl
  rw [hslash letter h, if_pos hcolon]
  exact hupper letter h

/-- What the second pass does not leave out. -/
structure Removable [Host] (protectedLetters : List QString) (letter : QChar) : Prop where
  high : QChar.ofChar 'D' ≤ letter
  unprotected : [letter] ∉ protectedSet protectedLetters

/-- The two tests of the source on a letter (its place in the alphabet and the protected set) are
the one of the specification. -/
theorem removable_iff [Host] (hupper : KeepsCapitals) {letter : QChar} (h : letter ∈ DriveLetters)
    (protectedLetters : List QString) :
    (decide (normalizedLetter (driveName letter) < QStringLiteral "D") ||
        decide (normalizedLetter (driveName letter) ∈ protectedSet protectedLetters)) = false ↔
      Removable protectedLetters letter := by
  have hlow : [letter] < QStringLiteral "D" ↔ letter < QChar.ofChar 'D' := by
    change [letter] < [QChar.ofChar 'D'] ↔ _
    rw [List.cons_lt_cons_iff]
    simp
  rw [normalizedLetter_driveName hupper h, Bool.or_eq_false_iff, decide_eq_false_iff_not,
    decide_eq_false_iff_not, hlow, UInt16.not_lt]
  exact ⟨fun h => ⟨h.1, h.2⟩, fun h => ⟨h.high, h.unprotected⟩⟩

/-- The letters as they are, but that one of them may be gone. -/
inductive RemovedAtMost (w : Windows) (letter : QChar) : (QChar → Option Volume) → Prop where
  | kept : RemovedAtMost w letter w.drives
  | removed : RemovedAtMost w letter (Function.update w.drives letter none)

theorem RemovedAtMost.other {letter other : QChar} {drives : QChar → Option Volume}
    (h : w.RemovedAtMost letter drives) (hne : other ≠ letter) : drives other = w.drives other := by
  cases h with
  | kept => rfl
  | removed => exact Function.update_of_ne hne _ _

theorem RemovedAtMost.some {letter other : QChar} {drives : QChar → Option Volume}
    (h : w.RemovedAtMost letter drives) (hv : drives other = some v) : w.drives other = some v := by
  by_cases hne : other = letter
  · subst hne
    cases h with
    | kept => exact hv
    | removed =>
      rw [Function.update_self] at hv
      cases hv
  · exact (h.other hne).symm.trans hv

/-- One letter is removed, or nothing happens. -/
theorem removeMountPoint_ensures (installed : Catalog) (letter : QChar) :
    (removeMountPoint installed (driveRoot letter)).Ensures step
      (fun _ w' => w' = w ∨ w' = { w with drives := Function.update w.drives letter none }) w := by
  refine Ensures.call fun answer w' hstep => ?_
  cases answer with
  | ok done =>
    obtain ⟨other, hroot, rfl⟩ := hstep
    obtain rfl := driveRoot_injective hroot
    exact Ensures.ret (.inr rfl)
  | error code =>
    obtain rfl := hstep
    by_cases hmissing : isMissingMountPoint code = true
    · simp only [hmissing]
      exact Ensures.ret (.inl rfl)
    · simp only [Bool.not_eq_true _ ▸ hmissing]
      exact failWith_ensures _ _ _

/-- What is done through the handle of a letter takes its volume, and removes at most that letter. -/
theorem detachLetter_ensures (installed : Catalog) {handle : Handle} (letter : QChar)
    (hfree : w.handles handle = none) :
    (Prog.withCleanup (do
        lockAndDismount installed handle (DevicePrefix ++ driveName letter)
        removeMountPoint installed (driveRoot letter)) (Win.closeHandle handle) :
      Prog WinI RestoreMessage Unit).Ensures step
      (fun _ w' => ∃ drives, w' = { w.detached v with drives } ∧ RemovedAtMost w letter drives)
      (w.opened handle v) := by
  refine Ensures.withCleanup (Q := fun _ w' => ∃ drives,
    w' = { (w.opened handle v).detached v with drives } ∧ RemovedAtMost w letter drives) ?_ ?_
  · refine Ensures.seq (lockAndDismount_ensures installed (handles_opened handle) _) ?_
    rintro _ _ rfl
    refine Ensures.mono (removeMountPoint_ensures installed letter) ?_
    rintro _ w' (rfl | rfl)
    · exact ⟨w.drives, rfl, .kept⟩
    · exact ⟨_, rfl, .removed⟩
  · rintro _ _ ⟨drives, rfl, hdrives⟩
    refine Ensures.mono (closeHandle_ensures handle) ?_
    rintro _ _ rfl
    refine ⟨drives, ?_, hdrives⟩
    unfold closed opened detached
    dsimp only
    rw [Function.update_idem, ← hfree, Function.update_eq_self]

/-- A letter and its volume, and then what the other letters take. -/
theorem Detaches.withLetter [Host] {letter : QChar} {letters : List QChar}
    {drives : QChar → Option Volume} {protectedLetters : List QString} {w' : Windows}
    (h : w.RemovedAtMost letter drives) (hfirst : letter ∉ letters)
    (hdrive : w.drives letter = some v) (htaken : Removable protectedLetters letter)
    (hdetaches : Detaches { w.detached v with drives } w' fun u =>
      ∃ other ∈ letters, drives other = some u ∧ Removable protectedLetters other) :
    w.Detaches w' fun u =>
      ∃ other ∈ letter :: letters, w.drives other = some u ∧ Removable protectedLetters other := by
  have hother : ∀ other ∈ letters, drives other = w.drives other := by
    intro other hmem
    exact h.other fun heq => hfirst (heq ▸ hmem)
  have hnow : w.Detaches { w.detached v with drives } (· = v) :=
    ⟨rfl, rfl, (Detaches.detached w v).locked, (Detaches.detached w v).dismounted⟩
  refine (hnow.trans hdetaches).congr fun u => ?_
  constructor
  · rintro (rfl | ⟨other, hmem, hu, hremovable⟩)
    · exact ⟨letter, List.mem_cons_self, hdrive, htaken⟩
    · exact ⟨other, List.mem_cons_of_mem _ hmem, (hother other hmem).symm.trans hu, hremovable⟩
  · rintro ⟨other, hmem, hu, hremovable⟩
    rcases List.mem_cons.mp hmem with rfl | hmem
    · exact .inl (Option.some.inj (hu.symm.trans hdrive))
    · exact .inr ⟨other, hmem, (hother other hmem).trans hu, hremovable⟩

/-- The letters still to be taken each lead to a volume that is seen on the disk. Taking one may
remove it, and leaves the others. -/
theorem removeMountPoints_ensures [Host] (hupper : KeepsCapitals) (installed : Catalog)
    (diskNumber : UInt32) (protectedLetters : List QString) {letters : List QChar}
    (hw : w.WellFormed) (hnodup : letters.Nodup)
    (hletters : ∀ letter ∈ letters, w.LetterOnDisk diskNumber letter) :
    (removeMountPoints installed diskNumber protectedLetters (letters.map driveName)).Ensures step
      (fun _ w' => w.Detaches w' fun v =>
        ∃ letter ∈ letters, w.drives letter = some v ∧ Removable protectedLetters letter) w := by
  induction letters generalizing w with
  | nil => exact Ensures.ret ((Detaches.none w).congr (by simp))
  | cons letter letters ih =>
    obtain ⟨hfirst, hnodup⟩ := List.nodup_cons.mp hnodup
    obtain ⟨v, hdrive, hanswers, hbelongs⟩ := hletters letter List.mem_cons_self
    have hlater : ∀ other ∈ letters, w.LetterOnDisk diskNumber other :=
      fun other hother => hletters other (List.mem_cons_of_mem _ hother)
    have hremovable := removable_iff hupper (hw.letter letter v hdrive) protectedLetters
    rw [List.map_cons]
    unfold removeMountPoints
    dsimp only
    by_cases htaken : Removable protectedLetters letter
    case neg =>
      rw [if_pos (Bool.eq_true_of_not_eq_false fun h => htaken (hremovable.mp h))]
      refine Ensures.mono (ih hw hnodup hlater) fun _ w' hdetaches => ?_
      refine hdetaches.congr fun u => ⟨?_, ?_⟩
      · rintro ⟨other, hother, hu, hother'⟩
        exact ⟨other, List.mem_cons_of_mem _ hother, hu, hother'⟩
      · rintro ⟨other, hother, hu, hother'⟩
        rcases List.mem_cons.mp hother with rfl | hother
        · exact absurd hother' htaken
        · exact ⟨other, hother, hu, hother'⟩
    rw [if_neg (by rw [hremovable.mpr htaken]; exact Bool.false_ne_true)]
    have hunique : ∀ u, w.LeadsTo (drivePath letter) u → u = v := by
      intro u hu
      exact Option.some.inj ((hu.of_drive hw).symm.trans hdrive)
    refine Ensures.seq (openReadWrite_ensures hunique) fun answer w' hopened => ?_
    cases answer with
    | error code => exact failWith_ensures _ _ _
    | ok handle =>
      obtain ⟨hfree, rfl⟩ := hopened handle rfl
      refine Ensures.seq (volumeHasDiskExtent_ensures (handles_opened handle) diskNumber) ?_
      rintro belongs _ ⟨rfl, rfl⟩
      rw [if_neg (by simp [hbelongs])]
      refine Ensures.seq (detachLetter_ensures installed letter hfree) ?_
      rintro _ _ ⟨drives, rfl, hdrives⟩
      have hw' : WellFormed { w.detached v with drives } :=
        ⟨hw.distinct, hw.device, hw.notDrive, fun other u hu => hw.letter other u (hdrives.some hu)⟩
      have hlater' : ∀ other ∈ letters,
          LetterOnDisk { w.detached v with drives } diskNumber other := by
        intro other hmem
        obtain ⟨u, hu, hon⟩ := hlater other hmem
        exact ⟨u, (hdrives.other fun heq => hfirst (heq ▸ hmem)).trans hu, hon⟩
      refine Ensures.mono (ih hw' hnodup hlater') fun _ w'' hdetaches => ?_
      exact .withLetter hdrives hfirst hdrive htaken hdetaches

/-- The pass over the letters takes exactly the volumes whose letter on the disk may be removed. -/
theorem removeMountPointsForDisk_ensures [Host] (hupper : KeepsCapitals) (installed : Catalog)
    (diskNumber : UInt32) (protectedLetters : List QString) (hw : w.WellFormed) :
    (removeMountPointsForDisk installed diskNumber protectedLetters).Ensures step
      (fun _ w' => w.Detaches w' fun v => ∃ letter, w.drives letter = some v ∧
        v.answersQueries = true ∧ diskNumber ∈ v.visibleDisks ∧
          Removable protectedLetters letter) w := by
  refine Ensures.seq (driveLettersByDisk_ensures hw diskNumber) ?_
  rintro found w ⟨rfl, letters, hfound, hdistinct, hletters⟩
  rw [hfound]
  refine Ensures.mono (removeMountPoints_ensures hupper installed diskNumber protectedLetters hw
    hdistinct fun letter hletter => (hletters letter).mp hletter) fun _ w' hdetaches => ?_
  refine hdetaches.congr fun v => exists_congr fun letter => ?_
  rw [hletters]
  constructor
  · rintro ⟨⟨u, hu, hanswers, hbelongs⟩, hv, hremovable⟩
    obtain rfl : u = v := Option.some.inj (hu.symm.trans hv)
    exact ⟨hv, hanswers, hbelongs, hremovable⟩
  · rintro ⟨hv, hanswers, hbelongs, hremovable⟩
    exact ⟨⟨v, hv, hanswers, hbelongs⟩, hv, hremovable⟩

end Windows

end UsbRestore
