-- SUMMARY: A drive behind a descriptor: its writes, its mapping, and a formatter that may write at any moment.
import UsbRestore.Linux.Ending
import UsbRestore.Linux.PreparedDisk
import UsbRestore.Linux.ZeroWrites

/-!
# Drives

The drive is what an exclusive open answers with. Raw writes to its descriptor change it as they change
any medium. Once a formatter was started, what it was started for may change behind every call, whatever
was answered about the formatter since: the range of the mapping whose node is its last argument, or
anything, where that is no node of a mapping.
-/

namespace UsbRestore

open Prog

/-- What stays the same about a drive: the descriptor it is opened as, and its geometry. -/
structure UsbDriveNode where
  fd : Fd
  size : UInt64
  sectorSize : UInt32

structure UsbDrive where
  medium : Medium
  /-- It is open exclusively. -/
  opened : Bool := false
  /-- The nodes that descriptors were opened on, the latest first. -/
  nodes : List (Fd × QString) := []
  /-- Node, offset and length of every mapping that was made, the latest first. -/
  mapped : List (QString × UInt64 × UInt64) := []
  /-- What each formatter that was started may write: a range, or anything. -/
  formatting : List (Option (UInt64 × UInt64)) := []

/-- The bytes of a mapping. -/
def InRange (range : UInt64 × UInt64) (i : Nat) : Prop :=
  range.1.toNat ≤ i ∧ i < range.1.toNat + range.2.toNat

/-- The bytes that a formatter may write. -/
def InReach : Option (UInt64 × UInt64) → Nat → Prop
  | some range, i => InRange range i
  | none, _ => True

namespace UsbDrive

/-- The range behind the device argument of a formatter. -/
def reach (d : UsbDrive) (device : Option QString) : Option (UInt64 × UInt64) :=
  device.bind fun path => d.mapped.lookup path

/-- A mapping is made on the node of the descriptor. -/
def map (d : UsbDrive) (fd : Fd) (config : LoopConfig) : UsbDrive :=
  match d.nodes.lookup fd with
  | some path => { d with mapped := (path, config.offset, config.sizeLimit) :: d.mapped }
  | none => d

/-- What a call does to the drive, and what the drive answers. -/
def call (node : UsbDriveNode) (d : UsbDrive) : (o : LinuxOp) → o.Ans → UsbDrive → Prop
  | .sys (.pwrite target data offset), answer, d' =>
    ∃ medium, d.medium.step node.fd (.sys (.pwrite target data offset)) answer medium ∧
      d' = { d with medium }
  | .sys (.openNode path flags), answer, d' =>
    match answer with
    | .ok fd =>
      if flags = BlockDevice.Access.exclusive.flags then
        fd = node.fd ∧ d' = { d with opened := true, nodes := (fd, path) :: d.nodes }
      else d' = { d with nodes := (fd, path) :: d.nodes }
    | .error _ => d' = d
  | .sys (.blkGetSize64 target), answer, d' =>
    (d.opened = true → target = node.fd → ∀ size, answer = .ok size → size = node.size) ∧ d' = d
  | .sys (.blkSszGet target), answer, d' =>
    (d.opened = true → target = node.fd →
      ∀ sectorSize, answer = .ok sectorSize → sectorSize = node.sectorSize) ∧ d' = d
  | .sys (.loopConfigure fd config), answer, d' =>
    match answer with
    | .ok _ => d' = d.map fd config
    | .error _ => d' = d
  | .sys (.startProcess _ arguments), started, d' =>
    match started with
    | true => d' = { d with formatting := d.reach arguments.getLast? :: d.formatting }
    | false => d' = d
  | _, _, d' => d' = d

/-- What the formatters may do while nobody looks. -/
def Formatted (d d' : UsbDrive) : Prop :=
  ∃ image, d' = { d with medium := { d.medium with image } } ∧ image.size = d.medium.image.size ∧
    ∀ i, (∀ reach ∈ d.formatting, ¬InReach reach i) → image.byteAt i = d.medium.image.byteAt i

def step (node : UsbDriveNode) : Machine LinuxI UsbDrive :=
  fun d o ans d' => ∃ between, d.call node o ans between ∧ between.Formatted d'

variable {node : UsbDriveNode} {d d' : UsbDrive} {o : LinuxOp} {ans : o.Ans} {start length : UInt64}

/-- Where no formatter was started, nothing changes behind the calls. -/
theorem Formatted.eq (h : d.Formatted d') (hnone : d.formatting = []) : d' = d := by
  obtain ⟨image, rfl, hsize, hbytes⟩ := h
  have himage : image = d.medium.image := by
    refine Bytes.ext hsize fun i => hbytes i fun reach hreach => ?_
    rw [hnone] at hreach
    exact absurd hreach List.not_mem_nil
  rw [himage]

/-! ## What the parts of a restore do to it -/

/-- Nothing else is mapped. -/
def MapsOnly (start length : UInt64) (d : UsbDrive) : Prop :=
  ∀ mapping ∈ d.mapped, mapping.2 = (start, length)

/-- The node is one of a mapping. -/
def Maps (path : QString) (d : UsbDrive) : Prop := ∃ range, (path, range) ∈ d.mapped

/-- Nothing else is written by a formatter. -/
def FormatsOnly (start length : UInt64) (d : UsbDrive) : Prop :=
  ∀ reach ∈ d.formatting, reach = some (start, length)

/-- A formatter of a node of a mapping writes what is mapped. -/
theorem MapsOnly.reach {path : QString} (h : d.MapsOnly start length) (hmaps : d.Maps path) :
    d.reach (some path) = some (start, length) := by
  obtain ⟨range, hrange⟩ := hmaps
  obtain ⟨found, hfound⟩ : ∃ found, d.mapped.lookup path = some found := by
    refine Option.isSome_iff_exists.mp (List.lookup_isSome_iff.mpr ⟨(path, range), hrange, ?_⟩)
    exact BEq.rfl
  obtain ⟨front, back, hsplit, -⟩ := List.lookup_eq_some_iff.mp hfound
  refine hfound.trans (congrArg some (h (path, found) ?_))
  rw [hsplit]
  exact List.mem_append_right _ List.mem_cons_self

/-- The calls that write nothing and start nothing leave the medium as it is. -/
structure SameMedium (start length : UInt64) (d d' : UsbDrive) : Prop where
  medium : d'.medium = d.medium
  formatting : d'.formatting = d.formatting
  opened : d.opened = true → d'.opened = true
  mapped : d.MapsOnly start length → d'.MapsOnly start length

theorem SameMedium.refl (d : UsbDrive) : SameMedium start length d d := ⟨rfl, rfl, id, id⟩

theorem map_sameMedium {fd : Fd} {config : LoopConfig} (hoffset : config.offset = start)
    (hlength : config.sizeLimit = length) : SameMedium start length d (d.map fd config) := by
  unfold map
  split
  · refine ⟨rfl, rfl, id, fun hmapped mapping hmapping => ?_⟩
    rcases List.mem_cons.mp hmapping with rfl | hmapping
    · rw [hoffset, hlength]
    · exact hmapped mapping hmapping
  · exact .refl d

/-- A call that prepares the mapping leaves the medium as it is. -/
theorem call_prepares (ho : o.Prepares start length) (h : d.call node o ans d') :
    SameMedium start length d d' := by
  have hsame : d' = d → SameMedium start length d d' := by
    rintro rfl
    exact .refl d'
  cases o with
  | reporter o => cases o <;> exact hsame h
  | sys o =>
    cases o
    case pwrite target data offset => exact ho.elim
    case startProcess program arguments => exact ho.elim
    case openNode path flags =>
      cases ans with
      | error errorNumber => exact hsame h
      | ok fd =>
        change if _ then _ else _ at h
        split at h
        · obtain ⟨_, rfl⟩ := h
          exact ⟨rfl, rfl, fun _ => rfl, id⟩
        · obtain rfl := h
          exact ⟨rfl, rfl, id, id⟩
    case blkGetSize64 target => exact hsame h.2
    case blkSszGet target => exact hsame h.2
    case loopConfigure fd config =>
      cases ans with
      | error errorNumber => exact hsame h
      | ok _ =>
        obtain ⟨hstart, hlength⟩ : config.offset = start ∧ config.sizeLimit = length := ho
        obtain rfl := h
        exact map_sameMedium hstart hlength
    all_goals exact hsame h

/-- A step that prepares the mapping leaves the medium as it is, before any formatter. -/
theorem step_prepares (ho : o.Prepares start length) (hnone : d.formatting = [])
    (h : step node d o ans d') : SameMedium start length d d' := by
  obtain ⟨between, hcall, hformatted⟩ := h
  have hsame := call_prepares ho hcall
  obtain rfl := hformatted.eq (hsame.formatting.trans hnone)
  exact hsame

/-- The calls of the formatting change nothing but the mapped range. -/
structure SameElsewhere (start length : UInt64) (d d' : UsbDrive) : Prop where
  size : d'.medium.image.size = d.medium.image.size
  bytes : ∀ i, ¬InRange (start, length) i → d'.medium.image.byteAt i = d.medium.image.byteAt i
  mapped : d'.MapsOnly start length
  formats : d'.FormatsOnly start length
  /-- Without a formatter there is no change at all. -/
  still : d'.formatting = [] → d'.medium = d.medium ∧ d.formatting = []

/-- A call of the formatting, before anything changes behind it. -/
structure Started (start length : UInt64) (d d' : UsbDrive) : Prop where
  medium : d'.medium = d.medium
  mapped : d'.MapsOnly start length
  formats : d'.FormatsOnly start length
  none : d'.formatting = [] → d.formatting = []

/-- A call of the formatting phase changes the medium within the mapped range only. -/
theorem call_formats (ho : o.MapsOnly start length)
    (hreach : ∀ program arguments, o = .sys (.startProcess program arguments) →
      d.reach arguments.getLast? = some (start, length))
    (hmapped : d.MapsOnly start length) (hformats : d.FormatsOnly start length)
    (h : d.call node o ans d') : Started start length d d' := by
  by_cases hstarts : ∃ program arguments, o = .sys (.startProcess program arguments)
  · obtain ⟨program, arguments, rfl⟩ := hstarts
    cases ans with
    | true =>
      obtain rfl := h
      refine ⟨rfl, hmapped, fun reach hmem => ?_, nofun⟩
      rcases List.mem_cons.mp hmem with rfl | hmem
      · exact hreach program arguments rfl
      · exact hformats reach hmem
    | false =>
      obtain rfl := h
      exact ⟨rfl, hmapped, hformats, id⟩
  · have hprepares : o.Prepares start length := by
      unfold LinuxOp.Prepares
      split
      · exact hstarts ⟨_, _, rfl⟩
      · exact ho
    have hsame := call_prepares hprepares h
    refine ⟨hsame.medium, hsame.mapped hmapped, ?_, fun hnone => ?_⟩
    · rw [FormatsOnly, hsame.formatting]
      exact hformats
    · exact hsame.formatting ▸ hnone

/-- A step of the formatting phase changes the medium within the mapped range only. -/
theorem step_formats (ho : o.MapsOnly start length)
    (hreach : ∀ program arguments, o = .sys (.startProcess program arguments) →
      d.reach arguments.getLast? = some (start, length))
    (hmapped : d.MapsOnly start length) (hformats : d.FormatsOnly start length)
    (h : step node d o ans d') : SameElsewhere start length d d' := by
  obtain ⟨between, hcall, image, rfl, hsize, hbytes⟩ := h
  have hstarted := call_formats ho hreach hmapped hformats hcall
  refine ⟨?_, fun i hi => ?_, hstarted.mapped, hstarted.formats, fun hnone => ?_⟩
  · rw [← hstarted.medium]
    exact hsize
  · rw [← hstarted.medium]
    refine hbytes i fun reach hmem => ?_
    rw [hstarted.formats reach hmem]
    exact hi
  · have hstill : ({ between with medium := { between.medium with image } } : UsbDrive) = between :=
      Formatted.eq ⟨image, rfl, hsize, hbytes⟩ hnone
    exact ⟨(congrArg UsbDrive.medium hstill).trans hstarted.medium, hstarted.none hnone⟩

/-- No call closes the drive, and no mapping is forgotten. -/
structure Grows (d d' : UsbDrive) : Prop where
  opened : d.opened = true → d'.opened = true
  mapped : d.mapped ⊆ d'.mapped

/-- What was opened and mapped is never forgotten. -/
theorem step_grows (h : step node d o ans d') : d.Grows d' := by
  obtain ⟨between, hcall, image, rfl, -, -⟩ := h
  suffices hgrows : d.Grows between from ⟨hgrows.opened, hgrows.mapped⟩
  have hsame : between = d → d.Grows between := fun heq => heq ▸ ⟨id, List.Subset.refl _⟩
  cases o with
  | reporter o => cases o <;> exact hsame hcall
  | sys o =>
    cases o
    case pwrite target data offset =>
      obtain ⟨medium, -, rfl⟩ := hcall
      exact ⟨id, List.Subset.refl _⟩
    case startProcess program arguments =>
      cases ans with
      | true =>
        obtain rfl := hcall
        exact ⟨id, List.Subset.refl _⟩
      | false => exact hsame hcall
    case openNode path flags =>
      cases ans with
      | error errorNumber => exact hsame hcall
      | ok fd =>
        change if _ then _ else _ at hcall
        split at hcall
        · obtain ⟨_, rfl⟩ := hcall
          exact ⟨fun _ => rfl, List.Subset.refl _⟩
        · obtain rfl := hcall
          exact ⟨id, List.Subset.refl _⟩
    case blkGetSize64 target => exact hsame hcall.2
    case blkSszGet target => exact hsame hcall.2
    case loopConfigure fd config =>
      cases ans with
      | error errorNumber => exact hsame hcall
      | ok _ =>
        obtain rfl := hcall
        unfold map
        split
        · exact ⟨id, List.subset_cons_self _ _⟩
        · exact ⟨id, List.Subset.refl _⟩
    all_goals exact hsame hcall

/-- A node of a mapping stays one. -/
theorem step_maps {path : QString} (hmaps : d.Maps path) (h : step node d o ans d') :
    d'.Maps path := by
  obtain ⟨range, hrange⟩ := hmaps
  exact ⟨range, (step_grows h).mapped hrange⟩

/-- The node that a descriptor was opened on last. -/
theorem step_openNode {path : QString} {flags : OpenFlags} {fd : Fd}
    (h : step node d (.sys (.openNode path flags)) (.ok fd) d') :
    d'.nodes.lookup fd = some path := by
  obtain ⟨between, hcall, image, rfl, -, -⟩ := h
  change if _ then _ else _ at hcall
  split at hcall
  · obtain ⟨_, rfl⟩ := hcall
    exact List.lookup_cons_self
  · obtain rfl := hcall
    exact List.lookup_cons_self

/-- Configuring a descriptor maps the node that it was opened on. -/
theorem step_loopConfigure {path : QString} {fd : Fd} {config : LoopConfig}
    (hnode : d.nodes.lookup fd = some path)
    (h : step node d (.sys (.loopConfigure fd config)) (.ok ()) d') : d'.Maps path := by
  obtain ⟨between, hcall, image, rfl, -, -⟩ := h
  obtain rfl : between = d.map fd config := hcall
  refine ⟨(config.offset, config.sizeLimit), ?_⟩
  rw [map, hnode]
  exact List.mem_cons_self

/-- An exclusive open that succeeds is one of the drive. -/
theorem step_open {path : QString} {fd : Fd}
    (h : step node d (.sys (.openNode path BlockDevice.Access.exclusive.flags)) (.ok fd) d') :
    fd = node.fd ∧ d'.opened = true := by
  obtain ⟨between, hcall, image, rfl, -, -⟩ := h
  obtain ⟨rfl, rfl⟩ : fd = node.fd ∧
      between = { d with opened := true, nodes := (fd, path) :: d.nodes } := by
    simpa only [call, if_true] using hcall
  exact ⟨rfl, rfl⟩

/-- What an open drive says of its geometry. -/
theorem step_geometry {size : UInt64} (hopened : d.opened = true)
    (h : step node d (.sys (.blkGetSize64 node.fd)) (.ok size) d') : size = node.size := by
  obtain ⟨_, hcall, _⟩ := h
  exact hcall.1 hopened rfl size rfl

/-- The sector size that the open drive reports is its own. -/
theorem step_sectorSize {sectorSize : UInt32} (hopened : d.opened = true)
    (h : step node d (.sys (.blkSszGet node.fd)) (.ok sectorSize) d') :
    sectorSize = node.sectorSize := by
  obtain ⟨_, hcall, _⟩ := h
  exact hcall.1 hopened rfl sectorSize rfl

/-- Raw writes are those of the medium. -/
theorem step_pwrite {target : Fd} {data : QByteArray} {offset : UInt64}
    {answer : Except Errno Nat} (hnone : d.formatting = [])
    (h : step node d (.sys (.pwrite target data offset)) answer d') :
    ∃ medium, d.medium.step node.fd (.sys (.pwrite target data offset)) answer medium ∧
      d' = { d with medium } := by
  obtain ⟨between, ⟨medium, hstep, rfl⟩, hformatted⟩ := h
  obtain rfl := hformatted.eq hnone
  exact ⟨medium, hstep, rfl⟩

/-! ## What configuring a mapping leaves -/

section

variable {ε : Type}

/-- The node that is handed on is one of a mapping. -/
theorem configureAttempts_maps {control : Fd} {config : LoopConfig} {attempts : Nat} {busy : Bool}
    {errorNumber : Errno} : (LoopDevice.configureAttempts control config attempts busy errorNumber :
      Prog LinuxI ε (Except Errno LoopDevice)).Surely (step node) (fun _ _ _ _ => True)
        (fun r d' => ∀ formatter, r = .ok (.ok formatter) → d'.Maps formatter.path) d := by
  induction attempts generalizing busy errorNumber d with
  | zero => exact fun _ h => by cases h
  | succ attempts ih =>
    unfold LoopDevice.configureAttempts
    refine Surely.bind (Q := fun _ _ => True)
      ((@LoopDevice.loopNumber_preparing 0 0 _ control busy).surely
        (fun _ _ _ _ _ _ _ => ⟨trivial, trivial⟩) trivial)
      (fun number d₁ _ => ?_) fun _ _ _ _ h => by cases h
    cases number with
    | error code => exact fun _ h => by cases h
    | ok number =>
      refine Surely.call fun claimed d₂ hclaimed => ⟨trivial, ?_⟩
      cases claimed with
      | error code =>
        dsimp only
        split
        · exact ih
        · exact fun _ h => by cases h
      | ok claim =>
        refine Surely.call fun configured d₃ hconfigured => ⟨trivial, ?_⟩
        cases configured with
        | error code =>
          refine Surely.call fun _ d₄ _ => ⟨trivial, ?_⟩
          split
          · exact ih
          · exact fun _ h => by cases h
        | ok _ =>
          have hmaps := step_loopConfigure (step_openNode hclaimed) hconfigured
          refine Surely.call fun used d₄ hused => ⟨trivial, ?_⟩
          cases used with
          | ok fd =>
            intro formatter h
            cases h
            exact step_maps hmaps hused
          | error code =>
            refine Surely.call fun _ d₅ _ => ⟨trivial, ?_⟩
            refine Surely.call fun _ d₆ _ => ⟨trivial, ?_⟩
            exact fun _ h => by cases h

/-- A mapping that was made is one the drive knows by its node. -/
theorem configure_maps [Host] (installed : Catalog) {formatter : LoopDevice}
    {backingDescriptor : Fd} {offset size : UInt64} {sectorSize : UInt32} :
    (LoopDevice.configure installed formatter backingDescriptor offset size sectorSize).Surely
      (step node) (fun _ _ _ _ => True)
      (fun r d' => ∀ configured, r = .ok configured → d'.Maps configured.path) d := by
  unfold LoopDevice.configure
  dsimp only
  split
  · exact fun _ h => by cases h
  refine Surely.call fun answered d₁ _ => ⟨trivial, ?_⟩
  cases answered with
  | error errorNumber => exact fun _ h => by cases h
  | ok status =>
    refine Surely.bind (Q := fun _ _ => True)
      ((@LoopDevice.backingSize_preparing 0 0 _ backingDescriptor status).surely
        (fun _ _ _ _ _ _ _ => ⟨trivial, trivial⟩) trivial)
      (fun backing d₂ _ => ?_) fun _ _ _ _ h => by cases h
    cases backing with
    | none => exact fun _ h => by cases h
    | some backing =>
      dsimp only
      split
      · exact fun _ h => by cases h
      · refine Surely.call fun opened d₃ _ => ⟨trivial, ?_⟩
        cases opened with
        | error errorNumber => exact fun _ h => by cases h
        | ok control =>
          refine Surely.bind configureAttempts_maps (fun attempted d₄ hmaps => ?_)
            fun _ _ _ _ h => by cases h
          refine Surely.call fun _ d₅ hclosed => ⟨trivial, ?_⟩
          cases attempted with
          | error errorNumber => exact fun _ h => by cases h
          | ok configured =>
            intro formatter h
            cases h
            exact step_maps (hmaps configured rfl) hclosed

end

end UsbDrive

end UsbRestore
