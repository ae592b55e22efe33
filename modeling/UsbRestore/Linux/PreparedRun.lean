-- SUMMARY: Every run of the Linux restore leaves a prepared disk, and formats nothing before it is one.
import UsbRestore.Linux.DiskWrites
import UsbRestore.Linux.UnplugBoundary

/-!
# Runs on a drive

The parts of the restore in turn: until the last checkpoint the drive is as it was, then its ends are
cleared and the table is written, and from there on nothing but the partition changes.
-/

namespace UsbRestore

open Prog

/-! ## What is promised at each call -/

namespace UsbDriveNode

variable (node : UsbDriveNode)

def layout : GptLayout := calculateGptLayout node.size node.sectorSize

def ends : SignatureClearRange := signatureClearRange node.size node.sectorSize

/-- The table that a restore writes to the drive. -/
def tableRequest (request : RestoreRequest) (diskGuid partitionGuid : QByteArray) :
    PartitionTableRequest :=
  restoreTableRequest request { size := node.size, sectorSize := node.sectorSize } diskGuid
    partitionGuid

end UsbDriveNode

/-- Outside its ends and the new partition the drive holds what it held. -/
structure Confined (node : UsbDriveNode) (before after : Bytes) : Prop where
  size : after.size = before.size
  bytes : ∀ i, ¬InEnds node.ends i → ¬InRange (node.layout.startOffset, node.layout.length) i →
    after.byteAt i = before.byteAt i

/-- A call that finds the drive as `d` and leaves it as `d'`: a formatter is started for the new
partition of a prepared disk, and the first one on a partition without old signatures. -/
structure Guarded (node : UsbDriveNode) (request : RestoreRequest) (before : Bytes) (d : UsbDrive)
    (o : LinuxOp) (d' : UsbDrive) : Prop where
  confined : Confined node before d'.medium.image
  device : ∀ program arguments, o = .sys (.startProcess program arguments) →
    d.reach arguments.getLast? = some (node.layout.startOffset, node.layout.length)
  prepared : ∀ program arguments, o = .sys (.startProcess program arguments) →
    ∃ diskGuid partitionGuid,
      Prepared (node.tableRequest request diskGuid partitionGuid) before d.medium.image ∧
      (d.formatting = [] →
        Fresh (node.tableRequest request diskGuid partitionGuid) before d.medium.image)

section

variable {node : UsbDriveNode} {request : RestoreRequest} {before : Bytes} {d d' : UsbDrive}
  {α β : Type}

/-- A call that starts no process has to leave the drive confined, and nothing else. -/
theorem Guarded.of_not_start {o : LinuxOp} (h : Confined node before d'.medium.image)
    (hno : ∀ program arguments, o ≠ .sys (.startProcess program arguments)) :
    Guarded node request before d o d' where
  confined := h
  device program arguments hop := absurd hop (hno program arguments)
  prepared program arguments hop := absurd hop (hno program arguments)

/-- So has a call that only prepares the mapping. -/
theorem Guarded.of_prepares {offset length : UInt64} {o : LinuxOp}
    (h : Confined node before d'.medium.image) (ho : LinuxOp.Prepares offset length o) :
    Guarded node request before d o d' := by
  refine .of_not_start h fun program arguments hop => ?_
  subst hop
  exact ho.elim

/-- A part of the restore on the drive. -/
abbrev Restores (node : UsbDriveNode) (request : RestoreRequest) (before : Bytes)
    (p : Prog LinuxI RestoreMessage α) (Q : Except RestoreMessage α → UsbDrive → Prop)
    (d : UsbDrive) : Prop :=
  p.Surely (UsbDrive.step node) (fun d o _ d' => Guarded node request before d o d') Q d

/-! ## Before the formatter -/

/-- Nothing but the ends has changed, and no formatter was started. -/
structure Waiting (node : UsbDriveNode) (before : Bytes) (d : UsbDrive) : Prop where
  confined : Confined node before d.medium.image
  formatting : d.formatting = []
  mapped : d.MapsOnly node.layout.startOffset node.layout.length

abbrev SameDrive (node : UsbDriveNode) (d d' : UsbDrive) : Prop :=
  UsbDrive.SameMedium node.layout.startOffset node.layout.length d d'

/-- Two stretches without a change make one. -/
theorem SameDrive.trans {d'' : UsbDrive} (h : SameDrive node d d') (h' : SameDrive node d' d'') :
    SameDrive node d d'' :=
  ⟨h'.medium.trans h.medium, h'.formatting.trans h.formatting, fun ho => h'.opened (h.opened ho),
    fun hm => h'.mapped (h.mapped hm)⟩

theorem Waiting.of_same (h : Waiting node before d) (hsame : SameDrive node d d') :
    Waiting node before d' :=
  ⟨hsame.medium ▸ h.confined, hsame.formatting.trans h.formatting, hsame.mapped h.mapped⟩

/-- What only prepares the mapping leaves a drive that waits as it is. -/
theorem Preparing.restores {p : Prog LinuxI RestoreMessage α}
    (h : Preparing node.layout.startOffset node.layout.length p) (hd : Waiting node before d) :
    Restores node request before p (fun _ d' => SameDrive node d d') d := by
  refine Ending.surely (J := fun d' => SameDrive node d d') h ?_ (.refl d)
  intro d₁ o ans d₂ hsame ho hstep
  have hlater := hsame.trans (UsbDrive.step_prepares ho (hsame.formatting.trans hd.formatting) hstep)
  exact ⟨.of_prepares (hd.of_same hlater).confined ho, hlater⟩

/-- A part that changes nothing, and what comes after it. -/
theorem Preparing.bind {p : Prog LinuxI RestoreMessage α}
    {f : α → Prog LinuxI RestoreMessage β} {Q : Except RestoreMessage β → UsbDrive → Prop}
    (h : Preparing node.layout.startOffset node.layout.length p) (hd : Waiting node before d)
    (hf : ∀ a d', SameDrive node d d' → Restores node request before (f a) Q d')
    (he : ∀ e d', SameDrive node d d' → Q (.error e) d') :
    Restores node request before (p >>= f) Q d :=
  Surely.bind (h.restores hd) hf he

/-- Raw writes in the ends. -/
theorem Stores.restores {p : Prog LinuxI RestoreMessage Unit} {S : Nat → Prop}
    {Q : Except RestoreMessage Unit → Medium → Prop} (h : Stores node.fd p Q d.medium)
    (hwriting : WritingIn node.fd S p) (hS : ∀ i, S i → InEnds node.ends i)
    (hd : Waiting node before d) :
    Restores node request before p (fun r d' => Waiting node before d' ∧ d'.opened = d.opened ∧
      Q r d'.medium ∧ d'.medium.interrupts ≤ d.medium.interrupts) d := by
  have hconfined : ∀ medium, KeptOutside S d.medium medium → Confined node before medium.image := by
    intro medium hkept
    refine ⟨hkept.size.trans hd.confined.size, fun i hi hno => ?_⟩
    exact (hkept.bytes i fun hin => hi (hS i hin)).trans (hd.confined.bytes i hi hno)
  refine (Surely.refine (fun s t => t = { d with medium := s }) ?_
    (h.also (hwriting.keeps (.refl S d.medium))) hwriting rfl).mono ?_
  · rintro o s _ ans t' ho rfl hstep
    cases o with
    | reporter o => exact ho.elim
    | sys o =>
      cases o
      case pwrite target data offset =>
        have hnone : ({ d with medium := s } : UsbDrive).formatting = [] := hd.formatting
        obtain ⟨medium, hmedium, rfl⟩ := UsbDrive.step_pwrite hnone hstep
        refine ⟨medium, hmedium, fun hkept => ?_, rfl⟩
        exact .of_not_start (hconfined medium hkept) fun _ _ hop => by cases hop
      all_goals exact ho.elim
  · rintro r _ ⟨medium, ⟨hQ, hkept⟩, rfl⟩
    exact ⟨⟨hconfined medium hkept, hd.formatting, hd.mapped⟩, rfl, hQ, hkept.interrupts⟩

/-! ## After the table -/

/-- What the table request of a run was accepted with. -/
structure Accepted (before : Bytes) (table : PartitionTableRequest) : Prop where
  layout : table.layout = calculateGptLayout table.diskSize table.sectorSize
  gate : WritableRequest table
  ends : EndsFit table
  size : before.size = table.diskSize.toNat

/-- The table of the request is on the drive. -/
structure Laid (node : UsbDriveNode) (request : RestoreRequest) (before : Bytes)
    (diskGuid partitionGuid : QByteArray) (d : UsbDrive) : Prop where
  accepted : Accepted before (node.tableRequest request diskGuid partitionGuid)
  layered : Layered (node.tableRequest request diskGuid partitionGuid) before d.medium.image
  fresh : d.formatting = [] →
    Fresh (node.tableRequest request diskGuid partitionGuid) before d.medium.image
  mapped : d.MapsOnly node.layout.startOffset node.layout.length
  formats : d.FormatsOnly node.layout.startOffset node.layout.length

variable {diskGuid partitionGuid : QByteArray}

/-- The table was written over the cleared ends. -/
theorem Accepted.laid
    (h : Accepted before (node.tableRequest request diskGuid partitionGuid))
    (hd : Waiting node before d) (himage : d.medium.image =
      writeTable (clearEnds before node.ends) (node.tableRequest request diskGuid partitionGuid)) :
    Laid node request before diskGuid partitionGuid d := by
  obtain ⟨hlayered, hfresh⟩ := @layered_writeTable _ before h.layout h.gate h.ends
  refine ⟨h, himage ▸ hlayered, fun _ => himage ▸ hfresh, hd.mapped, fun reach hreach => ?_⟩
  rw [hd.formatting] at hreach
  exact absurd hreach List.not_mem_nil

namespace Laid

/-- A table that was laid leaves a prepared disk, also while it is being formatted. -/
theorem prepared (h : Laid node request before diskGuid partitionGuid d) :
    Prepared (node.tableRequest request diskGuid partitionGuid) before d.medium.image :=
  h.layered.prepared h.accepted.layout h.accepted.gate h.accepted.ends h.accepted.size

theorem of_same (h : Laid node request before diskGuid partitionGuid d)
    (hsame : SameDrive node d d') : Laid node request before diskGuid partitionGuid d' :=
  ⟨h.accepted, hsame.medium ▸ h.layered,
    fun hnone => hsame.medium ▸ h.fresh (hsame.formatting ▸ hnone), hsame.mapped h.mapped,
    fun reach hreach => h.formats reach (hsame.formatting ▸ hreach)⟩

/-- What was laid has changed only the ends and the partition. -/
theorem confined (h : Laid node request before diskGuid partitionGuid d) :
    Confined node before d.medium.image :=
  ⟨h.layered.size, h.layered.outside⟩

/-- A step of the formatting phase keeps what was laid. -/
theorem step (h : Laid node request before diskGuid partitionGuid d) {o : LinuxOp} {ans : o.Ans}
    (ho : o.MapsOnly node.layout.startOffset node.layout.length)
    (hreach : ∀ program arguments, o = .sys (.startProcess program arguments) →
      d.reach arguments.getLast? = some (node.layout.startOffset, node.layout.length))
    (hstep : UsbDrive.step node d o ans d') :
    Guarded node request before d o d' ∧ Laid node request before diskGuid partitionGuid d' := by
  have hsame := UsbDrive.step_formats ho hreach h.mapped h.formats hstep
  have hlaid : Laid node request before diskGuid partitionGuid d' :=
    { accepted := h.accepted
      layered := h.layered.format h.accepted.layout h.accepted.gate hsame.size hsame.bytes
      fresh := fun hnone => by
        obtain ⟨hmedium, hbefore⟩ := hsame.still hnone
        rw [hmedium]
        exact h.fresh hbefore
      mapped := hsame.mapped
      formats := hsame.formats }
  exact ⟨⟨hlaid.confined, hreach, fun _ _ _ => ⟨diskGuid, partitionGuid, h.prepared, h.fresh⟩⟩,
    hlaid⟩

/-- A call that starts no formatter. -/
theorem step_prepares (h : Laid node request before diskGuid partitionGuid d) {o : LinuxOp}
    {ans : o.Ans} (ho : o.Prepares node.layout.startOffset node.layout.length)
    (hstep : UsbDrive.step node d o ans d') :
    Guarded node request before d o d' ∧ Laid node request before diskGuid partitionGuid d' := by
  refine h.step ho.mapsOnly ?_ hstep
  rintro program arguments rfl
  exact ho.elim

/-- The formatting of a node of the mapping. -/
theorem restores (h : Laid node request before diskGuid partitionGuid d) {path : QString}
    (hmaps : d.Maps path) {p : Prog LinuxI RestoreMessage α}
    (hp : Formatting node.layout.startOffset node.layout.length path p) :
    Restores node request before p
      (fun _ d' => Laid node request before diskGuid partitionGuid d') d := by
  have hkept : Restores node request before p (fun _ d' =>
      Laid node request before diskGuid partitionGuid d' ∧ d'.Maps path) d := by
    refine Ending.surely (J := fun d' => Laid node request before diskGuid partitionGuid d' ∧
      d'.Maps path) hp ?_ ⟨h, hmaps⟩
    rintro d₁ o ans d₂ ⟨hlaid, hmaps⟩ ho hstep
    have hreach : ∀ program arguments, o = .sys (.startProcess program arguments) →
        d₁.reach arguments.getLast? = some (node.layout.startOffset, node.layout.length) := by
      rintro program arguments rfl
      have hlast : arguments.getLast? = some path := ho
      rw [hlast]
      exact hlaid.mapped.reach hmaps
    obtain ⟨hguarded, hlaid'⟩ := hlaid.step ho.mapsOnly hreach hstep
    exact ⟨hguarded, hlaid', UsbDrive.step_maps hmaps hstep⟩
  exact hkept.mono fun _ _ h => h.1

end Laid

/-! ## Erasing and writing -/

variable [Host] {installed : Catalog} {fuel : LoopFuel} {disk : DiskInfo} {device : BlockDevice}

/-- The disk that was enumerated is the drive. -/
structure IsDrive (node : UsbDriveNode) (disk : DiskInfo) : Prop where
  size : disk.size = node.size
  sectorSize : disk.sectorSize = node.sectorSize

omit [Host] in
theorem IsDrive.tableRequest (h : IsDrive node disk) :
    restoreTableRequest request disk diskGuid partitionGuid =
      node.tableRequest request diskGuid partitionGuid := by
  unfold UsbDriveNode.tableRequest restoreTableRequest
  rw [h.size, h.sectorSize]

/-- The loops of the raw writes can make this many rounds. -/
def Ample (node : UsbDriveNode) (fuel : LoopFuel) (d : UsbDrive) : Prop :=
  node.size.toNat + d.medium.interrupts < fuel

omit [Host] in
theorem Ample.of_same (h : Ample node fuel d) (hsame : SameDrive node d d') : Ample node fuel d' := by
  unfold Ample
  rwa [hsame.medium]

/-- Both ends are cleared, or nothing outside them was changed. -/
theorem clearSignatures_restores (hdevice : device.fd = some node.fd) (hdrive : IsDrive node disk)
    (hbefore : before.size = node.size.toNat) (himage : d.medium.image = before)
    (hample : Ample node fuel d) (hd : Waiting node before d) :
    Restores node request before (clearSignatures installed fuel disk device) (fun r d' =>
      Waiting node before d' ∧ Ample node fuel d' ∧
        (r = .ok () → d'.medium.image = clearEnds before node.ends)) d := by
  have hends : signatureClearRange disk.size disk.sectorSize = node.ends := by
    rw [hdrive.size, hdrive.sectorSize]
    rfl
  have hclears : Stores node.fd (clearSignatures installed fuel disk device) (fun r s' =>
      SignaturesCleared before node.ends r s'.image) d.medium := by
    have hsize : d.medium.image.size = disk.size.toNat := by
      rw [himage, hbefore, hdrive.size]
    have hfuel : disk.size.toNat + d.medium.interrupts < fuel := by
      rw [hdrive.size]
      exact hample
    have h := @clearSignatures_clears _ installed device node.fd fuel d.medium disk (.inr hdevice)
      hsize hfuel
    rw [hends, himage] at h
    exact h
  refine (Stores.restores hclears (clearSignatures_writingIn hdevice) (fun i hi => hends ▸ hi) hd).mono
    ?_
  rintro r d' ⟨hwaiting, _, hcleared, hinterrupts⟩
  refine ⟨hwaiting, Nat.lt_of_le_of_lt (Nat.add_le_add_left hinterrupts _) hample, ?_⟩
  rintro rfl
  exact hcleared

/-- The signatures are cleared and the table is written, or the failure has kept to the ends. -/
theorem eraseAndWrite_restores (hdevice : device.fd = some node.fd) (hdrive : IsDrive node disk)
    (haccepted : Accepted before (node.tableRequest request diskGuid partitionGuid))
    (himage : d.medium.image = before) (hample : Ample node fuel d) (hd : Waiting node before d)
    (steps : RestoreStepCounter) :
    Restores node request before (eraseAndWrite installed fuel request disk
      (node.tableRequest request diskGuid partitionGuid) device steps) (fun r d' =>
        Waiting node before d' ∧
          ∀ steps', r = .ok steps' → Laid node request before diskGuid partitionGuid d') d := by
  unfold eraseAndWrite
  refine cancelCheckpoint_preparing.bind hd (fun _ d₁ h₁ => ?_)
    fun _ _ hsame => ⟨hd.of_same hsame, nofun⟩
  have hd₁ := hd.of_same h₁
  refine (device.verifyIdentity_preparing installed disk).bind hd₁ (fun _ d₂ h₂ => ?_)
    fun _ _ hsame => ⟨hd₁.of_same hsame, nofun⟩
  have hd₂ := hd₁.of_same h₂
  refine (reportPlannedStep_preparing installed _ _ _).bind hd₂ (fun steps d₃ h₃ => ?_)
    fun _ _ hsame => ⟨hd₂.of_same hsame, nofun⟩
  have hsame := (h₁.trans h₂).trans h₃
  refine Surely.bind (clearSignatures_restores hdevice hdrive haccepted.size
    (hsame.medium ▸ himage) (hample.of_same hsame) (hd.of_same hsame)) ?_ ?_
  · rintro _ d₄ ⟨hd₄, hample₄, hcleared⟩
    replace hcleared := hcleared rfl
    refine (reportPlannedStep_preparing installed _ _ _).bind hd₄ (fun steps d₅ h₅ => ?_)
      fun _ _ hsame => ⟨hd₄.of_same hsame, nofun⟩
    have hd₅ := hd₄.of_same h₅
    have hstores : Stores node.fd (writePartitionTable installed fuel _ device) _ d₅.medium :=
      writePartitionTable_stores haccepted.gate haccepted.layout haccepted.ends hdevice
        (hample₄.of_same h₅)
    refine Surely.bind (hstores.restores (writePartitionTable_writingIn haccepted.gate
      haccepted.layout hdevice) (fun i hi => ?_) hd₅) ?_ ?_
    · exact inTable_inEnds haccepted.layout haccepted.gate haccepted.ends hi
    · rintro _ d₆ ⟨hd₆, _, ⟨hwritten, _⟩, _⟩
      have hlaid : Laid node request before diskGuid partitionGuid d₆ :=
        haccepted.laid hd₆ (by rw [hwritten rfl, h₅.medium, hcleared])
      exact (device.flush_preparing installed).bind hd₆
        (fun _ d₇ h₇ => ⟨hd₆.of_same h₇, fun _ _ => hlaid.of_same h₇⟩)
        fun _ _ hsame => ⟨hd₆.of_same hsame, nofun⟩
    · exact fun _ _ h => ⟨h.1, nofun⟩
  · exact fun _ _ h => ⟨h.1, nofun⟩

/-! ## While the drive is open -/

/-- A check of the open drive that succeeds has compared it with the disk. -/
theorem verifyIdentity_restores {path : QString} (hopened : d.opened = true)
    (hknown : disk.size ≠ 0) (hd : Waiting node before d) :
    Restores node request before
      ((⟨path, some node.fd⟩ : BlockDevice).verifyIdentity installed disk)
      (fun r d' => SameDrive node d d' ∧ (r = .ok () → IsDrive node disk)) d := by
  have hchecked : Restores node request before
      ((⟨path, some node.fd⟩ : BlockDevice).verifyIdentity installed disk) _ d :=
    (BlockDevice.verifyIdentity_preparing installed _ disk).restores hd
  refine hchecked.traced.mono ?_
  rintro r d' ⟨hsame, t, hrun, hpath⟩
  refine ⟨hsame, ?_⟩
  rintro rfl
  have hsaw := verifyIdentity_run hrun
  obtain ⟨size, _, hsize, hsized⟩ := hsaw.size
  obtain ⟨_, hsectored⟩ := hsaw.sectorSize
  have hopen := hpath.invariant (J := fun d => d.opened = true)
    (fun _ _ _ _ hJ hstep => (UsbDrive.step_grows hstep).opened hJ) hopened
  constructor
  · obtain ⟨_, _, hJ, hstep⟩ := hopen _ (mem_sysCalls.mp hsized)
    rw [← hsize hknown]
    exact UsbDrive.step_geometry hJ hstep
  · obtain ⟨_, _, hJ, hstep⟩ := hopen _ (mem_sysCalls.mp hsectored)
    exact UsbDrive.step_sectorSize hJ hstep

/-- Where a restore is once it gives up, and once it has gone through. -/
def Settled (node : UsbDriveNode) (request : RestoreRequest) (before : Bytes) (d : UsbDrive) : Prop :=
  Waiting node before d ∨ ∃ diskGuid partitionGuid, Laid node request before diskGuid partitionGuid d

/-- A value is only returned with the table on the drive. -/
def Delivered (node : UsbDriveNode) (request : RestoreRequest) (before : Bytes)
    (r : Except RestoreMessage α) (d : UsbDrive) : Prop :=
  Settled node request before d ∧ ∀ a, r = .ok a →
    ∃ diskGuid partitionGuid, Laid node request before diskGuid partitionGuid d

omit [Host] in
theorem delivered_error {e : RestoreMessage} (hd : Waiting node before d) :
    Delivered node request before (.error e : Except RestoreMessage α) d :=
  ⟨.inl hd, nofun⟩

/-- With the drive open, the restore prepares it before a formatter is started. -/
theorem restoreExclusively_restores {formatTool : QString} {steps : RestoreStepCounter}
    (hminimum : MinimumRestoreTargetBytes ≤ disk.size) (hopened : d.opened = true)
    (hbefore : before.size = node.size.toNat) (himage : d.medium.image = before)
    (hample : Ample node fuel d) (hd : Waiting node before d) :
    Restores node request before
      (restoreExclusively installed fuel request formatTool disk node.fd steps)
      (Delivered node request before) d := by
  have hknown : disk.size ≠ 0 := by
    intro hzero
    rw [hzero] at hminimum
    exact absurd hminimum (by decide)
  unfold restoreExclusively
  dsimp only
  refine Surely.bind (verifyIdentity_restores hopened hknown hd) ?_
    fun _ _ h => delivered_error (hd.of_same h.1)
  rintro _ d₁ ⟨h₁, hdrive⟩
  replace hdrive := hdrive rfl
  have hd₁ := hd.of_same h₁
  refine cancelCheckpoint_preparing.bind hd₁ (fun _ d₂ h₂ => ?_)
    fun _ _ hsame => delivered_error (hd₁.of_same hsame)
  have hd₂ := hd₁.of_same h₂
  refine randomGuid_preparing.bind hd₂ (fun diskGuid d₃ h₃ => ?_)
    fun _ _ hsame => delivered_error (hd₂.of_same hsame)
  have hd₃ := hd₂.of_same h₃
  refine randomGuid_preparing.bind hd₃ (fun partitionGuid d₄ h₄ => ?_)
    fun _ _ hsame => delivered_error (hd₃.of_same hsame)
  have hd₄ := hd₃.of_same h₄
  rw [hdrive.tableRequest]
  cases hcheck : checkRestoreError installed (isWritablePartitionRequest
      (node.tableRequest request diskGuid partitionGuid)) with
  | error message => exact delivered_error hd₄
  | ok _ =>
    have hgate := isWritablePartitionRequest_ok_iff.mp (checkRestoreError_ok_iff.mp hcheck)
    have hlarge : MinimumRestoreTargetBytes ≤ node.size := hdrive.size ▸ hminimum
    have haccepted : Accepted before (node.tableRequest request diskGuid partitionGuid) :=
      ⟨rfl, hgate, endsFit hgate.layout.supported hlarge, hbefore⟩
    have hconfigured : Restores node request before
        (LoopDevice.configure installed {} node.fd node.layout.startOffset node.layout.length
          disk.sectorSize) _ d₄ :=
      UsbDrive.configure_maps installed |>.also
        ((LoopDevice.configure_preparing installed {} node.fd disk.sectorSize).restores hd₄).safely
    refine Surely.bind (p := LoopDevice.configure installed {} node.fd node.layout.startOffset
      node.layout.length disk.sectorSize) hconfigured ?_
      fun _ _ h => delivered_error (hd₄.of_same h.2)
    rintro formatter d₅ ⟨hmaps, h₅⟩
    replace hmaps := hmaps formatter rfl
    have hsame := ((h₁.trans h₂).trans h₃).trans (h₄.trans h₅)
    have hwritten : Restores node request before (eraseAndWrite installed fuel request disk
        (node.tableRequest request diskGuid partitionGuid) (heldDevice disk node.fd) steps) _ d₅ :=
      (eraseAndWrite_restores rfl hdrive haccepted (hsame.medium ▸ himage) (hample.of_same hsame)
        (hd.of_same hsame) steps).keeps (J := fun d => d.Maps formatter.path)
        (fun _ _ _ _ h hstep => UsbDrive.step_maps h hstep) hmaps
    refine Surely.bind hwritten.attempt ?_ (fun _ _ h => by
      obtain ⟨_, h, _⟩ := h
      cases h)
    rintro outcome d₆ ⟨_, houtcome, ⟨hd₆, hlaid⟩, hmaps⟩
    obtain rfl := Except.ok.inj houtcome
    cases outcome with
    | error message =>
      exact (LoopDevice.detach_preparing installed formatter).bind hd₆
        (fun _ _ hsame => delivered_error (hd₆.of_same hsame))
        fun _ _ hsame => delivered_error (hd₆.of_same hsame)
    | ok steps =>
      refine ((hlaid steps rfl).restores hmaps
        (formatAndReread_formatting installed _ _ _ _ _ _)).mono ?_
      exact fun _ _ h => ⟨.inr ⟨_, _, h⟩, fun _ _ => ⟨_, _, h⟩⟩

/-- The descriptor that is handed on is the drive's. -/
theorem openExclusively_restores {remaining attempt : Nat} {openError : RestoreMessage}
    (hd : Waiting node before d) : Restores node request before
      (openExclusively installed disk remaining attempt openError) (fun r d' =>
        SameDrive node d d' ∧ ∀ fd, r = .ok fd → fd = node.fd ∧ d'.opened = true) d := by
  induction remaining generalizing attempt openError d with
  | zero => exact ⟨.refl d, fun _ h => by cases h⟩
  | succ remaining ih =>
    unfold openExclusively
    refine (unmountAgain_preparing installed disk attempt).bind hd (fun _ d₁ h₁ => ?_)
      fun _ _ hsame => ⟨hsame, fun _ h => by cases h⟩
    have hd₁ := hd.of_same h₁
    have hopens : Restores node request before
        (BlockDevice.open installed { devicePath := disk.deviceId } .exclusive) (fun r d' =>
          SameDrive node d₁ d' ∧ ∀ fd device, r = .ok (.ok fd, device) →
            fd = node.fd ∧ d'.opened = true) d₁ := by
      intro answer d' hstep
      have hprepares : LinuxOp.Prepares node.layout.startOffset node.layout.length
          (.sys (.openNode disk.deviceId BlockDevice.Access.exclusive.flags)) := trivial
      have hsame := UsbDrive.step_prepares hprepares hd₁.formatting hstep
      refine ⟨.of_prepares (hd₁.of_same hsame).confined hprepares, ?_⟩
      cases answer with
      | ok fd =>
        refine ⟨hsame, fun fd' device h => ?_⟩
        cases h
        exact UsbDrive.step_open hstep
      | error errorNumber =>
        change Surely _ _ _ (if (errorNumber == Errno.EBUSY) = true then _ else _) d'
        by_cases hbusy : (errorNumber == Errno.EBUSY) = true
        · rw [if_pos hbusy]
          exact ⟨hsame, fun _ _ h => by cases h⟩
        · rw [if_neg hbusy]
          exact ⟨hsame, fun _ _ h => by cases h⟩
    refine Surely.bind hopens ?_ fun _ _ h => ⟨h₁.trans h.1, fun _ hr => by cases hr⟩
    rintro ⟨opened, device⟩ d₂ ⟨h₂, hfd⟩
    cases opened with
    | ok fd => exact ⟨h₁.trans h₂, fun fd' h => Except.ok.inj h ▸ hfd fd device rfl⟩
    | error openError =>
      refine (ih (hd₁.of_same h₂)).mono ?_
      exact fun _ _ h => ⟨(h₁.trans h₂).trans h.1, h.2⟩

/-! ## The whole restore -/

/-- The disk that is found is large enough. -/
theorem identifyDisk_run {t : List (Event LinuxI)} {formatTool : QString}
    {steps : RestoreStepCounter} (h : Runs (identifyDisk installed request) t
      (some (.ok (disk, formatTool, steps)))) : MinimumRestoreTargetBytes ≤ disk.size := by
  unfold identifyDisk at h
  obtain ⟨_, _, _, rfl, _, h⟩ := Runs.bind_ok h
  obtain ⟨_, _, _, rfl, _, h⟩ := Runs.bind_ok h
  obtain ⟨_, _, _, rfl, _, h⟩ := Runs.bind_ok h
  obtain ⟨_, _, current, rfl, _, h⟩ := Runs.bind_ok h
  obtain ⟨_, _, _, rfl, _, h⟩ := Runs.bind_ok h
  obtain ⟨_, _, _, rfl, hsafe, h⟩ := Runs.bind_ok h
  obtain ⟨_, _, _, rfl, _, h⟩ := Runs.bind_ok h
  obtain ⟨_, _, _, rfl, _, h⟩ := Runs.bind_ok h
  obtain ⟨_, _, _, rfl, _, h⟩ := Runs.bind_ok h
  obtain ⟨_, _, _, rfl, _, h⟩ := Runs.bind_ok h
  obtain ⟨_, hdisk⟩ := Runs.ret_ok h
  obtain ⟨rfl, _⟩ := Prod.mk.inj hdisk
  obtain ⟨_, hsafe⟩ := Runs.ofExcept_ok hsafe
  rw [checkRestoreError_ok_iff] at hsafe
  exact (isSafeRestoreTarget_ok_iff.mp hsafe).size

omit [Host] in
/-- The destructor that closes the drive. -/
theorem close_restores {fd : Fd} {r : Except RestoreMessage α}
    (hd : Delivered node request before r d) : Restores node request before (Sys.close fd)
      (fun c d' => c = .ok () ∧ Delivered node request before r d') d := by
  intro answer d' hstep
  obtain ⟨hsettled, hvalue⟩ := hd
  rcases hsettled with hwaiting | ⟨diskGuid, partitionGuid, hlaid⟩
  · have hprepares : LinuxOp.Prepares node.layout.startOffset node.layout.length
        (.sys (.close fd)) := trivial
    have hsame := UsbDrive.step_prepares hprepares hwaiting.formatting hstep
    refine ⟨.of_prepares (hwaiting.of_same hsame).confined hprepares, rfl,
      .inl (hwaiting.of_same hsame), ?_⟩
    intro a ha
    obtain ⟨diskGuid, partitionGuid, hlaid⟩ := hvalue a ha
    exact ⟨diskGuid, partitionGuid, hlaid.of_same hsame⟩
  · obtain ⟨hguarded, hlaid'⟩ := hlaid.step_prepares (o := .sys (.close fd)) trivial hstep
    exact ⟨hguarded, rfl, .inr ⟨_, _, hlaid'⟩, fun _ _ => ⟨_, _, hlaid'⟩⟩

omit [Host] in
theorem waitForNode_prepares (partitionPath : QString) (fuel : LoopFuel) (lastWaitNote : Nat)
    (start length : UInt64) : (waitForNode partitionPath fuel lastWaitNote).Satisfies
      (LinuxOp.Prepares start length) fun _ => True := by
  induction fuel generalizing lastWaitNote with
  | zero => trivial
  | succ fuel ih =>
    refine .call trivial fun present => ?_
    split
    · trivial
    · refine .call trivial fun waited => ?_
      split
      · trivial
      · refine .call trivial fun _ => .call trivial fun noted => ?_
        split
        · exact .call trivial fun _ => .call trivial fun _ => ih _
        · exact ih _

/-- A part of the restore on the drive that may wait. -/
abbrev RestoresSafely (node : UsbDriveNode) (request : RestoreRequest) (before : Bytes)
    (p : Prog LinuxI RestoreMessage α) (Q : Except RestoreMessage α → UsbDrive → Prop)
    (d : UsbDrive) : Prop :=
  p.Safely (UsbDrive.step node) (fun d o _ d' => Guarded node request before d o d') Q d

/-- A value is only returned with the table on the drive. -/
def LaidOnOk (node : UsbDriveNode) (request : RestoreRequest) (before : Bytes)
    (r : Except RestoreMessage α) (d : UsbDrive) : Prop :=
  ∀ a, r = .ok a → ∃ diskGuid partitionGuid, Laid node request before diskGuid partitionGuid d

omit [Host] in
/-- What comes after the formatting. -/
theorem Laid.seq {p : Prog LinuxI RestoreMessage α} {f : α → Prog LinuxI RestoreMessage β}
    {diskGuid partitionGuid : QByteArray}
    (h : Laid node request before diskGuid partitionGuid d) {R : Except RestoreMessage α → Prop}
    (hp : p.Satisfies (LinuxOp.Prepares node.layout.startOffset node.layout.length) R)
    (hf : ∀ a d', Laid node request before diskGuid partitionGuid d' →
      RestoresSafely node request before (f a) (LaidOnOk node request before) d') :
    RestoresSafely node request before (p >>= f) (LaidOnOk node request before) d :=
  Safely.bind (Safely.of_satisfies (J := Laid node request before diskGuid partitionGuid) hp
    (fun _ _ _ _ hJ ho hstep => hJ.step_prepares ho hstep) h) (fun a d' h => hf a d' h.2)
    fun _ _ _ => nofun

/-- Every step of a restore keeps to the ends and the partition, and every formatter starts on a
prepared disk. -/
theorem performLinuxRestore_safely (hbefore : d.medium.image.size = node.size.toNat)
    (hnone : d.formatting = []) (hunmapped : d.mapped = []) (hample : Ample node fuel d) :
    RestoresSafely node request d.medium.image (performLinuxRestore installed fuel request)
      (LaidOnOk node request d.medium.image) d := by
  have hd : Waiting node d.medium.image d := by
    refine ⟨⟨rfl, fun _ _ _ => rfl⟩, hnone, ?_⟩
    intro range hrange
    rw [hunmapped] at hrange
    exact absurd hrange List.not_mem_nil
  unfold performLinuxRestore
  refine Safely.bind ((identifyDisk_preparing installed request).restores hd).traced.safely ?_
    fun _ _ _ => nofun
  rintro ⟨disk, formatTool, steps⟩ d₁ ⟨h₁, t, hrun, _⟩
  have hminimum := identifyDisk_run hrun
  have hd₁ := hd.of_same h₁
  refine Safely.bind (cancelCheckpoint_preparing.restores hd₁).safely (fun _ d₂ h₂ => ?_)
    fun _ _ _ => nofun
  have hd₂ := hd₁.of_same h₂
  refine Safely.bind ((reportPlannedStep_preparing installed _ _ _).restores hd₂).safely
    (fun steps d₃ h₃ => ?_) fun _ _ _ => nofun
  have hd₃ := hd₂.of_same h₃
  refine Safely.bind ((unmountDisk_preparing installed disk).restores hd₃).safely
    (fun _ d₄ h₄ => ?_) fun _ _ _ => nofun
  have hd₄ := hd₃.of_same h₄
  refine Safely.bind ((reportPlannedStep_preparing installed _ _ _).restores hd₄).safely
    (fun steps d₅ h₅ => ?_) fun _ _ _ => nofun
  have hd₅ := hd₄.of_same h₅
  refine Safely.bind (openExclusively_restores hd₅).safely ?_ fun _ _ _ => nofun
  rintro fd d₆ ⟨h₆, hfd⟩
  obtain ⟨rfl, hopened⟩ := hfd fd rfl
  have hsame := (((h₁.trans h₂).trans h₃).trans (h₄.trans h₅)).trans h₆
  have hexclusive : Restores node request d.medium.image
      (restoreExclusively installed fuel request formatTool disk node.fd steps) _ d₆ :=
    restoreExclusively_restores hminimum hopened hbefore (hsame.medium ▸ rfl)
      (hample.of_same hsame) (hd.of_same hsame)
  refine Safely.bind (hexclusive.withCleanup fun r d' h => close_restores h).safely ?_
    fun _ _ _ => nofun
  rintro ⟨diskSequence, steps⟩ d₇ ⟨_, hvalue⟩
  obtain ⟨diskGuid, partitionGuid, hlaid⟩ := hvalue _ rfl
  refine hlaid.seq (reportPlannedStep_preparing installed _ _ _).satisfies
    fun steps d₈ hlaid => ?_
  refine hlaid.seq (waitForNode_prepares _ fuel 0 _ _) fun _ d₉ hlaid => ?_
  have hexists : (Sys.pathExists (devicePathFor (partitionNameFor (QString.fileName disk.deviceId) 1)) :
      Prog LinuxI RestoreMessage Bool).Satisfies (LinuxOp.Prepares node.layout.startOffset
        node.layout.length) fun _ => True := ⟨trivial, fun _ => trivial⟩
  refine hlaid.seq hexists fun present d₁₀ hlaid => ?_
  split
  · exact fun _ => nofun
  · exact hlaid.seq (verifyNewPartition_preparing installed _ _ _ _ _).satisfies
      fun _ d₁₁ hlaid _ _ => ⟨_, _, hlaid⟩

/-! ## Every run -/

/-- What every run of a restore on the drive owes, whether it goes through or not. -/
structure PreparesDrive (node : UsbDriveNode) (request : RestoreRequest)
    (p : Prog LinuxI RestoreMessage RestoreResult) (d : UsbDrive) : Prop where
  guarded : ∀ {d₁ o ans d₂}, Takes (UsbDrive.step node) p d d₁ o ans d₂ →
    Guarded node request d.medium.image d₁ o d₂
  prepared : ∀ {result d'}, Ends (UsbDrive.step node) p d (.ok result) d' →
    ∃ diskGuid partitionGuid,
      Prepared (node.tableRequest request diskGuid partitionGuid) d.medium.image d'.medium.image

/-- Whatever the drive answers, a restore never changes a byte outside the ends of the drive and the
new partition, formats no disk but a prepared one, and returns only with a prepared disk. -/
theorem performLinuxRestore_prepares (hbefore : d.medium.image.size = node.size.toNat)
    (hnone : d.formatting = []) (hunmapped : d.mapped = [])
    (hample : node.size.toNat + d.medium.interrupts < fuel) :
    PreparesDrive node request (performLinuxRestore installed fuel request) d := by
  have hsafely : RestoresSafely node request d.medium.image
      (performLinuxRestore installed fuel request) _ d :=
    performLinuxRestore_safely hbefore hnone hunmapped hample
  refine ⟨fun h => hsafely.takes h, fun h => ?_⟩
  obtain ⟨diskGuid, partitionGuid, hlaid⟩ := hsafely.ends h _ rfl
  exact ⟨diskGuid, partitionGuid, hlaid.prepared⟩

end

/-! ## A run on the small stick -/

namespace SmallStick

/-- The stick as a drive: it was full of something else. -/
def node : UsbDriveNode := { fd := 3, size := 8388608, sectorSize := 512 }

def usedDrive : UsbDrive := { medium := ⟨⟨8388608, fun _ => 0xEE⟩, 0, 0⟩ }

/-- Every call succeeds, and every write stores all of its data. -/
def driveAnswers (d : UsbDrive) : (o : LinuxOp) → o.Ans × UsbDrive
  | .sys (.pwrite target data offset) =>
    (.ok data.size,
      if target = 3 then
        { d with medium :=
          { d.medium with
            image := d.medium.image.write offset.toNat (data.left data.size)
            results := d.medium.results + 1 } }
      else d)
  | .sys (.openNode path flags) =>
    if flags = BlockDevice.Access.exclusive.flags then
      (.ok 3, { d with opened := true, nodes := (3, path) :: d.nodes })
    else
      (.ok (descriptorFor path flags), { d with nodes := (descriptorFor path flags, path) :: d.nodes })
  | .sys (.loopConfigure fd config) => (.ok (), d.map fd config)
  | .sys (.startProcess _ arguments) =>
    (true, { d with formatting := d.reach arguments.getLast? :: d.formatting })
  | .sys o => (answers o, d)
  | .reporter (.step _ _) => ((), d)
  | .reporter (.detail _) => ((), d)
  | .reporter .cancelRequested => (false, d)

theorem driveAnswers_step (d : UsbDrive) (o : LinuxOp) :
    UsbDrive.step node d o (driveAnswers d o).1 (driveAnswers d o).2 := by
  refine ⟨(driveAnswers d o).2, ?_, (driveAnswers d o).2.medium.image, rfl, rfl, fun _ _ => rfl⟩
  cases o with
  | reporter o => cases o <;> rfl
  | sys o =>
    cases o
    case pwrite target data offset =>
      by_cases htarget : target = 3
      · subst htarget
        exact ⟨_, ⟨Nat.le_refl _, rfl⟩, rfl⟩
      · refine ⟨d.medium, ?_, ?_⟩
        · exact (if_neg htarget).mpr rfl
        · exact if_neg htarget
    case openNode path flags =>
      by_cases hexclusive : flags = BlockDevice.Access.exclusive.flags
      · subst hexclusive
        exact ⟨rfl, rfl⟩
      · have hanswers : driveAnswers d (.sys (.openNode path flags)) =
            (.ok (descriptorFor path flags),
              { d with nodes := (descriptorFor path flags, path) :: d.nodes }) :=
          if_neg hexclusive
        rw [hanswers]
        change if flags = _ then _ else _
        rw [if_neg hexclusive]
    case blkGetSize64 target => exact ⟨fun _ _ _ h => (Except.ok.inj h).symm, rfl⟩
    case blkSszGet target => exact ⟨fun _ _ _ h => (Except.ok.inj h).symm, rfl⟩
    all_goals rfl

end SmallStick

open SmallStick in
/-- The stick is restored, and was prepared by it. -/
theorem performLinuxRestore_prepares_small : ∃ result d',
    Ends (UsbDrive.step node) (performLinuxRestore Catalog.english 8388609 request) usedDrive
      (.ok result) d' ∧ ∃ diskGuid partitionGuid,
      Prepared (node.tableRequest request diskGuid partitionGuid) usedDrive.medium.image
        d'.medium.image := by
  obtain ⟨result, d', hends, -⟩ := drive_ok (.of_total driveAnswers_step)
    (p := performLinuxRestore Catalog.english 8388609 request) (s := usedDrive)
    (g := fun _ _ => ()) (x := ()) (by decide +kernel) trivial
  exact ⟨result, d', hends, (performLinuxRestore_prepares rfl rfl rfl (by decide)).prepared hends⟩

end UsbRestore
