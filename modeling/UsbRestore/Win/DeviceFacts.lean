-- SUMMARY: Every failure of the raw disk says why, and zeroing keeps the disk it is given.
import UsbRestore.Linux.Footprint
import UsbRestore.Win.DeviceCalls

/-!
# Failures of the raw disk

A restore that is refused by the raw disk hands its message on. The message always has a text.
-/

namespace UsbRestore

open Prog

-- A literal is long for the elaborator, which compares it with its list of characters.
set_option maxRecDepth 10000

variable {ε α β : Type} {installed : Catalog}

/-! ## Texts -/

theorem space_mem_append {first rest : String} (h : (32 : QChar) ∈ QStringLiteral first) :
    (32 : QChar) ∈ QStringLiteral (first ++ rest) := by
  rw [QStringLiteral, String.toList_append, List.flatMap_append]
  exact List.mem_append_left _ h

/-- A message whose text has a space in it is not empty, whatever is put in. -/
theorem restoreText_append_arg_ne_nil {first rest : String} {args : List RestoreMessage}
    (h : (32 : QChar) ∈ QStringLiteral first) :
    ((restoreText installed (QStringLiteral (first ++ rest))).arg args).english ≠ [] :=
  arg_ne_nil_of_space (space_mem_append h) _

/-- A message that is not empty. -/
abbrev SaysWhy (r : Except ε RestoreMessage) : Prop :=
  ∃ message, r = .ok message ∧ message.english ≠ []

theorem windowsErrorMessage_returns (error : Dword) :
    (windowsErrorMessage error : Prog WinI ε QString).Satisfies (fun _ => True) Returns := by
  refine .call True.intro fun message => ?_
  dsimp only
  split
  · exact .returns _
  · exact .returns _

/-- The message of a failed device call is never empty, whatever the system says about the error. -/
theorem windowsDeviceErrorMessage_worded (context : RestoreMessage) (error : Dword) :
    (windowsDeviceErrorMessage installed context error : Prog WinI ε RestoreMessage).Satisfies
      (fun _ => True) SaysWhy := by
  unfold windowsDeviceErrorMessage
  split
  · exact ⟨_, rfl, restoreText_arg_ne_nil (by decide)⟩
  · refine .seq (windowsErrorMessage_returns error) fun message => ?_
    exact ⟨_, rfl, arg_ne_nil_of_space (space_mem_literal (by decide)) _⟩

theorem Prog.Satisfies.ofWin {p : Prog WinI ε α} {P : WinOp → Prop} {Q : Except ε α → Prop}
    (h : p.Satisfies P Q) : p.ofWin.Satisfies (fun _ => True) Q := by
  induction p with
  | ret a => exact h
  | fail e => exact h
  | spin => trivial
  | call o next ih => exact ⟨True.intro, fun ans => ih ans (h.2 ans)⟩

theorem Prog.Satisfies.ofRaw {p : Prog RawI ε α} {P : RawOp → Prop} {Q : Except ε α → Prop}
    (h : p.Satisfies P Q) : p.ofRaw.Satisfies (fun _ => True) Q := by
  induction p with
  | ret a => exact h
  | fail e => exact h
  | spin => trivial
  | call o next ih => exact ⟨True.intro, fun ans => ih ans (h.2 ans)⟩

namespace RawDisk

/-! ## Verdicts -/

/-- A method that says why it fails. -/
abbrev Explains (p : Prog DeviceI RestoreMessage α) : Prop := p.Satisfies (fun _ => True) Explained

/-- A part that always returns a verdict, which says why it is a failure. -/
abbrev Judges (p : Prog RawI ε (Except RestoreMessage α)) : Prop :=
  p.Satisfies (fun _ => True) fun r => ∃ verdict, r = .ok verdict ∧ Explained verdict

theorem Explains.seq {p : Prog DeviceI RestoreMessage α} {f : α → Prog DeviceI RestoreMessage β}
    (h : Explains p) (hf : ∀ a, Explains (f a)) : Explains (p >>= f) :=
  .bind h (fun a _ => hf a) (fun _ he => he)

theorem Explains.call {o : DeviceOp} {f : o.Ans → Prog DeviceI RestoreMessage β}
    (hf : ∀ ans, Explains (f ans)) : Explains (device o >>= f) :=
  Prog.Satisfies.call (I := DeviceI) True.intro hf

/-- A verdict, and what comes after it whatever it is. -/
theorem Explains.skip {p : Prog RawI RestoreMessage (Except RestoreMessage α)}
    {f : Except RestoreMessage α → Prog DeviceI RestoreMessage β} (h : Judges p)
    (hf : ∀ verdict, Explained verdict → Explains (f verdict)) : Explains (p.ofRaw >>= f) := by
  refine Prog.Satisfies.bind h.ofRaw ?_ ?_
  · rintro _ ⟨verdict, hok, hexplained⟩
    obtain rfl := Except.ok.inj hok
    exact hf _ hexplained
  · rintro _ ⟨_, herror, _⟩
    cases herror

theorem lastError_worded (disk : RawDisk) (operation : QString) (code : Dword) :
    (disk.lastError installed operation code : Prog RawI ε RestoreMessage).Satisfies
      (fun _ => True) SaysWhy :=
  (windowsDeviceErrorMessage_worded _ code).ofWin

/-- What comes after a text that was put together. -/
theorem explains_worded {p : Prog DeviceI RestoreMessage RestoreMessage}
    (h : p.Satisfies (fun _ => True) SaysWhy) :
    Explains (do let message ← p; .fail message : Prog DeviceI RestoreMessage α) := by
  refine Prog.Satisfies.bind h ?_ ?_
  · rintro _ ⟨message, hok, hworded⟩
    obtain rfl := Except.ok.inj hok
    exact hworded
  · rintro _ ⟨_, herror, _⟩
    cases herror

/-- A text that was put together is the verdict. -/
theorem judges_worded {p : Prog RawI ε RestoreMessage} (h : p.Satisfies (fun _ => True) SaysWhy) :
    Judges (do let message ← p; return .error message : Prog RawI ε (Except RestoreMessage α)) := by
  refine Prog.Satisfies.bind h ?_ ?_
  · rintro _ ⟨message, hok, hworded⟩
    obtain rfl := Except.ok.inj hok
    exact ⟨_, rfl, hworded⟩
  · rintro _ ⟨_, herror, _⟩
    cases herror

theorem failLast_explains (disk : RawDisk) (operation : QString) (code : Dword) :
    Explains (disk.failLast installed operation code : Prog DeviceI RestoreMessage α) :=
  explains_worded (lastError_worded disk operation code).ofRaw

theorem failDisk_explains (disk : RawDisk) {source : QString} (h : (32 : QChar) ∈ source) :
    Explains (disk.failDisk installed source : Prog DeviceI RestoreMessage α) :=
  arg_ne_nil_of_space h _

/-- A call that is demanded fails with an explanation or does not fail. -/
theorem demand_explains (disk : RawDisk) (operation : QString)
    {call : Prog DeviceI RestoreMessage (Except Dword α)}
    (h : call.Satisfies (fun _ => True) Returns) :
    Explains (disk.demand installed operation call) := by
  refine Prog.Satisfies.seq h fun answer => ?_
  cases answer with
  | ok answer => exact True.intro
  | error code => exact failLast_explains disk operation code

theorem device_returns (o : DeviceOp) :
    (device o : Prog DeviceI ε o.Ans).Satisfies (fun _ => True) Returns :=
  ⟨True.intro, fun ans => ⟨ans, rfl⟩⟩

theorem refreshLayout_judges (disk : RawDisk) :
    Judges (disk.refreshLayout installed : Prog RawI ε _) := by
  refine Prog.Satisfies.call (I := RawI) True.intro fun answer => ?_
  cases answer with
  | ok _ => exact ⟨_, rfl, True.intro⟩
  | error code => exact judges_worded (lastError_worded disk _ code)

theorem layoutHasPartitions_judges (disk : RawDisk) :
    Judges (disk.layoutHasPartitions installed : Prog RawI ε _) := by
  refine Prog.Satisfies.call (I := RawI) True.intro fun answer => ?_
  cases answer with
  | ok answer =>
    dsimp only
    split
    · exact ⟨_, rfl, restoreText_append_arg_ne_nil (space_mem_literal (by decide))⟩
    · exact ⟨_, rfl, True.intro⟩
  | error code => exact judges_worded (lastError_worded disk _ code)

/-! ## Methods -/

theorem open_explains (diskNumber : UInt32) : Explains (RawDisk.open installed diskNumber) := by
  refine .call fun answer => ?_
  cases answer with
  | ok handle => exact True.intro
  | error code => exact failLast_explains _ _ code

theorem readStorageDeviceDescriptor_returns (handle : Handle) :
    (readStorageDeviceDescriptor handle : Prog RawI ε _).Satisfies (fun _ => True) Returns := by
  refine Prog.Satisfies.call (I := RawI) True.intro fun answer => ?_
  cases answer with
  | error code => exact .returns _
  | ok header =>
    dsimp only
    split
    · exact .returns _
    · refine Prog.Satisfies.call (I := RawI) True.intro fun answer => ?_
      cases answer with
      | error code => exact .returns _
      | ok full =>
        dsimp only
        split
        · exact .returns _
        · exact .returns _

theorem verifyDeviceNumber_explains (disk : RawDisk) : Explains (disk.verifyDeviceNumber installed) := by
  refine .seq (demand_explains disk _ (device_returns _)) fun number => ?_
  split
  · exact failDisk_explains disk (space_mem_append (space_mem_literal (by decide)))
  · split
    · exact restoreText_append_arg_ne_nil (space_mem_literal (by decide))
    · exact True.intro

theorem verifyDescriptor_explains [SerialCharacters] (disk : RawDisk) (expected : DiskInfo) :
    Explains (disk.verifyDescriptor installed expected) := by
  refine .seq (demand_explains disk _ (readStorageDeviceDescriptor_returns _).ofRaw) fun buffer => ?_
  split
  · exact failDisk_explains disk (space_mem_literal (by decide))
  · split
    · exact failDisk_explains disk (space_mem_append (space_mem_literal (by decide)))
    · exact True.intro

theorem verifyGeometry_explains [Host] (disk : RawDisk) (expected : DiskInfo) :
    Explains (disk.verifyGeometry installed expected) := by
  refine .seq (demand_explains disk _ (device_returns _)) fun reportedSize => ?_
  split
  · exact restoreText_append_arg_ne_nil (space_mem_literal (by decide))
  · refine .call fun answer => ?_
    cases answer with
    | error code => exact True.intro
    | ok reportedSectorSize =>
      dsimp only
      split
      · exact restoreText_append_arg_ne_nil (space_mem_literal (by decide))
      · exact True.intro

/-- The three checks of the identity (number, descriptor and sizes) explain every refusal. -/
theorem verifyIdentity_explains [Host] [SerialCharacters] (disk : RawDisk) (expected : DiskInfo) :
    Explains (disk.verifyIdentity installed expected) := by
  refine .seq (verifyDeviceNumber_explains disk) fun _ => ?_
  refine .seq (verifyDescriptor_explains disk expected) fun _ => ?_
  refine .seq (verifyGeometry_explains disk expected) fun _ => ?_
  exact demand_explains disk _ (device_returns _)

theorem createGptDisk_explains (disk : RawDisk) : Explains (disk.createGptDisk installed) := by
  refine .call fun answer => ?_
  cases answer with
  | none => exact failDisk_explains disk (space_mem_literal (by decide))
  | some diskId =>
    exact .seq (demand_explains disk _ (device_returns _)) fun _ => True.intro

/-- However often the layout is read again, waiting for an empty one does not fail without an
explanation. -/
theorem awaitEmptyLayout_explains (disk : RawDisk) (readError : RestoreMessage) (attempts : Nat) :
    Explains (disk.awaitEmptyLayout installed readError attempts) := by
  induction attempts generalizing readError with
  | zero =>
    unfold awaitEmptyLayout
    split
    · exact failDisk_explains disk (space_mem_append (space_mem_literal (by decide)))
    · next hread => exact fun hnil => hread (by rw [hnil]; rfl)
  | succ attempts ih =>
    refine .skip (refreshLayout_judges disk) fun _ _ => ?_
    refine .skip (layoutHasPartitions_judges disk) fun verdict _ => ?_
    match verdict with
    | .ok false => exact True.intro
    | .ok true => exact .call fun _ => ih _
    | .error message => exact .call fun _ => ih _

/-- Neither writing the empty table nor waiting until it is seen fails without an explanation. -/
theorem replaceLayoutWithEmptyGpt_explains (disk : RawDisk) :
    Explains (disk.replaceLayoutWithEmptyGpt installed) :=
  .seq (createGptDisk_explains disk) fun _ => awaitEmptyLayout_explains disk _ 20

theorem setRaw_explains (disk : RawDisk) : Explains (disk.setRaw installed) := by
  refine .seq (demand_explains disk _ (device_returns _)) fun _ => ?_
  exact .skip (refreshLayout_judges disk) fun _ _ => True.intro

theorem refreshLayoutOrFail_explains (disk : RawDisk) :
    Explains (disk.refreshLayoutOrFail installed) :=
  .skip (refreshLayout_judges disk) fun _ hexplained => Prog.Satisfies.ofExcept hexplained

theorem createSingleGptPartition_explains (disk : RawDisk) (layout : GptLayout) :
    Explains (disk.createSingleGptPartition installed layout) := by
  refine .seq (createGptDisk_explains disk) fun diskId => ?_
  refine .seq (refreshLayoutOrFail_explains disk) fun _ => ?_
  refine .call fun answer => ?_
  cases answer with
  | none => exact failDisk_explains disk (space_mem_literal (by decide))
  | some partitionId =>
    refine .seq (demand_explains disk _ (device_returns _)) fun _ => ?_
    exact refreshLayoutOrFail_explains disk

theorem createSingleMbrPartition_explains (disk : RawDisk) (layout : GptLayout)
    (fileSystem : FileSystemType) (sectorSize : UInt32) :
    Explains (disk.createSingleMbrPartition installed layout fileSystem sectorSize) := by
  refine .call fun answer => ?_
  cases answer with
  | none => exact failDisk_explains disk (space_mem_literal (by decide))
  | some signatureSource =>
    refine .seq (demand_explains disk _ (device_returns _)) fun _ => ?_
    refine .seq (refreshLayoutOrFail_explains disk) fun _ => ?_
    refine .seq (demand_explains disk _ (device_returns _)) fun _ => ?_
    exact refreshLayoutOrFail_explains disk

theorem createSinglePartition_explains (disk : RawDisk) (style : PartitionStyle)
    (fileSystem : FileSystemType) (diskSize : UInt64) (sectorSize : UInt32) :
    Explains (disk.createSinglePartition installed style fileSystem diskSize sectorSize) := by
  unfold createSinglePartition
  dsimp only
  split
  · exact restoreText_append_arg_ne_nil (space_mem_literal (by decide))
  · split
    · exact createSingleMbrPartition_explains disk _ fileSystem sectorSize
    · exact createSingleGptPartition_explains disk _

/-! ## Zeroing -/

/-- A part that ends with a verdict on the disk it was given, opened as it was. -/
abbrev JudgesSame (disk : RawDisk) (p : Prog RawI ε (Except RestoreMessage Unit × RawDisk)) : Prop :=
  p.Satisfies (fun _ => True) fun r => ∃ verdict disk', r = .ok (verdict, disk') ∧
    Explained verdict ∧ disk'.handle = disk.handle

theorem judgesSame_worded {disk disk' : RawDisk} {p : Prog RawI ε RestoreMessage}
    (h : p.Satisfies (fun _ => True) SaysWhy) (hhandle : disk'.handle = disk.handle) :
    JudgesSame disk (do let message ← p; return (.error message, disk') : Prog RawI ε _) := by
  refine Prog.Satisfies.bind h ?_ ?_
  · rintro _ ⟨message, hok, hworded⟩
    obtain rfl := Except.ok.inj hok
    exact ⟨_, _, rfl, hworded, hhandle⟩
  · rintro _ ⟨_, herror, _⟩
    cases herror

theorem JudgesSame.congr {disk disk' : RawDisk}
    {p : Prog RawI ε (Except RestoreMessage Unit × RawDisk)} (h : JudgesSame disk' p)
    (hhandle : disk'.handle = disk.handle) : JudgesSame disk p := by
  refine h.mono (fun _ h => h) ?_
  rintro _ ⟨verdict, last, rfl, hexplained, hsame⟩
  exact ⟨verdict, last, rfl, hexplained, hsame.trans hhandle⟩

/-- Two parts that judge the same disk, one after the other. -/
theorem JudgesSame.seq {disk : RawDisk} {p : Prog RawI ε (Except RestoreMessage Unit × RawDisk)}
    {f : Except RestoreMessage Unit × RawDisk → Prog RawI ε (Except RestoreMessage Unit × RawDisk)}
    (h : JudgesSame disk p)
    (hf : ∀ verdict disk', Explained verdict → disk'.handle = disk.handle →
      JudgesSame disk (f (verdict, disk'))) : JudgesSame disk (p >>= f) := by
  refine Prog.Satisfies.bind h ?_ ?_
  · rintro _ ⟨verdict, disk', hok, hexplained, hhandle⟩
    obtain rfl := Except.ok.inj hok
    exact hf verdict disk' hexplained hhandle
  · rintro _ ⟨_, _, herror, _⟩
    cases herror

/-- The loop of the writes keeps the handle of the disk, and explains what went wrong. -/
theorem writeZerosFrom_judgesSame (disk : RawDisk) (offset bytes : UInt64) (buffer : QByteArray)
    (fuel : Nat) (remaining : UInt64) :
    JudgesSame disk (writeZerosFrom installed offset bytes buffer fuel disk remaining :
      Prog RawI ε _) := by
  induction fuel generalizing disk remaining with
  | zero => exact True.intro
  | succ fuel ih =>
    unfold writeZerosFrom
    split
    · exact ⟨_, _, rfl, True.intro, rfl⟩
    · refine Prog.Satisfies.call (I := RawI) True.intro fun answer => ?_
      cases answer with
      | error code =>
        dsimp only
        split
        · refine Prog.Satisfies.call (I := RawI) True.intro fun _ => ?_
          refine Prog.Satisfies.call (I := RawI) True.intro fun moved => ?_
          cases moved with
          | error code => exact judgesSame_worded (lastError_worded _ _ code) rfl
          | ok _ => exact (ih _ _).congr rfl
        · exact judgesSame_worded (windowsDeviceErrorMessage_worded _ code).ofWin rfl
      | ok written =>
        dsimp only
        split
        · refine ⟨_, _, rfl, ?_, rfl⟩
          exact restoreText_append_arg_ne_nil (space_mem_append (space_mem_literal (by decide)))
        · exact (ih _ _).congr rfl

theorem writeZeros_judgesSame (disk : RawDisk) (offset bytes : UInt64) (sectorSize : UInt32)
    (fuel : Nat) :
    JudgesSame disk (disk.writeZeros installed fuel offset bytes sectorSize : Prog RawI ε _) := by
  unfold writeZeros
  split
  · exact ⟨_, _, rfl, True.intro, rfl⟩
  · dsimp only
    split
    · exact ⟨_, _, rfl, restoreText_arg_ne_nil (by decide), rfl⟩
    · refine Prog.Satisfies.call (I := RawI) True.intro fun moved => ?_
      cases moved with
      | error code => exact judgesSame_worded (lastError_worded _ _ code) rfl
      | ok _ => exact writeZerosFrom_judgesSame disk _ _ _ fuel _

/-- Both ends of the disk are cleared through one handle. -/
theorem clearPartitionSignatures_judgesSame (disk : RawDisk) (diskSize : UInt64)
    (sectorSize : UInt32) (fuel : Nat) :
    JudgesSame disk (disk.clearPartitionSignatures installed fuel diskSize sectorSize :
      Prog RawI ε _) := by
  unfold clearPartitionSignatures
  dsimp only
  split
  · exact ⟨_, _, rfl, restoreText_arg_ne_nil (by decide), rfl⟩
  · refine .seq (writeZeros_judgesSame disk _ _ _ fuel) fun head disk' hhead hhandle => ?_
    cases head with
    | error message => exact ⟨_, _, rfl, hhead, hhandle⟩
    | ok _ =>
      refine .seq ((writeZeros_judgesSame disk' _ _ _ fuel).congr hhandle)
        fun tail disk'' htail hhandle => ?_
      cases tail with
      | error message => exact ⟨_, _, rfl, htail, hhandle⟩
      | ok _ =>
        refine Prog.Satisfies.call (I := RawI) True.intro fun _ => ?_
        refine Prog.Satisfies.bind (refreshLayout_judges disk'') ?_ ?_
        · exact fun _ _ => ⟨_, _, rfl, True.intro, hhandle⟩
        · rintro _ ⟨_, herror, _⟩
          cases herror

end RawDisk

end UsbRestore
