-- SUMMARY: A loop device is idle or bound after every sequence of its calls, and keeps its claim.
import UsbRestore.Base.Counting
import UsbRestore.Linux.LoopKernel

/-!
# The life of a loop device

Between two calls the object either holds nothing, or one descriptor on one node that is mapped over
what `configure` was given, with or without the exclusive claim. Inside `configure` the fields are
set attempt by attempt, so the object is followed through the loop here; that nothing of it is left
where no attempt succeeds is what makes the failure of `configure` harmless.
-/

namespace UsbRestore

open Prog

namespace LoopDevice

/-! ## The object in the retry loop -/

section Object

variable {ε : Type}

/-- The retry loop with the object that it changes. -/
def attemptConfigure (control : Fd) (config : LoopConfig) :
    (attempts : Nat) → (busy : Bool) → (errorNumber : Errno) → (formatter : LoopDevice) →
      Prog LinuxI ε (Except Errno Unit × LoopDevice)
  | 0, _, errorNumber, formatter => return (.error errorNumber, formatter)
  | attempts + 1, busy, _, formatter => do
    match ← loopNumber control busy with
    | .error code => return (.error code, formatter)
    | .ok number =>
      let formatter :=
        { formatter with path := (QStringLiteral "/dev/loop%1").arg [.number number] }
      match ← Sys.openNode formatter.path claimFlags with
      | .error code =>
        let formatter := { formatter with claimFd := none }
        if code = Errno.EBUSY then attemptConfigure control config attempts true code formatter
        else return (.error code, formatter)
      | .ok claim =>
        let formatter := { formatter with claimFd := some claim }
        match ← Sys.loopConfigure claim config with
        | .ok () =>
          match ← Sys.openNode formatter.path useFlags with
          | .ok fd => return (.ok (), { formatter with fd := some fd })
          | .error code =>
            let formatter := { formatter with fd := none }
            let _ ← Sys.loopClrFd claim
            Sys.close claim
            return (.error code, { formatter with claimFd := none })
        | .error code =>
          Sys.close claim
          let formatter := { formatter with claimFd := none }
          if code = Errno.EBUSY then attemptConfigure control config attempts true code formatter
          else return (.error code, formatter)

/-- What is configured: the range over the backing descriptor, cleared after the last close. -/
def configFor (backingDescriptor : Fd) (offset length : UInt64) (sectorSize : UInt32) :
    LoopConfig :=
  { fd := backingDescriptor, blockSize := sectorSize, offset, sizeLimit := length,
    autoclear := true }

/-- `configure` with the object that it changes. -/
def configureObject [Host] (installed : Catalog) (formatter : LoopDevice) (backingDescriptor : Fd)
    (offset length : UInt64) (sectorSize : UInt32) :
    Prog LinuxI ε (Except RestoreMessage Unit × LoopDevice) := do
  let text (source : String) := restoreText installed (QStringLiteral source)
  if formatter.fd.isSome || formatter.claimFd.isSome then
    return (.error (text "A formatting area is already set up for this drive. Unplug the drive, plug it back in and try again."),
      formatter)
  else match ← Sys.fstat backingDescriptor with
  | .error errorNumber =>
    return (.error (loopErrorMessage installed
      (text "Could not read the drive through the formatting area") errorNumber
      (text "Try the restore again")), formatter)
  | .ok status =>
    match ← backingSize backingDescriptor status with
    | none =>
      return (.error (text "The drive could not be read for formatting. Unplug it, plug it back in and try again."),
        formatter)
    | some size =>
      if !isValidDeviceRange size offset length sectorSize then
        return (.error (text "The space set aside for the new volume is outside the drive or is not aligned to its sectors. Refresh the list and select the drive again."),
          formatter)
      else
        match ← Sys.openNode LoopControl useFlags with
        | .error errorNumber =>
          return (.error (loopErrorMessage installed
            (text "Could not reach the Linux loop driver at /dev/loop-control, which formatting needs")
            errorNumber
            (text "Make sure the loop module is loaded (modprobe loop) and try again")), formatter)
        | .ok control =>
          let (configured, formatter) ← attemptConfigure control
            (configFor backingDescriptor offset length sectorSize) 8 false 0 formatter
          Sys.close control
          match configured with
          | .ok () => return (.ok (), formatter)
          | .error errorNumber =>
            return (.error (loopErrorMessage installed
              (text "Could not set up the temporary area used to format the drive") errorNumber
              (text "Close other disk tools that may be holding loop devices, such as GNOME Disks, and try again")),
              { formatter with path := [] })

/-- Where what follows a failed loop does not look at the path, the object that the loop changes is
the one that it returns. -/
theorem attemptConfigure_bind {β : Type} {control : Fd} {config : LoopConfig}
    {f : Except Errno Unit × LoopDevice → Prog LinuxI ε β}
    {g : Except Errno LoopDevice → Prog LinuxI ε β}
    (hok : ∀ formatter, f (.ok (), formatter) = g (.ok formatter))
    (herror : ∀ code formatter, f (.error code, formatter) = g (.error code))
    (attempts : Nat) (busy : Bool) (errorNumber : Errno) (formatter : LoopDevice) :
    attemptConfigure control config attempts busy errorNumber formatter >>= f =
      configureAttempts control config attempts busy errorNumber >>= g := by
  induction attempts generalizing busy errorNumber formatter with
  | zero => exact herror errorNumber formatter
  | succ attempts ih =>
    unfold attemptConfigure configureAttempts
    simp only [Prog.bind_assoc]
    refine bind_congr fun numbered => ?_
    cases numbered with
    | error code => exact herror code formatter
    | ok number =>
      simp only [Prog.bind_assoc]
      refine bind_congr fun claimed => ?_
      cases claimed with
      | error code =>
        dsimp only
        split_ifs
        · exact ih true code _
        · exact herror code _
      | ok claim =>
        simp only [Prog.bind_assoc]
        refine bind_congr fun configured => ?_
        cases configured with
        | ok _ =>
          simp only [Prog.bind_assoc]
          refine bind_congr fun opened => ?_
          cases opened with
          | ok fd => exact hok _
          | error code =>
            simp only [Prog.bind_assoc]
            exact bind_congr fun cleared => bind_congr fun closed => herror code _
        | error code =>
          simp only [Prog.bind_assoc]
          refine bind_congr fun closed => ?_
          split_ifs
          · exact ih true code _
          · exact herror code _

/-- The object is what `configure` returns, where it returns one. -/
theorem configure_eq [Host] (installed : Catalog) (formatter : LoopDevice) (backingDescriptor : Fd)
    (offset length : UInt64) (sectorSize : UInt32) :
    configure installed formatter backingDescriptor offset length sectorSize =
      configureObject installed formatter backingDescriptor offset length sectorSize >>=
        fun outcome => match outcome with
          | (.ok (), configured) => .ret configured
          | (.error message, _) => .fail message := by
  unfold configure configureObject
  dsimp only
  split_ifs
  · rfl
  · rw [Prog.bind_assoc]
    refine bind_congr fun status => ?_
    cases status with
    | error errorNumber => rfl
    | ok status =>
      dsimp only
      rw [Prog.bind_assoc]
      refine bind_congr fun size => ?_
      cases size with
      | none => rfl
      | some size =>
        dsimp only
        split_ifs
        · rfl
        · rw [Prog.bind_assoc]
          refine bind_congr fun control => ?_
          cases control with
          | error errorNumber => rfl
          | ok control =>
            dsimp only
            rw [Prog.bind_assoc]
            refine (attemptConfigure_bind (fun formatter => ?_) (fun code formatter => ?_) 8 false 0
              formatter).symm
            · rw [Prog.bind_assoc]
              exact bind_congr fun _ => rfl
            · rw [Prog.bind_assoc]
              exact bind_congr fun _ => rfl

end Object

/-! ## Idle and bound -/

section Specs

variable {ε : Type} {base : Fd → Option (QString × OpenFlags)} {k k' : LoopKernel}
  {config : LoopConfig} {formatter : LoopDevice}

/-- The object holds nothing, and a mapping that is still there is kept by someone else. -/
structure Idle (base : Fd → Option (QString × OpenFlags)) (formatter : LoopDevice)
    (k : LoopKernel) : Prop where
  object : formatter = {}
  opened : k.opened = base
  cleared : ∀ node config, k.mapped node = some config →
    config.autoclear = true ∧ (k.shared node = true ∨ ∃ fd flags, base fd = some (node, flags))

/-- The object has one node open that is mapped, and may have the exclusive claim on it. -/
inductive Bound (base : Fd → Option (QString × OpenFlags)) (config : LoopConfig) :
    LoopDevice → LoopKernel → Prop where
  | claimed {fd claim : Fd} {node : QString} {k : LoopKernel} (freeClaim : base claim = none)
    (free : base fd = none) (distinct : claim ≠ fd)
    (opened : k.opened = Function.update (Function.update base claim (some (node, claimFlags))) fd
      (some (node, useFlags)))
    (mapped : k.mapped node = some config) (tidy : k.Tidy) :
    Bound base config { fd := some fd, claimFd := some claim, path := node } k
  | prepared {fd : Fd} {node : QString} {k : LoopKernel} (free : base fd = none)
    (opened : k.opened = Function.update base fd (some (node, useFlags)))
    (mapped : k.mapped node = some config) (tidy : k.Tidy) :
    Bound base config { fd := some fd, path := node } k

/-- With nothing of its own open, a tidy kernel holds nothing for the object. -/
theorem idle_of_tidy (hopened : k.opened = base) (htidy : k.Tidy) : Idle base {} k := by
  refine ⟨rfl, hopened, fun node config hmapped => ?_⟩
  subst hopened
  exact htidy node config hmapped

theorem Idle.tidy (h : Idle base formatter k) : k.Tidy := by
  intro node config hmapped
  have hcleared := h.cleared node config hmapped
  rwa [← h.opened] at hcleared

/-- A call that changes nothing keeps the mapping. -/
theorem Bound.same (h : Bound base config formatter k) (hsame : k.Same k') :
    Bound base config formatter k' := by
  obtain ⟨hopened', hkeeps⟩ := hsame
  cases h with
  | @claimed fd _ node _ freeClaim free distinct opened mapped tidy =>
    rw [opened] at hopened'
    have hopen : k'.IsOpen node := ⟨fd, useFlags, by rw [hopened', Function.update_self]⟩
    refine .claimed freeClaim free distinct hopened' ?_ (tidy.keeps hkeeps)
    rw [hkeeps.of_isOpen hopen, mapped]
  | @prepared fd node _ free opened mapped tidy =>
    rw [opened] at hopened'
    have hopen : k'.IsOpen node := ⟨fd, useFlags, by rw [hopened', Function.update_self]⟩
    refine .prepared free hopened' ?_ (tidy.keeps hkeeps)
    rw [hkeeps.of_isOpen hopen, mapped]

theorem free_of_update {fd control : Fd} {opened : QString × OpenFlags}
    (h : Function.update base control (some opened) fd = none) : base fd = none ∧ fd ≠ control := by
  rw [Function.update_apply] at h
  split at h
  · cases h
  · next hne => exact ⟨h, hne⟩

/-- A descriptor that is none of the object's is closed. -/
theorem Bound.close_control {control : Fd} {opened : QString × OpenFlags}
    (h : Bound (Function.update base control (some opened)) config formatter k)
    (hfree : base control = none) (hstep : k.step (.sys (.close control)) () k') :
    Bound base config formatter k' := by
  obtain ⟨hopened', hkeeps⟩ := hstep
  cases h with
  | @claimed fd claim node _ freeClaim free distinct opened mapped tidy =>
    obtain ⟨hfreeClaim, hclaim⟩ := free_of_update freeClaim
    obtain ⟨hfreeFd, hfd⟩ := free_of_update free
    rw [opened, Function.update_comm hfd, Function.update_comm hclaim, update_close hfree]
      at hopened'
    refine .claimed hfreeClaim hfreeFd distinct hopened' ?_ (tidy.keeps hkeeps)
    rw [hkeeps.of_isOpen ⟨fd, useFlags, by rw [hopened', Function.update_self]⟩, mapped]
  | @prepared fd node _ free opened mapped tidy =>
    obtain ⟨hfreeFd, hfd⟩ := free_of_update free
    rw [opened, Function.update_comm hfd, update_close hfree] at hopened'
    refine .prepared hfreeFd hopened' ?_ (tidy.keeps hkeeps)
    rw [hkeeps.of_isOpen ⟨fd, useFlags, by rw [hopened', Function.update_self]⟩, mapped]

/-- Asking for a number changes nothing that is mapped. -/
theorem loopNumber_ensures (control : Fd) (busy : Bool) :
    (loopNumber control busy : Prog LinuxI ε _).Ensures LoopKernel.step (fun _ k' => k.Same k')
      k := by
  unfold loopNumber
  split_ifs
  · exact Ensures.op fun ans k' hstep => by cases ans <;> exact hstep
  · exact Ensures.op fun ans k' hstep => by cases ans <;> exact hstep

/-- Every exit of the loop: the object is bound, or it holds nothing. -/
theorem attemptConfigure_ensures (control : Fd) (hauto : config.autoclear = true)
    (attempts : Nat) (busy : Bool) (errorNumber : Errno) (formatter : LoopDevice)
    (hfd : formatter.fd = none) (hclaim : formatter.claimFd = none) (hopened : k.opened = base)
    (htidy : k.Tidy) :
    (attemptConfigure control config attempts busy errorNumber formatter :
      Prog LinuxI ε _).Ensures LoopKernel.step (fun out k' =>
        (out.1 = .ok () → out.2.claimFd.isSome ∧ Bound base config out.2 k') ∧
          (out.1 ≠ .ok () → (out.2.fd = none ∧ out.2.claimFd = none) ∧ k'.opened = base ∧ k'.Tidy))
      k := by
  induction attempts generalizing busy errorNumber formatter k with
  | zero => exact ⟨nofun, fun _ => ⟨⟨hfd, hclaim⟩, hopened, htidy⟩⟩
  | succ attempts ih =>
    unfold attemptConfigure
    refine .seq (loopNumber_ensures control busy) fun numbered k₁ hsame => ?_
    have htidy₁ := htidy.keeps hsame.2
    have hopened₁ : k₁.opened = base := hsame.1.trans hopened
    cases numbered with
    | error code => exact ⟨nofun, fun _ => ⟨⟨hfd, hclaim⟩, hopened₁, htidy₁⟩⟩
    | ok number =>
      refine .call fun claimed k₂ hstep => ?_
      cases claimed with
      | error code =>
        have htidy₂ := htidy₁.keeps hstep.2
        have hopened₂ : k₂.opened = base := hstep.1.trans hopened₁
        dsimp only
        split_ifs
        · exact ih true code _ hfd rfl hopened₂ htidy₂
        · exact ⟨nofun, fun _ => ⟨⟨hfd, rfl⟩, hopened₂, htidy₂⟩⟩
      | ok claim =>
        obtain ⟨hfree, hopened₂, hkeeps₂⟩ := hstep
        rw [hopened₁] at hfree hopened₂
        have htidy₂ := htidy₁.keeps hkeeps₂
        refine .call fun configured k₃ hstep => ?_
        cases configured with
        | error code =>
          refine .call fun _ k₄ hclose => ?_
          have htidy₄ := (htidy₂.keeps hstep.2).keeps hclose.2
          have hopened₄ : k₄.opened = base := by
            rw [hclose.1, hstep.1, hopened₂, update_close hfree]
          dsimp only
          split_ifs
          · exact ih true code _ hfd rfl hopened₄ htidy₄
          · exact ⟨nofun, fun _ => ⟨⟨hfd, rfl⟩, hopened₄, htidy₄⟩⟩
        | ok _ =>
          have hheld := (congrFun hopened₂ claim).trans (Function.update_self _ _ _)
          obtain ⟨hopened₃, htidy₃, hmapped₃⟩ := htidy₂.loopConfigure hauto hheld hstep
          rw [hopened₂] at hopened₃
          refine .call fun opened k₄ hstep => ?_
          cases opened with
          | error code =>
            refine .call fun cleared k₅ hclear => ?_
            obtain ⟨hopened₅, htidy₅⟩ := (htidy₃.keeps hstep.2).loopClrFd hclear
            refine .call fun _ k₆ hclose => ?_
            have hopened₆ : k₆.opened = base := by
              rw [hclose.1, hopened₅, hstep.1, hopened₃, update_close hfree]
            exact ⟨nofun, fun _ => ⟨⟨rfl, rfl⟩, hopened₆, htidy₅.keeps hclose.2⟩⟩
          | ok fd =>
            obtain ⟨hfreeFd, hopened₄, hkeeps₄⟩ := hstep
            rw [hopened₃] at hfreeFd hopened₄
            have hdistinct : claim ≠ fd := by
              rintro rfl
              rw [Function.update_self] at hfreeFd
              cases hfreeFd
            rw [Function.update_of_ne hdistinct.symm] at hfreeFd
            refine ⟨fun _ => ⟨rfl, ?_⟩, fun h => absurd rfl h⟩
            refine .claimed hfree hfreeFd hdistinct hopened₄ ?_ (htidy₃.keeps hkeeps₄)
            rw [hkeeps₄.of_isOpen ⟨fd, useFlags, by rw [hopened₄, Function.update_self]⟩, hmapped₃]

theorem backingSize_ensures (backingDescriptor : Fd) (status : FileStatus)
    (hopened : k.opened = base) (htidy : k.Tidy) :
    (backingSize backingDescriptor status : Prog LinuxI ε _).Ensures LoopKernel.step
      (fun _ k' => k'.opened = base ∧ k'.Tidy) k := by
  unfold backingSize
  split
  · exact ⟨hopened, htidy⟩
  · refine .call fun size k' hstep => ?_
    cases size with
    | ok size => exact ⟨hstep.1.trans hopened, htidy.keeps hstep.2⟩
    | error errorNumber => exact ⟨hstep.1.trans hopened, htidy.keeps hstep.2⟩
  · exact ⟨hopened, htidy⟩

variable [Host] (installed : Catalog)

/-- An idle object is bound over what it was given, with the claim, or idle again. -/
theorem configureObject_ensures (h : Idle base formatter k) (backingDescriptor : Fd)
    (offset length : UInt64) (sectorSize : UInt32) :
    (configureObject installed formatter backingDescriptor offset length sectorSize :
      Prog LinuxI ε _).Ensures LoopKernel.step (fun out k' =>
        (out.1 = .ok () → out.2.claimFd.isSome ∧
          Bound base (configFor backingDescriptor offset length sectorSize) out.2 k') ∧
        (out.1 ≠ .ok () → Idle base out.2 k')) k := by
  have htidy := h.tidy
  have hopened := h.opened
  obtain rfl := h.object
  unfold configureObject
  refine .call fun status k₁ hstep => ?_
  have hquiet : k₁.opened = base ∧ k₁.Tidy := by
    cases status with
    | ok status => exact ⟨hstep.1.trans hopened, htidy.keeps hstep.2⟩
    | error errorNumber => exact ⟨hstep.1.trans hopened, htidy.keeps hstep.2⟩
  cases status with
  | error errorNumber => exact ⟨nofun, fun _ => idle_of_tidy hquiet.1 hquiet.2⟩
  | ok status =>
    refine .seq (backingSize_ensures backingDescriptor status hquiet.1 hquiet.2) ?_
    rintro size k₂ ⟨hopened₂, htidy₂⟩
    cases size with
    | none => exact ⟨nofun, fun _ => idle_of_tidy hopened₂ htidy₂⟩
    | some size =>
      dsimp only
      split_ifs
      · exact ⟨nofun, fun _ => idle_of_tidy hopened₂ htidy₂⟩
      · refine .call fun control k₃ hstep => ?_
        cases control with
        | error errorNumber =>
          exact ⟨nofun, fun _ => idle_of_tidy (hstep.1.trans hopened₂) (htidy₂.keeps hstep.2)⟩
        | ok control =>
          obtain ⟨hfree, hopened₃, hkeeps₃⟩ := hstep
          rw [hopened₂] at hfree hopened₃
          refine .seq (attemptConfigure_ensures control rfl 8 false 0 {} rfl rfl hopened₃
            (htidy₂.keeps hkeeps₃)) fun out k₄ hout => ?_
          obtain ⟨configured, formatter⟩ := out
          refine .call fun _ k₅ hclose => ?_
          cases configured with
          | ok _ =>
            obtain ⟨hclaim, hbound⟩ := hout.1 rfl
            exact ⟨fun _ => ⟨hclaim, hbound.close_control hfree hclose⟩, fun h => absurd rfl h⟩
          | error errorNumber =>
            obtain ⟨⟨hfd, hclaim⟩, hopened₄, htidy₄⟩ := hout.2 nofun
            refine ⟨nofun, fun _ => ?_⟩
            obtain ⟨fd, claimFd, path⟩ := formatter
            obtain rfl : fd = none := hfd
            obtain rfl : claimFd = none := hclaim
            refine idle_of_tidy ?_ (htidy₄.keeps hclose.2)
            rw [hclose.1, hopened₄, update_close hfree]

/-- An object that holds a mapping refuses before its first call. -/
theorem configureObject_held {fd : Fd} (hfd : formatter.fd = some fd) (backingDescriptor : Fd)
    (offset length : UInt64) (sectorSize : UInt32) :
    ∃ message, (configureObject installed formatter backingDescriptor offset length sectorSize :
      Prog LinuxI ε _) = .ret (.error message, formatter) := by
  obtain ⟨held, claimFd, path⟩ := formatter
  obtain rfl : held = some fd := hfd
  exact ⟨_, rfl⟩

omit [Host] in
theorem Bound.held (h : Bound base config formatter k) : ∃ fd, formatter.fd = some fd := by
  cases h with
  | claimed => exact ⟨_, rfl⟩
  | prepared => exact ⟨_, rfl⟩

/-- The claim goes with a success, and the mapping stays. -/
theorem prepareForFormatting_ensures (h : Bound base config formatter k) :
    (prepareForFormatting installed formatter).Ensures LoopKernel.step
      (fun out k' => Bound base config out.2 k' ∧ (out.1 ≠ .ok () → out.2 = formatter)) k := by
  cases h with
  | @claimed fd claim node _ freeClaim free distinct opened mapped tidy =>
    refine .call fun flushed k₁ hstep => ?_
    cases flushed with
    | error errorNumber =>
      have hbound := Bound.claimed freeClaim free distinct opened mapped tidy
      exact ⟨hbound.same hstep, fun _ => rfl⟩
    | ok _ =>
      obtain ⟨hopened₁, hkeeps₁⟩ := hstep
      refine .call fun _ k₂ hclose => ?_
      obtain ⟨hopened₂, hkeeps₂⟩ := hclose
      rw [hopened₁, opened, update_close_earlier freeClaim distinct] at hopened₂
      rw [opened] at hopened₁
      refine ⟨.prepared free hopened₂ ?_ ((tidy.keeps hkeeps₁).keeps hkeeps₂), fun h => absurd rfl h⟩
      rw [hkeeps₂.of_isOpen ⟨fd, useFlags, by rw [hopened₂, Function.update_self]⟩,
        hkeeps₁.of_isOpen ⟨fd, useFlags, by rw [hopened₁, Function.update_self]⟩, mapped]
  | prepared free opened mapped tidy =>
    have hbound := Bound.prepared free opened mapped tidy
    refine .call fun flushed k₁ hstep => ?_
    cases flushed with
    | error errorNumber => exact ⟨hbound.same hstep, fun _ => rfl⟩
    | ok _ => exact ⟨hbound.same hstep, fun _ => rfl⟩

/-- Nothing is held any more, whatever the calls on the way answer. -/
theorem detach_ensures (h : Bound base config formatter k) :
    (detach installed formatter : Prog LinuxI ε _).Ensures LoopKernel.step
      (fun out k' => Idle base out.2 k') k := by
  cases h with
  | @claimed fd claim node _ freeClaim free distinct opened mapped tidy =>
    refine .call fun synced k₁ hsync => .call fun _ k₂ hclose => .call fun cleared k₃ hclear => ?_
    have hsame : k.Same k₁ := by cases synced <;> exact hsync
    obtain ⟨hopened₃, htidy₃⟩ := ((tidy.keeps hsame.2).keeps hclose.2).loopClrFd hclear
    refine .call fun _ k₄ hclose' => idle_of_tidy ?_ (htidy₃.keeps hclose'.2)
    rw [hclose'.1, hopened₃, hclose.1, hsame.1, opened, update_close_earlier freeClaim distinct,
      update_close free]
  | @prepared fd node _ free opened mapped tidy =>
    refine .call fun synced k₁ hsync => .call fun cleared k₂ hclear => ?_
    have hsame : k.Same k₁ := by cases synced <;> exact hsync
    obtain ⟨hopened₂, htidy₂⟩ := (tidy.keeps hsame.2).loopClrFd hclear
    refine .call fun _ k₃ hclose => idle_of_tidy ?_ (htidy₂.keeps hclose.2)
    rw [hclose.1, hopened₂, hsame.1, opened, update_close free]

/-- Detaching once more makes no call and succeeds. -/
theorem detach_idle (h : Idle base formatter k) :
    (detach installed formatter : Prog LinuxI ε _) = .ret (.ok (), {}) := by
  rw [h.object]
  rfl

/-- An object without a mapping refuses to be prepared. -/
theorem prepareForFormatting_idle (h : Idle base formatter k) :
    ∃ message, prepareForFormatting installed formatter = .ret (.error message, {}) := by
  rw [h.object]
  exact ⟨_, rfl⟩

end Specs

end LoopDevice

/-! ## Sequences of calls -/

inductive LoopCall where
  | configure (backingDescriptor : Fd) (offset length : UInt64) (sectorSize : UInt32)
  | prepareForFormatting
  | detach
  /-- The destructor. -/
  | destroy

/-- The calls that give the mapping up. -/
def LoopCall.releases : LoopCall → Bool
  | .detach => true
  | .destroy => true
  | _ => false

namespace LoopDevice

variable [Host]

def perform (installed : Catalog) (formatter : LoopDevice) :
    LoopCall → Prog LinuxI RestoreMessage (Except RestoreMessage Unit × LoopDevice)
  | .configure backingDescriptor offset length sectorSize =>
    formatter.configureObject installed backingDescriptor offset length sectorSize
  | .prepareForFormatting => formatter.prepareForFormatting installed
  | .detach => formatter.detach installed
  -- `detach(nullptr)`: the same calls, and the verdict is dropped.
  | .destroy => formatter.detach installed

/-- What the object is bound over after a call, as the calls and their verdicts tell it. -/
def boundAfter : LoopCall → Except RestoreMessage Unit → Option LoopConfig → Option LoopConfig
  | .configure backingDescriptor offset length sectorSize, .ok (), _ =>
    some (configFor backingDescriptor offset length sectorSize)
  | .detach, _, _ => none
  | .destroy, _, _ => none
  | _, _, current => current

/-- The states of the object and the kernel after any sequence of calls, however they are answered,
with what the last successful `configure` was given. -/
inductive Reaches (installed : Catalog) (k₀ : LoopKernel) :
    LoopDevice → Option LoopConfig → LoopKernel → Prop where
  | start : Reaches installed k₀ {} none k₀
  | call {formatter formatter' : LoopDevice} {current : Option LoopConfig} {k k' : LoopKernel}
    {verdict : Except RestoreMessage Unit} (before : Reaches installed k₀ formatter current k)
    (call : LoopCall)
    (ends : Ends LoopKernel.step (formatter.perform installed call) k (.ok (verdict, formatter'))
      k') : Reaches installed k₀ formatter' (boundAfter call verdict current) k'

/-- The object that was configured is bound, and every other one idle. -/
def IdleOrBound (base : Fd → Option (QString × OpenFlags)) (formatter : LoopDevice) :
    Option LoopConfig → LoopKernel → Prop
  | none, k => Idle base formatter k
  | some config, k => Bound base config formatter k

variable {installed : Catalog} {base : Fd → Option (QString × OpenFlags)} {k k' : LoopKernel}
  {current : Option LoopConfig} {formatter formatter' : LoopDevice}
  {verdict : Except RestoreMessage Unit}

/-- One call. -/
theorem perform_idleOrBound (h : IdleOrBound base formatter current k) (call : LoopCall)
    (hends : Ends LoopKernel.step (formatter.perform installed call) k (.ok (verdict, formatter'))
      k') : IdleOrBound base formatter' (boundAfter call verdict current) k' := by
  cases current with
  | none =>
    have h : Idle base formatter k := h
    cases call with
    | configure backingDescriptor offset length sectorSize =>
      have hout := (configureObject_ensures installed h backingDescriptor offset length
        sectorSize).ends hends
      cases verdict with
      | ok _ => exact (hout.1 rfl).2
      | error message => exact hout.2 nofun
    | prepareForFormatting =>
      obtain ⟨message, hret⟩ := prepareForFormatting_idle installed h
      obtain ⟨hresult, rfl⟩ := hends.of_ret hret
      cases hresult
      exact h.object ▸ h
    | detach =>
      obtain ⟨hresult, rfl⟩ := hends.of_ret (detach_idle installed h)
      cases hresult
      exact h.object ▸ h
    | destroy =>
      obtain ⟨hresult, rfl⟩ := hends.of_ret (detach_idle installed h)
      cases hresult
      exact h.object ▸ h
  | some config =>
    have h : Bound base config formatter k := h
    cases call with
    | configure backingDescriptor offset length sectorSize =>
      obtain ⟨fd, hfd⟩ := h.held
      obtain ⟨message, hret⟩ := configureObject_held installed hfd backingDescriptor offset length
        sectorSize
      obtain ⟨hresult, rfl⟩ := hends.of_ret hret
      cases hresult
      exact h
    | prepareForFormatting => exact ((prepareForFormatting_ensures installed h).ends hends).1
    | detach => exact (detach_ensures installed h).ends hends
    | destroy => exact (detach_ensures installed h).ends hends

/-- Every sequence of calls. -/
theorem Reaches.idleOrBound {k₀ : LoopKernel} (h : Reaches installed k₀ formatter current k)
    (hstart : Idle k₀.opened {} k₀) : IdleOrBound k₀.opened formatter current k := by
  induction h with
  | start => exact hstart
  | call before call ends ih => exact perform_idleOrBound ih call ends

/-! ## Attempts -/

/-- A node is asked for. -/
def isAttempt : Event LinuxI → Bool
  | ⟨LinuxOp.sys (.loopCtlGetFree _), _⟩ => true
  | ⟨LinuxOp.sys (.loopCtlAdd _), _⟩ => true
  | _ => false

omit [Host] in
theorem attemptConfigure_atMost {ε : Type} (control : Fd) (config : LoopConfig) (attempts : Nat)
    (busy : Bool) (errorNumber : Errno) (formatter : LoopDevice) :
    (attemptConfigure control config attempts busy errorNumber formatter :
      Prog LinuxI ε _).AtMost isAttempt attempts := by
  induction attempts generalizing busy errorNumber formatter with
  | zero => trivial
  | succ attempts ih =>
    have hnumber : (loopNumber control busy : Prog LinuxI ε _).AtMost isAttempt 1 := by
      unfold loopNumber
      split_ifs
      · exact .call_succ (f := .ret) fun _ => trivial
      · exact .call_succ (f := .ret) fun _ => trivial
    unfold attemptConfigure
    rw [Nat.add_comm]
    refine hnumber.bind fun numbered => ?_
    cases numbered with
    | error code => trivial
    | ok number =>
      refine .call (fun _ => rfl) fun claimed => ?_
      cases claimed with
      | error code =>
        dsimp only
        split_ifs
        · exact ih true code _
        · trivial
      | ok claim =>
        refine .call (fun _ => rfl) fun configured => ?_
        cases configured with
        | ok _ =>
          refine .call (fun _ => rfl) fun opened => ?_
          cases opened with
          | ok fd => trivial
          | error code => exact .call (fun _ => rfl) fun _ => .call (fun _ => rfl) fun _ => trivial
        | error code =>
          refine .call (fun _ => rfl) fun _ => ?_
          dsimp only
          split_ifs
          · exact ih true code _
          · trivial

/-- One configuration makes at most eight attempts. -/
theorem configureObject_atMost {ε : Type} (installed : Catalog) (formatter : LoopDevice)
    (backingDescriptor : Fd) (offset length : UInt64) (sectorSize : UInt32) :
    (configureObject installed formatter backingDescriptor offset length sectorSize :
      Prog LinuxI ε _).AtMost isAttempt 8 := by
  have hsize : ∀ status, (backingSize backingDescriptor status : Prog LinuxI ε _).AtMost
      isAttempt 0 := by
    intro status
    unfold backingSize
    split
    · trivial
    · refine .call (fun _ => rfl) fun size => ?_
      cases size with
      | ok size => trivial
      | error errorNumber => trivial
    · trivial
  unfold configureObject
  split_ifs
  · trivial
  · refine .call (fun _ => rfl) fun status => ?_
    cases status with
    | error errorNumber => trivial
    | ok status =>
      refine ((hsize status).bind (m := 8) fun size => ?_).mono (Nat.le_of_eq (Nat.zero_add 8))
      cases size with
      | none => trivial
      | some size =>
        dsimp only
        split_ifs
        · trivial
        · refine .call (fun _ => rfl) fun control => ?_
          cases control with
          | error errorNumber => trivial
          | ok control =>
            refine (attemptConfigure_atMost control _ 8 false 0 formatter).bind (m := 0) ?_
            rintro ⟨configured, formatter⟩
            refine .call (fun _ => rfl) fun _ => ?_
            cases configured with
            | ok _ => trivial
            | error errorNumber => trivial

/-! ## The exclusive claim -/

/-- The calls one after another, on the object that the one before has left. -/
def performAll (installed : Catalog) : List LoopCall → LoopDevice →
    Prog LinuxI RestoreMessage LoopDevice
  | [], formatter => return formatter
  | asked :: calls, formatter => do
    let (_, formatter) ← formatter.perform installed asked
    performAll installed calls formatter

/-- The mapping is made to see the new sectors. -/
def flushed : Event LinuxI → Bool
  | ⟨LinuxOp.sys (.blkFlsBuf _), .ok _⟩ => true
  | _ => false

/-- The claim is closed only after the mapping was made to see the new sectors. -/
def ClosesAfterFlush (claim : Fd) (past : List (Event LinuxI)) (e : Event LinuxI) : Prop :=
  e.op = .sys (.close claim) → past.any flushed = true

omit [Host] in
theorem wp_flushed {α : Type} {claim : Fd} {p : Prog LinuxI RestoreMessage α}
    {past : List (Event LinuxI)} (h : past.any flushed = true) :
    wp (ClosesAfterFlush claim) (fun _ _ => True) p past := by
  refine wp_of_runs (Satisfies.trivial p) (fun t e _ _ _ => ?_) fun _ _ _ _ _ => trivial
  rw [List.any_append, h]
  rfl

/-- Until a release, no call closes the claim without a flush before. -/
theorem performAll_wp {fd claim : Fd} (hfd : formatter.fd = some fd) {calls : List LoopCall}
    (hcalls : ∀ asked ∈ calls, asked.releases = false) (past : List (Event LinuxI)) :
    wp (ClosesAfterFlush claim) (fun _ _ => True) (performAll installed calls formatter) past := by
  induction calls generalizing past with
  | nil => trivial
  | cons asked calls ih =>
    obtain ⟨hasked, hrest⟩ := List.forall_mem_cons.mp hcalls
    unfold performAll
    cases asked with
    | configure backingDescriptor offset length sectorSize =>
      obtain ⟨message, hret⟩ := configureObject_held installed hfd backingDescriptor offset length
        sectorSize
      unfold perform
      dsimp only
      rw [hret]
      exact ih hrest past
    | prepareForFormatting =>
      unfold perform prepareForFormatting
      dsimp only
      rw [hfd, Prog.bind_assoc]
      intro answered
      refine ⟨nofun, ?_⟩
      cases answered with
      | error errorNumber => exact ih hrest _
      | ok _ => exact wp_flushed (by rw [List.any_append]; exact Bool.or_true _)
    | detach => cases hasked
    | destroy => cases hasked

/-- While no flush of the mapping has succeeded and nothing is detached, the claim stays open: in the
midst of a call as well, since what a run has done so far is a run. -/
theorem performAll_holds_claim {base : Fd → Option (QString × OpenFlags)} {config : LoopConfig}
    (h : Bound base config formatter k) {claim : Fd} (hclaim : formatter.claimFd = some claim)
    {calls : List LoopCall} (hcalls : ∀ asked ∈ calls, asked.releases = false)
    {t : List (Event LinuxI)} {r : Option (Except RestoreMessage LoopDevice)}
    (hrun : Runs (performAll installed calls formatter) t r) (hpath : Path LoopKernel.step k t k')
    (hflushed : t.any flushed = false) :
    k'.opened claim = some (formatter.path, claimFlags) := by
  cases h with
  | prepared => cases hclaim
  | @claimed fd _ node _ freeClaim free distinct opened mapped tidy =>
    obtain rfl := Option.some.inj hclaim
    refine LoopKernel.path_opened hpath (fun e he hop => ?_) ?_
    · obtain ⟨before, after, rfl⟩ := List.append_of_mem he
      have hbefore := (wp_sound (performAll_wp rfl hcalls []) hrun).1 before e after rfl hop
      rw [List.nil_append] at hbefore
      rw [List.any_append, hbefore] at hflushed
      cases hflushed
    · rw [opened, Function.update_of_ne distinct, Function.update_self]

/-! ## The life of the object -/

/-- What holds of the object wherever a sequence of calls has led. -/
structure Lifecycle (installed : Catalog) (base : Fd → Option (QString × OpenFlags))
    (formatter : LoopDevice) (current : Option LoopConfig) (k : LoopKernel) : Prop where
  /-- Idle, or bound over what the last successful `configure` was given. -/
  idleOrBound : IdleOrBound base formatter current k
  /-- A failed `configure` leaves the object and the descriptors as they were. -/
  failed : ∀ backingDescriptor offset length sectorSize message formatter' k',
    Ends LoopKernel.step (formatter.configureObject installed backingDescriptor offset length
      sectorSize : Prog LinuxI RestoreMessage _) k (.ok (.error message, formatter')) k' →
    formatter' = formatter ∧ k'.opened = k.opened ∧ IdleOrBound base formatter' current k'
  /-- On a bound object it makes no call. -/
  refused : current.isSome → ∀ backingDescriptor offset length sectorSize, ∃ message,
    (formatter.configureObject installed backingDescriptor offset length sectorSize :
      Prog LinuxI RestoreMessage _) = .ret (.error message, formatter)
  attempts : ∀ backingDescriptor offset length sectorSize t r,
    Runs (formatter.configureObject installed backingDescriptor offset length sectorSize :
      Prog LinuxI RestoreMessage _) t r → t.countP isAttempt ≤ 8
  /-- A successful `configure` leaves the object with the exclusive claim. -/
  claimed : ∀ backingDescriptor offset length sectorSize formatter' k',
    Ends LoopKernel.step (formatter.configureObject installed backingDescriptor offset length
      sectorSize : Prog LinuxI RestoreMessage _) k (.ok (.ok (), formatter')) k' →
    ∃ claim, formatter'.claimFd = some claim ∧
      k'.opened claim = some (formatter'.path, claimFlags)
  /-- The claim is open at every point of every later run, until the mapping is flushed for the
  formatter or given up. -/
  holds : ∀ claim, formatter.claimFd = some claim → ∀ calls : List LoopCall,
    (∀ asked ∈ calls, asked.releases = false) → ∀ t r k',
    Runs (performAll installed calls formatter) t r → Path LoopKernel.step k t k' →
    t.any flushed = false → k'.opened claim = some (formatter.path, claimFlags)
  /-- A detach leaves an idle object, and another one makes no call and succeeds. -/
  detached : ∀ verdict formatter' k',
    Ends LoopKernel.step (formatter.detach installed : Prog LinuxI RestoreMessage _) k
      (.ok (verdict, formatter')) k' →
    Idle base formatter' k' ∧
      (formatter'.detach installed : Prog LinuxI RestoreMessage _) = .ret (.ok (), formatter')

theorem IdleOrBound.failed (h : IdleOrBound base formatter current k) {backingDescriptor : Fd}
    {offset length : UInt64} {sectorSize : UInt32} {message : RestoreMessage}
    (hends : Ends LoopKernel.step (formatter.configureObject installed backingDescriptor offset length
      sectorSize : Prog LinuxI RestoreMessage _) k (.ok (.error message, formatter')) k') :
    formatter' = formatter ∧ k'.opened = k.opened ∧ IdleOrBound base formatter' current k' := by
  cases current with
  | none =>
    have hidle : Idle base formatter k := h
    have hidle' : Idle base formatter' k' :=
      ((configureObject_ensures installed hidle backingDescriptor offset length sectorSize).ends
        hends).2 nofun
    exact ⟨hidle'.object.trans hidle.object.symm, hidle'.opened.trans hidle.opened.symm, hidle'⟩
  | some config =>
    obtain ⟨fd, hfd⟩ := Bound.held h
    obtain ⟨message', hret⟩ := configureObject_held installed hfd backingDescriptor offset length
      sectorSize
    obtain ⟨hresult, rfl⟩ := hends.of_ret hret
    cases hresult
    exact ⟨rfl, rfl, h⟩

/-- After a configuration that succeeded, the object's claim of its node is open. -/
theorem IdleOrBound.claimed (h : IdleOrBound base formatter current k) {backingDescriptor : Fd}
    {offset length : UInt64} {sectorSize : UInt32}
    (hends : Ends LoopKernel.step (formatter.configureObject installed backingDescriptor offset length
      sectorSize : Prog LinuxI RestoreMessage _) k (.ok (.ok (), formatter')) k') :
    ∃ claim, formatter'.claimFd = some claim ∧
      k'.opened claim = some (formatter'.path, claimFlags) := by
  cases current with
  | none =>
    obtain ⟨hclaim, hbound⟩ := ((configureObject_ensures installed h backingDescriptor offset length
      sectorSize).ends hends).1 rfl
    cases hbound with
    | prepared => cases hclaim
    | @claimed fd claim node _ freeClaim free distinct opened mapped tidy =>
      refine ⟨claim, rfl, ?_⟩
      rw [opened, Function.update_of_ne distinct, Function.update_self]
  | some config =>
    obtain ⟨fd, hfd⟩ := Bound.held h
    obtain ⟨message, hret⟩ := configureObject_held installed hfd backingDescriptor offset length
      sectorSize
    obtain ⟨hresult, _⟩ := hends.of_ret hret
    cases hresult

/-- A detach leaves the object idle, whatever the kernel answers. -/
theorem IdleOrBound.detached (h : IdleOrBound base formatter current k)
    (hends : Ends LoopKernel.step (formatter.detach installed : Prog LinuxI RestoreMessage _) k
      (.ok (verdict, formatter')) k') : Idle base formatter' k' :=
  perform_idleOrBound h .detach hends

/-- For every sequence of calls on a loop device, and every answer to the calls that they make. -/
theorem loopDevice_lifecycle (installed : Catalog) (k₀ : LoopKernel) (hstart : k₀.Tidy)
    (formatter : LoopDevice) (current : Option LoopConfig) (k : LoopKernel)
    (h : Reaches installed k₀ formatter current k) :
    Lifecycle installed k₀.opened formatter current k := by
  have hobject := h.idleOrBound (idle_of_tidy rfl hstart)
  constructor
  · exact hobject
  · intro backingDescriptor offset length sectorSize message formatter' k' hends
    exact hobject.failed hends
  · intro hcurrent backingDescriptor offset length sectorSize
    obtain ⟨config, rfl⟩ := Option.isSome_iff_exists.mp hcurrent
    obtain ⟨fd, hfd⟩ := Bound.held hobject
    exact configureObject_held installed hfd backingDescriptor offset length sectorSize
  · intro backingDescriptor offset length sectorSize t r hrun
    exact (configureObject_atMost installed formatter backingDescriptor offset length
      sectorSize).runs hrun
  · intro backingDescriptor offset length sectorSize formatter' k' hends
    exact hobject.claimed hends
  · intro claim hclaim calls hcalls t r k' hrun hpath hflushed
    cases current with
    | none =>
      rw [hobject.object] at hclaim
      cases hclaim
    | some config => exact performAll_holds_claim hobject hclaim hcalls hrun hpath hflushed
  · intro verdict formatter' k' hends
    have hidle := hobject.detached hends
    refine ⟨hidle, ?_⟩
    rw [detach_idle installed hidle, hidle.object]

end LoopDevice

/-! ### A mapping over a stick -/

namespace MappedStick

open LoopDevice SmallStick

def node : QString := QStringLiteral "/dev/loop0"

def config : LoopConfig := configFor 3 1048576 4194304 512

/-- The stick is open as descriptor 3. -/
def idleKernel : LoopKernel where
  opened := Function.update (fun _ => none) 3
    (some (QStringLiteral "/dev/sdb", BlockDevice.Access.exclusive.flags))
  mapped _ := none
  shared _ := false

def controlKernel : LoopKernel :=
  { idleKernel with opened := Function.update idleKernel.opened 4 (some (LoopControl, useFlags)) }

def claimedKernel : LoopKernel :=
  { idleKernel with opened := Function.update controlKernel.opened 5 (some (node, claimFlags)) }

def mappedKernel : LoopKernel :=
  { claimedKernel with mapped := Function.update idleKernel.mapped node (some config) }

def usedKernel : LoopKernel :=
  { mappedKernel with opened := Function.update mappedKernel.opened 6 (some (node, useFlags)) }

def boundKernel : LoopKernel :=
  { usedKernel with opened := Function.update usedKernel.opened 4 none }

def formatter : LoopDevice := { fd := some 6, claimFd := some 5, path := node }

theorem keeps_none {k : LoopKernel} (h : k.mapped = idleKernel.mapped) :
    k.Keeps idleKernel.mapped := by
  refine ⟨fun node config hmapped => ?_, fun node => .inl (by rw [h])⟩
  rw [h] at hmapped
  cases hmapped

theorem keeps_config {k : LoopKernel} (h : k.mapped = mappedKernel.mapped)
    (hclaim : k.opened 5 = some (node, claimFlags)) : k.Keeps mappedKernel.mapped := by
  refine ⟨fun other config hmapped _ => .inr ?_, fun node => .inl (by rw [h])⟩
  rw [h] at hmapped
  change Function.update idleKernel.mapped node _ other = _ at hmapped
  rw [Function.update_apply] at hmapped
  split at hmapped
  · next hother => exact hother ▸ LoopKernel.isOpen_of_opened hclaim
  · cases hmapped

/-- The run of the example, which binds the mapping. -/
theorem configure_ends :
    Ends LoopKernel.step (LoopDevice.perform Catalog.english {} (.configure 3 1048576 4194304 512))
      idleKernel (.ok (.ok (), formatter)) boundKernel := by
  have hstatus : idleKernel.step (.sys (.fstat 3)) (Except.ok ⟨.block, 0, ⟨8, 16⟩⟩) idleKernel :=
    ⟨rfl, keeps_none rfl⟩
  have hsize : idleKernel.step (.sys (.blkGetSize64 3)) (Except.ok 8388608) idleKernel :=
    ⟨rfl, keeps_none rfl⟩
  have hcontrol : idleKernel.step (.sys (.openNode LoopControl useFlags)) (Except.ok 4)
      controlKernel :=
    ⟨rfl, rfl, keeps_none rfl⟩
  have hnumber : controlKernel.step (.sys (.loopCtlGetFree 4)) (Except.ok 0) controlKernel :=
    ⟨rfl, keeps_none rfl⟩
  have hclaim : controlKernel.step (.sys (.openNode node claimFlags)) (Except.ok 5)
      claimedKernel :=
    ⟨rfl, rfl, keeps_none rfl⟩
  have hconfigure : claimedKernel.step (.sys (.loopConfigure 5 config)) (Except.ok ())
      mappedKernel :=
    ⟨rfl, node, claimFlags, rfl, rfl, keeps_config rfl rfl⟩
  have hused : mappedKernel.step (.sys (.openNode node useFlags)) (Except.ok 6) usedKernel :=
    ⟨rfl, rfl, keeps_config rfl rfl⟩
  have hclose : usedKernel.step (.sys (.close 4)) () boundKernel := ⟨rfl, keeps_config rfl rfl⟩
  exact .call hstatus (.call hsize (.call hcontrol (.call hnumber (.call hclaim (.call hconfigure
    (.call hused (.call hclose (.ret _ _))))))))

end MappedStick

open MappedStick SmallStick in
/-- After a mapping was made over the stick. -/
theorem LoopDevice.loopDevice_lifecycle_mapped :
    LoopDevice.Lifecycle Catalog.english idleKernel.opened MappedStick.formatter
      (some MappedStick.config) boundKernel :=
  LoopDevice.loopDevice_lifecycle Catalog.english idleKernel (by rintro _ _ ⟨⟩)
    MappedStick.formatter (some MappedStick.config) boundKernel (.call .start _ configure_ends)

end UsbRestore
