-- SUMMARY: The loop driver as a machine: descriptors, mappings, and when a mapping goes.
import Mathlib.Logic.Function.Basic
import UsbRestore.Base.Machine
import UsbRestore.Linux.LoopDevice

/-!
# The loop driver

A mapping made with autoclear goes with the last descriptor on its node. Other processes open and
close the nodes when they please; a mapping of this process that outlives its descriptors is one
that such a process keeps open.
-/

namespace UsbRestore

open Prog

/-- The descriptors of the process, the mappings that it made, and the nodes that another process
has open. -/
structure LoopKernel where
  opened : Fd → Option (QString × OpenFlags)
  mapped : QString → Option LoopConfig
  shared : QString → Bool

namespace LoopKernel

variable {k k' : LoopKernel} {node : QString}

def IsOpen (k : LoopKernel) (node : QString) : Prop := ∃ fd flags, k.opened fd = some (node, flags)

/-- A mapping with autoclear is kept by a descriptor on its node. -/
def Settled (k : LoopKernel) : Prop :=
  ∀ node config, k.mapped node = some config → config.autoclear = true →
    k.shared node = true ∨ k.IsOpen node

/-- These mappings are there, but for some that have gone with their last descriptors. -/
def Keeps (k : LoopKernel) (mapped : QString → Option LoopConfig) : Prop :=
  k.Settled ∧ ∀ node, k.mapped node = mapped node ∨ k.mapped node = none ∧ ¬k.IsOpen node

/-- Whatever is answered, only what is opened, closed, mapped and cleared changes. -/
def step (k : LoopKernel) : (o : LinuxOp) → o.Ans → LoopKernel → Prop
  | .sys (.openNode path flags), .ok fd, k' =>
    k.opened fd = none ∧ k'.opened = Function.update k.opened fd (some (path, flags)) ∧
      k'.Keeps k.mapped
  | .sys (.close fd), _, k' =>
    k'.opened = Function.update k.opened fd none ∧ k'.Keeps k.mapped
  | .sys (.loopConfigure fd config), .ok (), k' =>
    k'.opened = k.opened ∧ ∃ node flags, k.opened fd = some (node, flags) ∧
      k.mapped node = none ∧ k'.Keeps (Function.update k.mapped node (some config))
  | .sys (.loopClrFd fd), .ok (), k' =>
    k'.opened = k.opened ∧ ∃ node flags, k.opened fd = some (node, flags) ∧
      -- With another descriptor on the node, the clearing waits for the last close.
      (k'.Keeps (Function.update k.mapped node none) ∨ ∃ config, k.mapped node = some config ∧
        k'.Keeps (Function.update k.mapped node (some { config with autoclear := true })))
  | _, _, k' => k'.opened = k.opened ∧ k'.Keeps k.mapped

/-- Every mapping goes with the last descriptor on its node. -/
def Tidy (k : LoopKernel) : Prop :=
  ∀ node config, k.mapped node = some config →
    config.autoclear = true ∧ (k.shared node = true ∨ k.IsOpen node)

/-! ## What a step leaves -/

/-- A kernel whose mappings all clear themselves is tidy. -/
theorem Keeps.tidy {mapped : QString → Option LoopConfig} (h : k.Keeps mapped)
    (hauto : ∀ node config, mapped node = some config → config.autoclear = true) : k.Tidy := by
  intro node config hmapped
  rcases h.2 node with hkept | ⟨hgone, _⟩
  · have hclears := hauto node config (hkept ▸ hmapped)
    exact ⟨hclears, h.1 node config hmapped hclears⟩
  · rw [hgone] at hmapped
    cases hmapped

/-- What other processes do leaves a tidy kernel tidy. -/
theorem Tidy.keeps (h : k.Tidy) (hkeeps : k'.Keeps k.mapped) : k'.Tidy :=
  hkeeps.tidy fun node config hmapped => (h node config hmapped).1

theorem Tidy.keeps_update (h : k.Tidy) {value : Option LoopConfig}
    (hvalue : ∀ config, value = some config → config.autoclear = true)
    (hkeeps : k'.Keeps (Function.update k.mapped node value)) : k'.Tidy := by
  refine hkeeps.tidy fun other config hmapped => ?_
  rw [Function.update_apply] at hmapped
  split at hmapped
  · exact hvalue config hmapped
  · exact (h other config hmapped).1

/-- A mapping stays while its node is open. -/
theorem Keeps.of_isOpen {mapped : QString → Option LoopConfig} (h : k.Keeps mapped)
    (hopen : k.IsOpen node) : k.mapped node = mapped node := by
  rcases h.2 node with hkept | ⟨_, hclosed⟩
  · exact hkept
  · exact absurd hopen hclosed

theorem isOpen_of_opened {fd : Fd} {flags : OpenFlags} (h : k.opened fd = some (node, flags)) :
    k.IsOpen node :=
  ⟨fd, flags, h⟩

/-- Nothing is opened, closed, mapped or cleared. -/
def Same (k k' : LoopKernel) : Prop := k'.opened = k.opened ∧ k'.Keeps k.mapped

/-- A descriptor is open until it is closed. -/
theorem step_opened {o : LinuxOp} {ans : o.Ans} {fd : Fd} {opened : QString × OpenFlags}
    (hstep : k.step o ans k') (hclose : o ≠ .sys (.close fd)) (hopened : k.opened fd = some opened) :
    k'.opened fd = some opened := by
  unfold step at hstep
  split at hstep
  · next path flags fd' =>
    have hne : fd ≠ fd' := by
      rintro rfl
      cases hstep.1.symm.trans hopened
    rw [hstep.2.1, Function.update_of_ne hne, hopened]
  · next fd' _ =>
    have hne : fd ≠ fd' := by
      rintro rfl
      exact hclose rfl
    rw [hstep.1, Function.update_of_ne hne, hopened]
  · rw [hstep.1, hopened]
  · rw [hstep.1, hopened]
  · rw [hstep.1, hopened]

theorem path_opened {t : List (Event LinuxI)} {fd : Fd} {opened : QString × OpenFlags}
    (h : Path (I := LinuxI) step k t k') (hclose : ∀ e ∈ t, e.op ≠ .sys (.close fd))
    (hopened : k.opened fd = some opened) : k'.opened fd = some opened := by
  induction h with
  | nil k => exact hopened
  | cons hstep rest ih =>
    obtain ⟨hhead, htail⟩ := List.forall_mem_cons.mp hclose
    exact ih htail (step_opened hstep hhead hopened)

/-- However a clearing is answered, no descriptor goes with it. -/
theorem Tidy.loopClrFd {fd : Fd} {cleared : Except Errno Unit} (h : k.Tidy)
    (hstep : k.step (.sys (.loopClrFd fd)) cleared k') : k'.opened = k.opened ∧ k'.Tidy := by
  cases cleared with
  | error errorNumber => exact ⟨hstep.1, h.keeps hstep.2⟩
  | ok _ =>
    obtain ⟨hopened, node, flags, _, hgone | ⟨config, _, hlater⟩⟩ := hstep
    · exact ⟨hopened, h.keeps_update (by rintro _ ⟨⟩) hgone⟩
    · refine ⟨hopened, h.keeps_update ?_ hlater⟩
      rintro _ ⟨⟩
      rfl

/-- A mapping that is made is there as long as its node is open. -/
theorem Tidy.loopConfigure {fd : Fd} {config : LoopConfig} {flags : OpenFlags} (h : k.Tidy)
    (hauto : config.autoclear = true) (hfd : k.opened fd = some (node, flags))
    (hstep : k.step (.sys (.loopConfigure fd config)) (Except.ok ()) k') :
    k'.opened = k.opened ∧ k'.Tidy ∧ k'.mapped node = some config := by
  obtain ⟨hopened, mapped, flags', hfd', _, hkeeps⟩ := hstep
  obtain ⟨rfl, rfl⟩ := Prod.mk.inj (Option.some.inj (hfd.symm.trans hfd'))
  refine ⟨hopened, h.keeps_update ?_ hkeeps, ?_⟩
  · rintro _ ⟨⟩
    exact hauto
  · rw [hkeeps.of_isOpen (isOpen_of_opened (hopened ▸ hfd)), Function.update_self]

end LoopKernel

/-- A descriptor that was opened is closed. -/
theorem update_close {base : Fd → Option (QString × OpenFlags)} {fd : Fd}
    (h : base fd = none) (opened : QString × OpenFlags) :
    Function.update (Function.update base fd (some opened)) fd none = base := by
  rw [Function.update_idem, ← h, Function.update_eq_self]

/-- The same, where another was opened in between. -/
theorem update_close_earlier {base : Fd → Option (QString × OpenFlags)} {fd later : Fd}
    (h : base fd = none) (hne : fd ≠ later) (opened opened' : QString × OpenFlags) :
    Function.update (Function.update (Function.update base fd (some opened)) later (some opened'))
      fd none = Function.update base later (some opened') := by
  rw [Function.update_comm hne.symm, update_close h]

end UsbRestore
