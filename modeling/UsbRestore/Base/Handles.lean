-- SUMMARY: Handles that are given out and given back along a list of events.
import Mathlib.Data.List.Basic

/-!
# Handles

A system gives out handles, such as descriptors, and takes them back. A part of a program that gives
back only what it was given meanwhile leaves alone every handle that was held before, as long as the
system gives out none that is held.
-/

namespace UsbRestore

/-- Which events give a handle out, and which give one back. -/
structure Handles (E H : Type) where
  opened : E → Option H
  closed : E → Option H

namespace Handles

variable {E H : Type} (k : Handles E H)

/-- The handles that the events gave out. -/
def given (events : List E) : List H := events.filterMap k.opened

/-- The event neither gives the handle out nor gives it back. -/
def Leaves (h : H) (e : E) : Prop := k.opened e ≠ some h ∧ k.closed e ≠ some h

/-- What is given back is one of `own`, or was given out meanwhile. -/
def ClosesOwn : (own : List H) → List E → Prop
  | _, [] => True
  | own, e :: events =>
    (∀ h, k.closed e = some h → h ∈ own) ∧ ClosesOwn ((k.opened e).toList ++ own) events

section

variable {k} {own own' : List H} {s t : List E}

@[simp] theorem given_append : k.given (s ++ t) = k.given s ++ k.given t :=
  List.filterMap_append

/-- More handles may be given back when more of them are one's own. -/
theorem ClosesOwn.mono (h : k.ClosesOwn own s) (hown : own ⊆ own') : k.ClosesOwn own' s := by
  induction s generalizing own own' with
  | nil => trivial
  | cons e s ih =>
    refine ⟨fun handle hclosed => hown (h.1 handle hclosed), ih h.2 ?_⟩
    exact List.append_subset.mpr ⟨List.subset_append_left _ _,
      List.subset_append_of_subset_right _ hown⟩

/-- Two parts in sequence, where the second may give back what the first was given. -/
theorem ClosesOwn.append (hs : k.ClosesOwn own s) (ht : k.ClosesOwn (k.given s ++ own) t) :
    k.ClosesOwn own (s ++ t) := by
  induction s generalizing own with
  | nil => exact ht
  | cons e s ih =>
    refine ⟨hs.1, ih hs.2 (ht.mono ?_)⟩
    intro handle hmem
    cases hopened : k.opened e with
    | none =>
      rw [given, List.filterMap_cons_none hopened] at hmem
      exact hmem
    | some first =>
      rw [given, List.filterMap_cons_some hopened, List.cons_append, List.mem_cons] at hmem
      rw [Option.toList_some, List.mem_append, List.mem_append]
      rcases hmem with rfl | hmem
      · exact .inr (.inl List.mem_cons_self)
      · rcases List.mem_append.mp hmem with hmem | hmem
        · exact .inl hmem
        · exact .inr (.inr hmem)

/-- Events that give back nothing but `own`. -/
theorem ClosesOwn.of_forall (h : ∀ e ∈ s, ∀ handle, k.closed e = some handle → handle ∈ own) :
    k.ClosesOwn own s := by
  induction s generalizing own with
  | nil => trivial
  | cons e s ih =>
    refine ⟨h e List.mem_cons_self, ih fun e' he' handle hclosed => ?_⟩
    exact List.mem_append_right _ (h e' (List.mem_cons_of_mem _ he') handle hclosed)

end

section

variable [DecidableEq H]

/-- The handles that are held after an event. -/
def next (held : List H) (e : E) : List H :=
  (k.opened e).toList ++ held.filter fun h => k.closed e ≠ some h

/-- No handle is given out that is held. -/
def GivesFree : (held : List H) → List E → Prop
  | _, [] => True
  | held, e :: events =>
    (∀ h ∈ (k.opened e).toList, h ∉ held) ∧ GivesFree (k.next held e) events

instance GivesFree.decidable : (held : List H) → (events : List E) →
    Decidable (k.GivesFree held events)
  | _, [] => isTrue trivial
  | held, e :: events =>
    have := GivesFree.decidable (k.next held e) events
    inferInstanceAs (Decidable ((∀ h ∈ (k.opened e).toList, h ∉ held) ∧
      k.GivesFree (k.next held e) events))

variable {k} {held own : List H} {handle : H} {e : E} {s t : List E}

/-- A history that gives out free handles does so in both of its parts. -/
theorem GivesFree.of_append (h : k.GivesFree held (s ++ t)) :
    k.GivesFree held s ∧ k.GivesFree (s.foldl k.next held) t := by
  induction s generalizing held with
  | nil => exact ⟨trivial, h⟩
  | cons e s ih =>
    obtain ⟨hs, ht⟩ := ih h.2
    exact ⟨⟨h.1, hs⟩, ht⟩

theorem mem_next_of_opened (h : k.opened e = some handle) : handle ∈ k.next held e := by
  rw [next, h]
  exact List.mem_append_left _ List.mem_cons_self

theorem mem_next_of_leaves (hheld : handle ∈ held) (h : k.Leaves handle e) :
    handle ∈ k.next held e :=
  List.mem_append_right _ (List.mem_filter.mpr ⟨hheld, decide_eq_true h.2⟩)

/-- What is held and is not its own, such events leave alone. -/
theorem ClosesOwn.leaves (h : k.ClosesOwn own s) (hfree : k.GivesFree held s)
    (hheld : handle ∈ held) (hown : handle ∉ own) : ∀ e ∈ s, k.Leaves handle e := by
  induction s generalizing held own with
  | nil => exact fun e he => absurd he List.not_mem_nil
  | cons e s ih =>
    have hfirst : k.Leaves handle e := by
      refine ⟨fun hopened => ?_, fun hclosed => hown (h.1 handle hclosed)⟩
      exact hfree.1 handle (by rw [hopened]; exact List.mem_cons_self) hheld
    have hlater : handle ∉ (k.opened e).toList ++ own := by
      rw [List.mem_append, Option.mem_toList]
      exact not_or.mpr ⟨hfirst.1, hown⟩
    intro e' he'
    rcases List.mem_cons.mp he' with rfl | he'
    · exact hfirst
    · exact ih h.2 hfree.2 (mem_next_of_leaves hheld hfirst) hlater e' he'

/-- A handle that was given out, and events that give back only what they were given, leave it alone. -/
theorem ClosesOwn.leaves_opened (h : k.ClosesOwn [] t) (hfree : k.GivesFree [] (s ++ e :: t))
    (hopened : k.opened e = some handle) : ∀ e' ∈ t, k.Leaves handle e' := by
  have hlater := hfree.of_append.2.2
  exact h.leaves hlater (mem_next_of_opened hopened) List.not_mem_nil

end

end Handles

end UsbRestore
