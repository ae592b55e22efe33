-- SUMMARY: Bisection for the greatest number with a property, and the element of a sorted list nearest to a bound.
import Mathlib.Algebra.Group.Nat.Defs
import Mathlib.Data.Nat.Find
import Mathlib.Data.List.Induction
import Mathlib.Order.Bounds.Basic

/-!
# Searches

Two searches that a program writes as loops, each with the notion it computes.
-/

namespace Search

/-! ## Bisection -/

section Bisection

variable (p : Nat → Prop) [DecidablePred p]

/-- Halve `low .. high` until one number is left; `none` where the rounds run out before that. -/
def bisect : (rounds : Nat) → (low high : Nat) → Option Nat
  | 0, low, high => if low < high then none else some low
  | rounds + 1, low, high =>
    if low < high then
      let middle := low + (high - low + 1) / 2
      if p middle then bisect rounds middle high else bisect rounds low (middle - 1)
    else some low

variable {p}

/-- The bound of a search may come down to just below a number without the property. -/
theorem findGreatest_of_not (hp : Antitone p) {middle high : Nat} (hpos : 0 < middle)
    (hle : middle ≤ high) (hnot : ¬p middle) :
    Nat.findGreatest p (middle - 1) = Nat.findGreatest p high := by
  symm
  refine Nat.findGreatest_eq_iff.mpr ⟨?_, ?_, ?_⟩
  · have := Nat.findGreatest_le (P := p) (middle - 1)
    omega
  · exact Nat.findGreatest_of_ne_zero rfl
  · intro n hlt _ hn
    have hbelow : n < middle := Nat.lt_of_not_le fun h => hnot (hp h hn)
    exact absurd (Nat.le_findGreatest (Nat.le_sub_one_of_lt hbelow) hn) (Nat.not_le.mpr hlt)

/-- An interval of one number holds the answer. -/
theorem findGreatest_of_eq {low high : Nat} (hlow : low ≠ 0 → p low) (heq : high = low) :
    Nat.findGreatest p high = low :=
  Nat.findGreatest_eq_iff.mpr ⟨Nat.le_of_eq heq.symm, hlow, fun _ hlt hn => absurd hlt (by omega)⟩

/-- What lies below the interval keeps its property, what lies above it does not have it, and every
round halves the interval. -/
theorem bisect_eq_findGreatest (hp : Antitone p) {rounds low high : Nat} (hle : low ≤ high)
    (hlow : low ≠ 0 → p low) (hwidth : high - low < 2 ^ rounds) :
    bisect p rounds low high = some (Nat.findGreatest p high) := by
  induction rounds generalizing low high with
  | zero =>
    rw [Nat.pow_zero] at hwidth
    simp [bisect, findGreatest_of_eq hlow (show high = low by omega), show ¬low < high by omega]
  | succ rounds ih =>
    rw [Nat.pow_succ] at hwidth
    by_cases hlt : low < high
    · simp only [bisect, if_pos hlt]
      split
      next hmiddle => exact ih (by omega) (fun _ => hmiddle) (by omega)
      next hmiddle =>
        rw [← findGreatest_of_not hp (by omega) (by omega) hmiddle]
        exact ih (by omega) hlow (by omega)
    · simp [bisect, findGreatest_of_eq hlow (show high = low by omega), hlt]

/-- The search finds the greatest number with the property, or zero where there is none. -/
theorem isGreatest_findGreatest (hp : Antitone p) {high : Nat} (hhigh : ∀ c, p c → c ≤ high) :
    IsGreatest {c | p c} (Nat.findGreatest p high) ∨
      Nat.findGreatest p high = 0 ∧ ∀ c, ¬p c := by
  by_cases hzero : p 0
  · refine .inl ⟨Nat.findGreatest_spec (Nat.zero_le high) hzero, fun c hc => ?_⟩
    exact Nat.le_findGreatest (hhigh c hc) hc
  · have hnone (c : Nat) : ¬p c := fun hc => hzero (hp (Nat.zero_le c) hc)
    exact .inr ⟨Nat.findGreatest_eq_zero_iff.mpr fun n _ _ => hnone n, hnone⟩

end Bisection

/-! ## The nearest element -/

section Nearest

/-- `a` is the greatest element of `s` up to `bound`, or the least one where all are above it. -/
def IsClamp {α : Type*} [LE α] [LT α] (s : Set α) (bound a : α) : Prop :=
  IsGreatest {b | b ∈ s ∧ b ≤ bound} a ∨ (∀ b ∈ s, bound < b) ∧ IsLeast s a

theorem IsClamp.mem {α : Type*} [LE α] [LT α] {s : Set α} {bound a : α} (h : IsClamp s bound a) :
    a ∈ s := by
  rcases h with hgreatest | ⟨_, hleast⟩
  · exact hgreatest.1.1
  · exact hleast.1

variable {α : Type*} [LinearOrder α]

/-- One pass over a list: the first element that is fine, then every later one up to `bound`. -/
def nearest (fine : α → Prop) [DecidablePred fine] (bound missing : α) (l : List α) : α :=
  l.foldl (fun best a =>
    if fine a then if best = missing ∨ a ≤ bound then a else best else best) missing

variable {s t : Set α} {bound a b x y : α}

theorem isClamp_singleton (bound a : α) : IsClamp {a} bound a := by
  rcases le_or_gt a bound with hle | hgt
  · exact .inl ⟨⟨rfl, hle⟩, fun b hb => le_of_eq hb.1⟩
  · refine .inr ⟨?_, isLeast_singleton⟩
    rintro b rfl
    exact hgt

/-- A new greatest element within the bound is taken. -/
theorem isClamp_insert_of_le (habove : ∀ b ∈ s, b < a) (hle : a ≤ bound) :
    IsClamp (insert a s) bound a := by
  refine .inl ⟨⟨Set.mem_insert a s, hle⟩, ?_⟩
  rintro b ⟨rfl | hb, _⟩
  · exact le_refl b
  · exact le_of_lt (habove b hb)

/-- A new greatest element above the bound is not. -/
theorem IsClamp.insert_of_gt (h : IsClamp s bound b) (habove : ∀ b ∈ s, b < a) (hgt : bound < a) :
    IsClamp (insert a s) bound b := by
  rcases h with hgreatest | ⟨hnone, hleast⟩
  · refine .inl ⟨⟨Set.mem_insert_of_mem a hgreatest.1.1, hgreatest.1.2⟩, ?_⟩
    rintro c ⟨rfl | hc, hle⟩
    · exact absurd hle (not_le_of_gt hgt)
    · exact hgreatest.2 ⟨hc, hle⟩
  · refine .inr ⟨?_, Set.mem_insert_of_mem a hleast.1, ?_⟩
    · rintro c (rfl | hc)
      · exact hgt
      · exact hnone c hc
    · rintro c (rfl | hc)
      · exact le_of_lt (habove b hleast.1)
      · exact hleast.2 hc

/-- The clamp grows with the bound between two sets the later of which lies higher: what both
clamps exclude is an element of each set on the wrong side of the other. -/
theorem IsClamp.mono (ha : IsClamp s x a) (hb : IsClamp t y b) (hxy : x ≤ y)
    (hcross : b < a → a ∈ t ∧ b ∈ s) : a ≤ b := by
  by_contra hlt
  obtain ⟨hat, hbs⟩ := hcross (lt_of_not_ge hlt)
  have hay : y < a := by
    rcases hb with hgreatest | ⟨hnone, _⟩
    · exact lt_of_not_ge fun hle => hlt (hgreatest.2 ⟨hat, hle⟩)
    · exact hnone a hat
  rcases ha with hgreatest | ⟨_, hleast⟩
  · exact absurd (hgreatest.1.2.trans hxy) (not_le_of_gt hay)
  · exact hlt (hleast.2 hbs)

variable {fine : α → Prop} [DecidablePred fine] {missing : α}

/-- The invariant of the pass, over the part of the list it has seen. -/
theorem nearest_spec {l : List α} (hsorted : l.Pairwise (· < ·)) (hmissing : missing ∉ l) :
    nearest fine bound missing l = missing ∧ (∀ a ∈ l, ¬fine a) ∨
      IsClamp {a | a ∈ l ∧ fine a} bound (nearest fine bound missing l) := by
  induction l using List.reverseRecOn with
  | nil => simp [nearest]
  | append_singleton l a ih =>
    have habove : ∀ b ∈ l, b < a := fun b hb =>
      (List.pairwise_append.mp hsorted).2.2 b hb a (List.mem_singleton_self a)
    have hseen := ih (List.pairwise_append.mp hsorted).1 fun h =>
      hmissing (List.mem_append_left [a] h)
    have hstep : nearest fine bound missing (l ++ [a]) =
        if fine a then
          if nearest fine bound missing l = missing ∨ a ≤ bound then a
          else nearest fine bound missing l
        else nearest fine bound missing l := by
      rw [nearest, List.foldl_append]
      rfl
    by_cases hfine : fine a
    · have hset : {c | c ∈ l ++ [a] ∧ fine c} = insert a {c | c ∈ l ∧ fine c} := by
        ext c
        constructor
        · rintro ⟨hc, hcfine⟩
          rcases List.mem_append.mp hc with hc | hc
          · exact .inr ⟨hc, hcfine⟩
          · exact .inl (List.mem_singleton.mp hc)
        · rintro (rfl | ⟨hc, hcfine⟩)
          · exact ⟨List.mem_append_right l (List.mem_singleton_self c), hfine⟩
          · exact ⟨List.mem_append_left [a] hc, hcfine⟩
      right
      rw [hset, hstep, if_pos hfine]
      rcases hseen with ⟨hnone, hunfit⟩ | hclamp
      · have hempty : {c | c ∈ l ∧ fine c} = ∅ :=
          Set.eq_empty_of_forall_notMem fun c hc => hunfit c hc.1 hc.2
        rw [hempty, if_pos (.inl hnone), insert_empty_eq]
        exact isClamp_singleton bound a
      · by_cases hle : a ≤ bound
        · rw [if_pos (.inr hle)]
          exact isClamp_insert_of_le (fun b hb => habove b hb.1) hle
        · have hsome : nearest fine bound missing l ≠ missing := fun h =>
            hmissing (List.mem_append_left [a] (h ▸ hclamp.mem.1))
          rw [if_neg (by simp [hsome, hle])]
          exact hclamp.insert_of_gt (fun b hb => habove b hb.1) (lt_of_not_ge hle)
    · have hset : {c | c ∈ l ++ [a] ∧ fine c} = {c | c ∈ l ∧ fine c} := by
        ext c
        constructor
        · rintro ⟨hc, hcfine⟩
          refine ⟨(List.mem_append.mp hc).resolve_right fun h => ?_, hcfine⟩
          exact hfine (List.mem_singleton.mp h ▸ hcfine)
        · exact fun ⟨hc, hcfine⟩ => ⟨List.mem_append_left [a] hc, hcfine⟩
      rw [hset, hstep, if_neg hfine]
      refine hseen.imp (fun h => ⟨h.1, fun c hc => ?_⟩) id
      rcases List.mem_append.mp hc with hc | hc
      · exact h.2 c hc
      · exact List.mem_singleton.mp hc ▸ hfine

theorem nearest_eq_missing_iff {l : List α} (hsorted : l.Pairwise (· < ·))
    (hmissing : missing ∉ l) :
    nearest fine bound missing l = missing ↔ ∀ a ∈ l, ¬fine a := by
  have hspec : nearest fine bound missing l = missing ∧ (∀ a ∈ l, ¬fine a) ∨
      IsClamp {a | a ∈ l ∧ fine a} bound (nearest fine bound missing l) :=
    nearest_spec hsorted hmissing
  rcases hspec with ⟨hnone, hunfit⟩ | hclamp
  · exact iff_of_true hnone hunfit
  · refine iff_of_false (fun h => hmissing (h ▸ hclamp.mem.1)) fun h => ?_
    exact h _ hclamp.mem.1 hclamp.mem.2

theorem nearest_isClamp {l : List α} (hsorted : l.Pairwise (· < ·)) (hmissing : missing ∉ l)
    (hfound : nearest fine bound missing l ≠ missing) :
    IsClamp {a | a ∈ l ∧ fine a} bound (nearest fine bound missing l) :=
  (nearest_spec hsorted hmissing).resolve_left fun h => hfound h.1

end Nearest

end Search
