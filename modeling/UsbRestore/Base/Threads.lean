-- SUMMARY: A program that is run one call at a time, and what is left of it after each.
import UsbRestore.Base.Prog

/-!
# Threads

A program that shares its time with others makes its calls one by one. What is left of it after some
calls is a program again, and a run of what is left goes on from the calls made so far.
-/

namespace UsbRestore

/-- What every step keeps is kept by any steps, one after the other. -/
theorem foldlM_keeps {S A : Type*} {act : S → A → Option S} {P : S → Prop}
    (hact : ∀ s a s', P s → act s a = some s' → P s') {s s' : S} (h : P s) {steps : List A}
    (hsteps : steps.foldlM act s = some s') : P s' := by
  induction steps generalizing s with
  | nil =>
    cases hsteps
    exact h
  | cons a steps ih =>
    rw [List.foldlM_cons] at hsteps
    obtain ⟨s'', hfirst, hrest⟩ := Option.bind_eq_some_iff.mp hsteps
    exact ih (hact s a s'' h hfirst) hrest

namespace Prog

variable {I : Interface} {ε α : Type}

/-- `Left p t q`: `q` is what is left of `p` after the calls `t`. -/
inductive Left (p : Prog I ε α) : List (Event I) → Prog I ε α → Prop where
  | start : Left p [] p
  | call {t : List (Event I)} {o : I.Op} {next : I.Ans o → Prog I ε α}
    (before : Left p t (.call o next)) (ans : I.Ans o) : Left p (t ++ [⟨o, ans⟩]) (next ans)

namespace Left

variable {p q : Prog I ε α} {t t' : List (Event I)} {r : Option (Except ε α)}

theorem runs (h : Left p t q) (hq : Runs q t' r) : Runs p (t ++ t') r := by
  induction h generalizing t' with
  | start => exact hq
  | call before ans ih =>
    rw [List.append_assoc]
    exact ih (.call hq)

/-- The calls made so far are a run. -/
theorem run (h : Left p t q) : Runs p t none := by
  simpa using h.runs (.stop q)

theorem returned {a : α} (h : Left p t (.ret a)) : Runs p t (some (.ok a)) := by
  simpa using h.runs (.ret a)

theorem failed {e : ε} (h : Left p t (.fail e)) : Runs p t (some (.error e)) := by
  simpa using h.runs (.fail e)

/-- A run of the program goes on as one of what is left. -/
theorem resume (h : Left p t q) (hrun : Runs p (t ++ t') r) : Runs q t' r := by
  induction h generalizing t' with
  | start => exact hrun
  | call before ans ih =>
    rw [List.append_assoc] at hrun
    cases ih hrun with
    | call rest => exact rest

/-- After the calls of a run that has ended, its outcome is left. -/
theorem ended {outcome : Except ε α} (h : Left p t q) (hrun : Runs p t (some outcome)) :
    q = ofExcept outcome := by
  have hrest : Runs q [] (some outcome) := h.resume (by rwa [List.append_nil])
  cases hrest with
  | ret a => rfl
  | fail e => rfl

theorem last (h : Left p t q) : t = [] ∧ q = p ∨ ∃ before o next ans,
    t = before ++ [⟨o, ans⟩] ∧ q = next ans ∧ Left p before (.call o next) := by
  cases h with
  | start => exact .inl ⟨rfl, rfl⟩
  | call before ans => exact .inr ⟨_, _, _, ans, rfl, rfl, before⟩

/-- What is left is determined by the calls. -/
theorem unique {q' : Prog I ε α} (h : Left p t q) (h' : Left p t q') : q = q' := by
  induction h generalizing q' with
  | start =>
    rcases h'.last with ⟨-, rfl⟩ | ⟨before, o, next, ans, hcalls, -⟩
    · rfl
    · simp at hcalls
  | call before ans ih =>
    rcases h'.last with ⟨hcalls, -⟩ | ⟨before', o', next', ans', hcalls, rfl, hbefore'⟩
    · simp at hcalls
    · obtain ⟨rfl, hlast⟩ := List.append_inj' hcalls rfl
      cases ih hbefore'
      cases hlast
      rfl

end Left

end Prog

end UsbRestore
