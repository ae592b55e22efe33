-- SUMMARY: How often the runs of a program see an event.
import UsbRestore.Base.Prog

/-!
# Counting events

A bound on the events of one kind holds for the whole program if it is split among the parts: a
sequence sees at most as many as its halves together.
-/

namespace UsbRestore.Prog

variable {I : Interface} {ε α β : Type}

/-- At most `n` events of every run are counted. -/
def AtMost (counted : Event I → Bool) : Nat → Prog I ε α → Prop
  | n, .call o next =>
    ∀ ans, if counted ⟨o, ans⟩ then ∃ m, n = m + 1 ∧ (next ans).AtMost counted m
      else (next ans).AtMost counted n
  | _, _ => True

namespace AtMost

variable {counted : Event I → Bool} {p : Prog I ε α} {n m : Nat}

theorem mono (h : p.AtMost counted n) (hle : n ≤ m) : p.AtMost counted m := by
  induction p generalizing n m with
  | ret a => trivial
  | fail e => trivial
  | spin => trivial
  | call o next ih =>
    intro ans
    have hans := h ans
    split at hans
    · next hcounted =>
      obtain ⟨k, rfl, hnext⟩ := hans
      rw [if_pos hcounted]
      obtain ⟨extra, rfl⟩ := Nat.exists_eq_add_of_le hle
      refine ⟨k + extra, by rw [Nat.add_right_comm], ih ans hnext (Nat.le_add_right _ _)⟩
    · next hcounted =>
      rw [if_neg hcounted]
      exact ih ans hans hle

theorem bind {f : α → Prog I ε β} (h : p.AtMost counted n) (hf : ∀ a, (f a).AtMost counted m) :
    (p >>= f).AtMost counted (n + m) := by
  rw [bind_eq]
  induction p generalizing n with
  | ret a => exact (hf a).mono (Nat.le_add_left _ _)
  | fail e => trivial
  | spin => trivial
  | call o next ih =>
    intro ans
    have hans := h ans
    split at hans
    · next hcounted =>
      obtain ⟨k, rfl, hnext⟩ := hans
      rw [if_pos hcounted]
      exact ⟨k + m, Nat.add_right_comm _ _ _, ih ans hnext⟩
    · next hcounted =>
      rw [if_neg hcounted]
      exact ih ans hans

/-- A call that is not counted, whatever it is answered. -/
theorem call {o : I.Op} {f : I.Ans o → Prog I ε β} (hop : ∀ ans, counted ⟨o, ans⟩ = false)
    (hf : ∀ ans, (f ans).AtMost counted n) : (op o >>= f).AtMost counted n := by
  intro ans
  rw [if_neg (by rw [hop ans]; exact Bool.false_ne_true)]
  exact hf ans

/-- A call that may be counted. -/
theorem call_succ {o : I.Op} {f : I.Ans o → Prog I ε β}
    (hf : ∀ ans, (f ans).AtMost counted n) : (op o >>= f).AtMost counted (n + 1) := by
  intro ans
  split
  · exact ⟨n, rfl, hf ans⟩
  · exact (hf ans).mono (Nat.le_succ n)

/-- Soundness. -/
theorem runs (h : p.AtMost counted n) {t : List (Event I)} {r : Option (Except ε α)}
    (hrun : Runs p t r) : t.countP counted ≤ n := by
  induction hrun generalizing n with
  | stop p => exact Nat.zero_le n
  | ret a => exact Nat.zero_le n
  | fail e => exact Nat.zero_le n
  | @call o next ans t r rest ih =>
    have hans := h ans
    split at hans
    · next hcounted =>
      obtain ⟨k, rfl, hnext⟩ := hans
      rw [List.countP_cons_of_pos hcounted]
      exact Nat.succ_le_succ (ih hnext)
    · next hcounted =>
      rw [List.countP_cons_of_neg hcounted]
      exact ih hans

end AtMost

end UsbRestore.Prog
