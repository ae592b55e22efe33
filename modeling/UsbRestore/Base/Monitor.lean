-- SUMMARY: A monitor that reads every call of a program, and what it says of every run.
import UsbRestore.Base.Machine

/-!
# Monitors

A monitor is a machine that lets every call be answered in any way and only takes note of it. What is
asked of the notes holds along every run.
-/

namespace UsbRestore.Prog

variable {I : Interface} {ε δ α β S : Type}

/-- Every answer is possible; the state is what `after` makes of it. -/
def monitor (after : S → Event I → S) : Machine I S := fun s o ans s' => s' = after s ⟨o, ans⟩

section

variable {after : S → Event I → S} {ok : S → (o : I.Op) → I.Ans o → S → Prop}
  {Q : Except ε α → S → Prop} {p : Prog I ε α} {s : S}

/-- Soundness: every call of every run, and every result. -/
theorem Safely.monitored (h : p.Safely (monitor after) ok Q s) {t : List (Event I)}
    {r : Option (Except ε α)} (hruns : Runs p t r) :
    (∀ before e rest, t = before ++ e :: rest →
      ok (before.foldl after s) e.op e.ans ((before ++ [e]).foldl after s)) ∧
    ∀ x, r = some x → Q x (t.foldl after s) := by
  have hnil : ∀ before e, ∀ rest : List (Event I), ([] : List (Event I)) ≠ before ++ e :: rest :=
    fun before e rest heq => by cases before <;> cases heq
  induction hruns generalizing s with
  | stop p => exact ⟨fun before e rest heq => absurd heq (hnil before e rest), nofun⟩
  | ret a =>
    refine ⟨fun before e rest heq => absurd heq (hnil before e rest), ?_⟩
    rintro _ ⟨⟩
    exact h
  | fail e =>
    refine ⟨fun before e rest heq => absurd heq (hnil before e rest), ?_⟩
    rintro _ ⟨⟩
    exact h
  | @call o next ans t r _ ih =>
    obtain ⟨hok, hnext⟩ := h ans _ rfl
    obtain ⟨hcalls, hresult⟩ := ih hnext
    refine ⟨fun before e rest heq => ?_, hresult⟩
    cases before with
    | nil =>
      obtain ⟨rfl, _⟩ := List.cons.inj heq
      exact hok
    | cons first before =>
      obtain ⟨rfl, hrest⟩ := List.cons.inj heq
      exact hcalls before e rest hrest

/-- A call, and what comes after its answer. -/
theorem Surely.watch {o : I.Op} {f : I.Ans o → Prog I ε α}
    (hf : ∀ ans, ok s o ans (after s ⟨o, ans⟩) ∧
      (f ans).Surely (monitor after) ok Q (after s ⟨o, ans⟩)) :
    (op o >>= f).Surely (monitor after) ok Q s := by
  rintro ans _ rfl
  exact hf ans

end

end UsbRestore.Prog
