-- SUMMARY: What the results of a program and their final histories meet, whatever was called on the way.
import UsbRestore.Base.Prog

/-!
# Outcomes

The weakest precondition without an obligation on the calls: its rules have one premise for each
call that is answered, and nothing else.
-/

namespace UsbRestore.Prog

variable {I : Interface} {ε δ α β : Type} {p : Prog I ε α} {past : List (Event I)}

/-- Every result of the program and its final history meet `Q`. -/
abbrev Leaves (Q : Except ε α → List (Event I) → Prop) (p : Prog I ε α) (past : List (Event I)) :
    Prop :=
  wp (fun _ _ => True) Q p past

theorem leaves_call {o : I.Op} {f : I.Ans o → Prog I ε β}
    {Q : Except ε β → List (Event I) → Prop}
    (h : ∀ ans, Leaves Q (f ans) (past ++ [⟨o, ans⟩])) : Leaves Q (op o >>= f) past :=
  fun ans => ⟨trivial, h ans⟩

theorem Leaves.mono {Q R : Except ε α → List (Event I) → Prop} (h : Leaves Q p past)
    (hQ : ∀ r past', Q r past' → R r past') : Leaves R p past :=
  wp_mono h (fun _ _ h => h) hQ

/-- A part that cannot fail, and what comes after it. -/
theorem Leaves.seq {Q : α → List (Event I) → Prop} {R : Except ε β → List (Event I) → Prop}
    {f : α → Prog I ε β} (h : Leaves (fun r past' => ∃ a, r = .ok a ∧ Q a past') p past)
    (hf : ∀ a past', Q a past' → Leaves R (f a) past') : Leaves R (p >>= f) past := by
  rw [bind_eq]
  refine wp_bind.mpr (h.mono ?_)
  rintro r past' ⟨a, rfl, ha⟩
  exact hf a past' ha

/-- A program that is known by its calls and results alone. -/
theorem leaves_of_satisfies {Q : Except ε α → List (Event I) → Prop} {P : I.Op → Prop}
    {R : Except ε α → Prop} (h : p.Satisfies P R)
    (hQ : ∀ t r, (∀ e ∈ t, P (Event.op e)) → R r → Q r (past ++ t)) : Leaves Q p past :=
  wp_of_runs h (fun _ _ _ _ => trivial) fun t r _ ht hR => hQ t r ht hR

/-- Nothing that was called is forgotten. -/
theorem leaves_of_extensions {Q : Except ε α → List (Event I) → Prop}
    (hQ : ∀ t r, Q r (past ++ t)) : Leaves Q p past :=
  leaves_of_satisfies (Satisfies.trivial p) fun t r _ _ => hQ t r

theorem leaves_attempt {Q : Except ε α → List (Event I) → Prop}
    {R : Except δ (Except ε α) → List (Event I) → Prop} (h : Leaves Q p past)
    (hR : ∀ r past', Q r past' → R (.ok r) past') : Leaves R p.attempt past :=
  wp_attempt.mpr (h.mono hR)

/-- Soundness. -/
theorem Leaves.runs {Q : Except ε α → List (Event I) → Prop} (h : Leaves Q p [])
    {t : List (Event I)} {r : Except ε α} (hrun : Runs p t (some r)) : Q r t := by
  have hsound := (wp_sound h hrun).2 r rfl
  rwa [List.nil_append] at hsound

end UsbRestore.Prog
