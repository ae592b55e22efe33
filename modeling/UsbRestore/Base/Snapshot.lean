-- SUMMARY: What a program returns when each of its calls always gets the same answer.
import UsbRestore.Base.Prog

/-!
# Snapshots

A snapshot answers every call by the call alone, so a program reads the same thing however often
it asks. Two programs that are answered by one snapshot have seen the same state of the world.
-/

namespace UsbRestore.Prog

variable {I : Interface} {ε α β : Type} {snapshot : (o : I.Op) → I.Ans o}

/-- The result of a program; none where it never returns. -/
def eval (snapshot : (o : I.Op) → I.Ans o) : Prog I ε α → Option (Except ε α)
  | .ret a => some (.ok a)
  | .fail e => some (.error e)
  | .spin => none
  | .call o next => (next (snapshot o)).eval snapshot

/-- The result is that of one of its runs. -/
theorem eval_runs {p : Prog I ε α} {x : Except ε α} (h : p.eval snapshot = some x) :
    ∃ t, (∀ e ∈ t, e.ans = snapshot e.op) ∧ Runs p t (some x) := by
  induction p with
  | ret a =>
    obtain rfl := Option.some.inj h
    exact ⟨[], nofun, .ret a⟩
  | fail e =>
    obtain rfl := Option.some.inj h
    exact ⟨[], nofun, .fail e⟩
  | spin => cases h
  | call o next ih =>
    obtain ⟨t, hanswers, hrun⟩ := ih _ h
    refine ⟨⟨o, snapshot o⟩ :: t, ?_, .call hrun⟩
    intro e he
    rcases List.mem_cons.mp he with rfl | he
    · rfl
    · exact hanswers e he

/-- A run that is answered by the snapshot has its result. -/
theorem runs_eval {p : Prog I ε α} {t : List (Event I)} {x : Except ε α} (h : Runs p t (some x))
    (hanswers : ∀ e ∈ t, e.ans = snapshot e.op) : p.eval snapshot = some x := by
  induction p generalizing t with
  | ret a =>
    cases h
    rfl
  | fail e =>
    cases h
    rfl
  | spin => cases h
  | call o next ih =>
    cases h with
    | @call _ _ ans _ _ hrest =>
      have hans : ans = snapshot o := hanswers _ List.mem_cons_self
      subst hans
      exact ih _ hrest fun e he => hanswers e (List.mem_cons_of_mem _ he)

/-- The result as an outcome; none where the program never returns. -/
def outcomeOf (snapshot : (o : I.Op) → I.Ans o) (p : Prog I ε α) : Option p.Outcome :=
  match h : p.eval snapshot with
  | none => none
  | some x => some ⟨x, (eval_runs h).imp fun _ hrun => hrun.2⟩

/-- The run of a program up to the first call that is not answered. -/
def follow (answer : (o : I.Op) → Option (I.Ans o)) :
    Prog I ε α → List (Event I) × Option (Except ε α)
  | .ret a => ([], some (.ok a))
  | .fail e => ([], some (.error e))
  | .spin => ([], none)
  | .call o next =>
    match answer o with
    | none => ([], none)
    | some ans =>
      let rest := (next ans).follow answer
      (⟨o, ans⟩ :: rest.1, rest.2)

theorem follow_runs (answer : (o : I.Op) → Option (I.Ans o)) (p : Prog I ε α) :
    Runs p (p.follow answer).1 (p.follow answer).2 := by
  induction p with
  | ret a => exact .ret a
  | fail e => exact .fail e
  | spin => exact .stop _
  | call o next ih =>
    unfold follow
    cases answer o with
    | none => exact .stop _
    | some ans => exact .call (ih ans)

theorem eval_bind {p : Prog I ε α} {a : α} (h : p.eval snapshot = some (.ok a))
    (f : α → Prog I ε β) : (p >>= f).eval snapshot = (f a).eval snapshot := by
  induction p with
  | ret b =>
    obtain rfl := Except.ok.inj (Option.some.inj h)
    rfl
  | fail e => cases Option.some.inj h
  | spin => cases h
  | call o next ih => exact ih _ h

theorem eval_call (o : I.Op) (f : I.Ans o → Prog I ε β) :
    (op o >>= f).eval snapshot = (f (snapshot o)).eval snapshot := rfl

/-- A program that returns a value, whatever it is answered. -/
def Total : Prog I ε α → Prop
  | .ret _ => True
  | .fail _ => False
  | .spin => False
  | .call _ next => ∀ ans, (next ans).Total

namespace Total

theorem bind {p : Prog I ε α} {f : α → Prog I ε β} (h : p.Total) (hf : ∀ a, (f a).Total) :
    (p >>= f).Total := by
  induction p with
  | ret a => exact hf a
  | fail e => exact h.elim
  | spin => exact h.elim
  | call o next ih => exact fun ans => ih ans (h ans)

theorem call {o : I.Op} {f : I.Ans o → Prog I ε β} (hf : ∀ ans, (f ans).Total) :
    (op o >>= f).Total := hf

theorem eval {p : Prog I ε α} (h : p.Total) (snapshot : (o : I.Op) → I.Ans o) :
    ∃ a, p.eval snapshot = some (.ok a) := by
  induction p with
  | ret a => exact ⟨a, rfl⟩
  | fail e => exact h.elim
  | spin => exact h.elim
  | call o next ih => exact ih _ (h _)

/-- What comes after a value that does not matter. -/
theorem eval_bind {p : Prog I ε α} (h : p.Total) (snapshot : (o : I.Op) → I.Ans o)
    (f : α → Prog I ε β) : ∃ a, (p >>= f).eval snapshot = (f a).eval snapshot := by
  obtain ⟨a, ha⟩ := h.eval snapshot
  exact ⟨a, Prog.eval_bind ha f⟩

end Total

end UsbRestore.Prog
