-- SUMMARY: Programs whose calls are answered by a machine: its states, final states, and what they ensure.
import UsbRestore.Base.Snapshot

/-!
# Machines

A machine says which answers a call may get in each of its states, and the state it is in afterwards.
Where a run of a program may be given any answer at all, a program that a machine answers sees what
the machine's states say of the world.
-/

namespace UsbRestore.Prog

variable {I : Interface} {ε δ α β S : Type}

/-- The answers a call may get, and the states they lead to. -/
abbrev Machine (I : Interface) (S : Type) := S → (o : I.Op) → I.Ans o → S → Prop

/-- The program can return this result in this state. -/
inductive Ends (M : Machine I S) : Prog I ε α → S → Except ε α → S → Prop where
  | ret (a : α) (s : S) : Ends M (.ret a) s (.ok a) s
  | fail (e : ε) (s : S) : Ends M (.fail e) s (.error e) s
  | call {o : I.Op} {next : I.Ans o → Prog I ε α} {ans : I.Ans o} {s s' s'' : S}
    {r : Except ε α} (step : M s o ans s') (rest : Ends M (next ans) s' r s'') :
    Ends M (.call o next) s r s''

/-- Every result and the state it is returned in meet `Q`. -/
def Always (M : Machine I S) (Q : Except ε α → S → Prop) : Prog I ε α → S → Prop
  | .ret a, s => Q (.ok a) s
  | .fail e, s => Q (.error e) s
  | .spin, _ => True
  | .call o next, s => ∀ ans s', M s o ans s' → (next ans).Always M Q s'

/-- What is asked of the values alone. -/
def onOk (Q : α → S → Prop) : Except ε α → S → Prop
  | .ok a, s => Q a s
  | .error _, _ => True

/-- Every value and the state it is returned in meet `Q`. -/
abbrev Ensures (M : Machine I S) (Q : α → S → Prop) (p : Prog I ε α) (s : S) : Prop :=
  p.Always M (onOk Q) s

variable {M : Machine I S} {p : Prog I ε α} {s : S}

theorem Ends.of_ret {a : α} {r : Except ε α} {s' : S} (h : Ends M p s r s') (hp : p = .ret a) :
    r = .ok a ∧ s' = s := by
  subst hp
  cases h
  exact ⟨rfl, rfl⟩

/-- What a program always ends in holds of the end of every run. -/
theorem Always.ends {Q : Except ε α → S → Prop} (h : p.Always M Q s) {r : Except ε α} {s' : S}
    (hends : Ends M p s r s') : Q r s' := by
  induction hends with
  | ret a s => exact h
  | fail e s => exact h
  | call step rest ih => exact ih (h _ _ step)

theorem Always.mono {Q R : Except ε α → S → Prop} (h : p.Always M Q s)
    (hQ : ∀ r s, Q r s → R r s) : p.Always M R s := by
  induction p generalizing s with
  | ret a => exact hQ _ _ h
  | fail e => exact hQ _ _ h
  | spin => trivial
  | call o next ih => exact fun ans s' hstep => ih ans (h ans s' hstep)

/-- The second half starts from what the first may return, in the state it leaves. -/
theorem always_bind {f : α → Prog I ε β} {Q : Except ε β → S → Prop} :
    (p >>= f).Always M Q s ↔ p.Always M (fun r s =>
      match r with
      | .ok a => (f a).Always M Q s
      | .error e => Q (.error e) s) s := by
  rw [bind_eq]
  induction p generalizing s with
  | ret a => exact Iff.rfl
  | fail e => exact Iff.rfl
  | spin => exact Iff.rfl
  | call o next ih =>
    exact forall_congr' fun ans => forall_congr' fun s' => imp_congr_right fun _ => ih ans

/-- Nothing is asked. -/
theorem ensures_trivial (p : Prog I ε α) (s : S) :
    p.Ensures M (fun _ _ => True) s := by
  induction p generalizing s with
  | ret a => trivial
  | fail e => trivial
  | spin => trivial
  | call o next ih => exact fun ans s' _ => ih ans s'

namespace Ensures

variable {Q : α → S → Prop} {R : β → S → Prop}

theorem ends (h : p.Ensures M Q s) {a : α} {s' : S} (hends : Ends M p s (.ok a) s') : Q a s' :=
  Always.ends h hends

theorem mono {Q' : α → S → Prop} (h : p.Ensures M Q s) (hQ : ∀ a s, Q a s → Q' a s) :
    p.Ensures M Q' s := by
  refine Always.mono h fun r s hr => ?_
  cases r with
  | ok a => exact hQ a s hr
  | error e => trivial

theorem ret {a : α} (h : Q a s) : (.ret a : Prog I ε α).Ensures M Q s := h

theorem fail {e : ε} : (.fail e : Prog I ε α).Ensures M Q s := trivial

theorem seq {f : α → Prog I ε β} (h : p.Ensures M Q s)
    (hf : ∀ a s', Q a s' → (f a).Ensures M R s') : (p >>= f).Ensures M R s := by
  refine always_bind.mpr (Always.mono h fun r s' hr => ?_)
  cases r with
  | ok a => exact hf a s' hr
  | error e => trivial

theorem call {o : I.Op} {f : I.Ans o → Prog I ε β}
    (hf : ∀ ans s', M s o ans s' → (f ans).Ensures M R s') : (op o >>= f).Ensures M R s := hf

theorem op {o : I.Op} {Q : I.Ans o → S → Prop} (h : ∀ ans s', M s o ans s' → Q ans s') :
    (Prog.op o : Prog I ε (I.Ans o)).Ensures M Q s := h

theorem attempt {Q : Except ε α → S → Prop} (h : p.Always M Q s) :
    (p.attempt : Prog I δ (Except ε α)).Ensures M Q s := by
  induction p generalizing s with
  | ret a => exact h
  | fail e => exact h
  | spin => trivial
  | call o next ih => exact fun ans s' hstep => ih ans (h ans s' hstep)

/-- The clean-up runs after a value and after a failure. -/
theorem withCleanup {cleanup : Prog I ε Unit} (h : p.Ensures M Q s) {R : α → S → Prop}
    (hcleanup : ∀ a s', Q a s' → cleanup.Ensures M (fun _ => R a) s') :
    (p.withCleanup cleanup).Ensures M R s := by
  unfold Prog.withCleanup
  refine seq (attempt h) fun x s' hx => ?_
  cases x with
  | ok a => exact seq (hcleanup a s' hx) fun _ s'' hR => hR
  | error e =>
    refine seq (Q := fun _ _ => True) (ensures_trivial cleanup s') fun _ _ _ => fail

end Ensures

/-! ## Runs against a kernel -/

/-- The answer to every call is computed from the state, where there is one. -/
abbrev Kernel (I : Interface) (S : Type) := S → (o : I.Op) → Option (I.Ans o × S)

/-- The kernel answers as the machine does, in the states that it keeps to. -/
def Kernel.Within (f : Kernel I S) (M : Machine I S) (J : S → Prop) : Prop :=
  ∀ s o ans s', J s → f s o = some (ans, s') → M s o ans s' ∧ J s'

/-- A kernel that answers every call as the machine may keeps to every state. -/
theorem Kernel.Within.of_total {f : S → (o : I.Op) → I.Ans o × S}
    (hf : ∀ s o, M s o (f s o).1 (f s o).2) :
    Kernel.Within (fun s o => some (f s o)) M fun _ => True := by
  rintro s o ans s' - h
  obtain ⟨rfl, rfl⟩ := Prod.mk.inj (Option.some.inj h)
  exact ⟨hf s o, trivial⟩

/-- The run against a kernel; none where it never returns or a call is not answered. -/
def drive (f : Kernel I S) : Prog I ε α → S → Option (Except ε α × S)
  | .ret a, s => some (.ok a, s)
  | .fail e, s => some (.error e, s)
  | .spin, _ => none
  | .call o next, s => (f s o).bind fun (ans, s') => (next ans).drive f s'

/-- What the run against a kernel comes to is an end in the machine. -/
theorem drive_ends {f : Kernel I S} {J : S → Prop} (hf : f.Within M J) {r : Except ε α} {s' : S}
    (h : p.drive f s = some (r, s')) (hs : J s) : Ends M p s r s' := by
  induction p generalizing s with
  | ret a =>
    obtain ⟨rfl, rfl⟩ := Prod.mk.inj (Option.some.inj h)
    exact .ret a s
  | fail e =>
    obtain ⟨rfl, rfl⟩ := Prod.mk.inj (Option.some.inj h)
    exact .fail e s
  | spin => cases h
  | call o next ih =>
    obtain ⟨⟨ans, s₁⟩, hans, hrest⟩ := Option.bind_eq_some_iff.mp h
    obtain ⟨hstep, hs₁⟩ := hf _ _ _ _ hs hans
    exact .call hstep (ih _ hrest hs₁)

/-- What a run that returns a value leaves behind, as far as `g` looks at it. -/
theorem drive_ok {f : Kernel I S} {J : S → Prop} (hf : f.Within M J) {g : α → S → β} {x : β}
    (h : ((p.drive f s).bind fun (r, s') => r.toOption.map fun a => g a s') = some x) (hs : J s) :
    ∃ a s', Ends M p s (.ok a) s' ∧ g a s' = x := by
  obtain ⟨⟨r, s'⟩, hdrive, hresult⟩ := Option.bind_eq_some_iff.mp h
  cases r with
  | error e => cases hresult
  | ok a => exact ⟨a, s', drive_ends hf hdrive hs, Option.some.inj hresult⟩

/-! ## Steps -/

/-- Some run of the program takes this step. -/
inductive Takes (M : Machine I S) : Prog I ε α → S → S → (o : I.Op) → I.Ans o → S → Prop where
  | head {o : I.Op} {next : I.Ans o → Prog I ε α} {ans : I.Ans o} {s s' : S}
    (step : M s o ans s') : Takes M (.call o next) s s o ans s'
  | tail {o o' : I.Op} {next : I.Ans o → Prog I ε α} {ans : I.Ans o} {ans' : I.Ans o'}
    {s s' s₁ s₂ : S} (step : M s o ans s') (rest : Takes M (next ans) s' s₁ o' ans' s₂) :
    Takes M (.call o next) s s₁ o' ans' s₂

/-- The machine gives these answers to these calls. -/
inductive Path (M : Machine I S) : S → List (Event I) → S → Prop where
  | nil (s : S) : Path M s [] s
  | cons {o : I.Op} {ans : I.Ans o} {s s' s'' : S} {t : List (Event I)} (step : M s o ans s')
    (rest : Path M s' t s'') : Path M s (⟨o, ans⟩ :: t) s''

/-- Every call of a path is answered in a state that keeps the invariant. -/
theorem Path.invariant {J : S → Prop} {t : List (Event I)} {s' : S} (h : Path M s t s')
    (hstep : ∀ s o ans s', J s → M s o ans s' → J s') (hs : J s) :
    ∀ e ∈ t, ∃ before after, J before ∧ M before e.op e.ans after := by
  induction h with
  | nil s => exact fun e he => absurd he List.not_mem_nil
  | cons step rest ih =>
    intro e he
    rcases List.mem_cons.mp he with rfl | he
    · exact ⟨_, _, hs, step⟩
    · exact ih (hstep _ _ _ _ hs step) e he

/-- The steps of that run: the state before, the call with its answer, the state after. -/
def driveSteps (f : Kernel I S) : Prog I ε α → S → List (S × Event I × S)
  | .call o next, s =>
    match f s o with
    | some (ans, s') => (s, ⟨o, ans⟩, s') :: (next ans).driveSteps f s'
    | none => []
  | _, _ => []

/-- Every step of the run against a kernel is a step that the program takes in the machine. -/
theorem driveSteps_takes {f : Kernel I S} {J : S → Prop} (hf : f.Within M J) (hs : J s)
    {step : S × Event I × S} (h : step ∈ p.driveSteps f s) :
    Takes M p s step.1 step.2.1.op step.2.1.ans step.2.2 := by
  induction p generalizing s with
  | ret a => cases h
  | fail e => cases h
  | spin => cases h
  | call o next ih =>
    unfold driveSteps at h
    split at h
    case h_1 ans s₁ hans =>
      obtain ⟨hstep, hs₁⟩ := hf _ _ _ _ hs hans
      rcases List.mem_cons.mp h with rfl | hrest
      · exact .head hstep
      · exact .tail hstep (ih ans hs₁ hrest)
    case h_2 => cases h

/-- Every step meets `ok`, and every result and the state it is returned in meet `Q`. -/
def Safely (M : Machine I S) (ok : S → (o : I.Op) → I.Ans o → S → Prop)
    (Q : Except ε α → S → Prop) : Prog I ε α → S → Prop
  | .ret a, s => Q (.ok a) s
  | .fail e, s => Q (.error e) s
  | .spin, _ => True
  | .call o next, s => ∀ ans s', M s o ans s' → ok s o ans s' ∧ (next ans).Safely M ok Q s'

/-- Where the first half has returned, the steps of the second are steps of the sequence. -/
theorem Takes.later {f : α → Prog I ε β} {a : α} {s' s₁ s₂ : S} {o : I.Op} {ans : I.Ans o}
    (hends : Ends M p s (.ok a) s') (h : Takes M (f a) s' s₁ o ans s₂) :
    Takes M (p >>= f) s s₁ o ans s₂ := by
  rw [bind_eq]
  generalize hr : (Except.ok a : Except ε α) = r at hends
  induction hends with
  | ret b s =>
    obtain rfl := Except.ok.inj hr
    exact h
  | fail e s => cases hr
  | call step rest ih => exact .tail step (ih h hr)

/-- A program whose calls a state answers by a snapshot ends with what the snapshot says. -/
theorem ends_of_eval {snapshot : (o : I.Op) → I.Ans o} {P : I.Op → Prop} {R : Except ε α → Prop}
    {x : Except ε α} (h : p.Satisfies P R) (hstep : ∀ o, P o → M s o (snapshot o) s)
    (heval : p.eval snapshot = some x) : Ends M p s x s := by
  induction p with
  | ret a =>
    obtain rfl := Option.some.inj heval
    exact .ret a s
  | fail e =>
    obtain rfl := Option.some.inj heval
    exact .fail e s
  | spin => cases heval
  | call o next ih => exact .call (hstep o h.1) (ih _ (h.2 _) heval)

namespace Safely

variable {ok : S → (o : I.Op) → I.Ans o → S → Prop} {Q : Except ε α → S → Prop}

/-- Soundness: every step of every run. -/
theorem takes (h : p.Safely M ok Q s) {s₁ s₂ : S} {o : I.Op} {ans : I.Ans o}
    (hstep : Takes M p s s₁ o ans s₂) : ok s₁ o ans s₂ := by
  induction hstep with
  | head step => exact (h _ _ step).1
  | tail step rest ih => exact ih (h _ _ step).2

theorem mono {R : Except ε α → S → Prop} (h : p.Safely M ok Q s) (hQ : ∀ r s, Q r s → R r s) :
    p.Safely M ok R s := by
  induction p generalizing s with
  | ret a => exact hQ _ _ h
  | fail e => exact hQ _ _ h
  | spin => trivial
  | call o next ih =>
    intro ans s' hstep
    obtain ⟨hok, hnext⟩ := h ans s' hstep
    exact ⟨hok, ih ans hnext⟩

theorem ends (h : p.Safely M ok Q s) {r : Except ε α} {s' : S} (hends : Ends M p s r s') :
    Q r s' := by
  induction hends with
  | ret a s => exact h
  | fail e s => exact h
  | call step rest ih => exact ih (h _ _ step).2

/-- The rule of sequence, for the values and for the failures of the first half. -/
theorem bind {f : α → Prog I ε β} {R : Except ε β → S → Prop} (h : p.Safely M ok Q s)
    (hf : ∀ a s', Q (.ok a) s' → (f a).Safely M ok R s')
    (he : ∀ e s', Q (.error e) s' → R (.error e) s') : (p >>= f).Safely M ok R s := by
  rw [bind_eq]
  induction p generalizing s with
  | ret a => exact hf a s h
  | fail e => exact he e s h
  | spin => trivial
  | call o next ih =>
    intro ans s' hstep
    obtain ⟨hok, hnext⟩ := h ans s' hstep
    exact ⟨hok, ih ans hnext⟩

/-- What comes after a value. Of a failure nothing is asked. -/
theorem seq {f : α → Prog I ε β} {Q : α → S → Prop} {R : β → S → Prop}
    (h : p.Safely M ok (onOk Q) s) (hf : ∀ a s', Q a s' → (f a).Safely M ok (onOk R) s') :
    (p >>= f).Safely M ok (onOk R) s := by
  rw [bind_eq]
  induction p generalizing s with
  | ret a => exact hf a s h
  | fail e => trivial
  | spin => trivial
  | call o next ih =>
    intro ans s' hstep
    obtain ⟨hok, hnext⟩ := h ans s' hstep
    exact ⟨hok, ih ans hnext⟩

theorem call {o : I.Op} {f : I.Ans o → Prog I ε β} {R : Except ε β → S → Prop}
    (hf : ∀ ans s', M s o ans s' → ok s o ans s' ∧ (f ans).Safely M ok R s') :
    (op o >>= f).Safely M ok R s := hf

/-- A program that is known by its calls alone, and an invariant of them. -/
theorem of_satisfies {P : I.Op → Prop} {J : S → Prop} {R : Except ε α → Prop}
    (h : p.Satisfies P R)
    (hstep : ∀ s o ans s', J s → P o → M s o ans s' → ok s o ans s' ∧ J s') (hs : J s) :
    p.Safely M ok (fun r s' => R r ∧ J s') s := by
  induction p generalizing s with
  | ret a => exact ⟨h, hs⟩
  | fail e => exact ⟨h, hs⟩
  | spin => trivial
  | call o next ih =>
    intro ans s' hM
    obtain ⟨hok, hs'⟩ := hstep s o ans s' hs h.1 hM
    exact ⟨hok, ih ans (h.2 ans) hs'⟩

/-- A program whose calls a state answers by a snapshot, and by nothing else. -/
theorem of_eval {snapshot : (o : I.Op) → I.Ans o} {P : I.Op → Prop} {R : Except ε α → Prop}
    {x : Except ε α} (h : p.Satisfies P R)
    (hstep : ∀ o ans s', P o → M s o ans s' → ok s o ans s' ∧ ans = snapshot o ∧ s' = s)
    (heval : p.eval snapshot = some x) : p.Safely M ok (fun r s' => r = x ∧ s' = s) s := by
  induction p with
  | ret a => exact ⟨Option.some.inj heval, rfl⟩
  | fail e => exact ⟨Option.some.inj heval, rfl⟩
  | spin => trivial
  | call o next ih =>
    intro ans s' hM
    obtain ⟨hok, rfl, rfl⟩ := hstep o ans s' h.1 hM
    exact ⟨hok, ih _ (h.2 _) heval⟩

end Safely

/-! ## Programs that end -/

/-- Every run ends: every step meets `ok`, and every result and the state it is returned in meet
`Q`. -/
def Surely (M : Machine I S) (ok : S → (o : I.Op) → I.Ans o → S → Prop)
    (Q : Except ε α → S → Prop) : Prog I ε α → S → Prop
  | .ret a, s => Q (.ok a) s
  | .fail e, s => Q (.error e) s
  | .spin, _ => False
  | .call o next, s => ∀ ans s', M s o ans s' → ok s o ans s' ∧ (next ans).Surely M ok Q s'

/-- Every answer leaves the program somewhere from which it goes on to end. -/
theorem Total.surely {P : I.Op → Prop} {ok : S → (o : I.Op) → I.Ans o → S → Prop}
    (h : p.Total) (hops : p.Satisfies P fun _ => True)
    (hstep : ∀ o ans s', P o → M s o ans s' → ok s o ans s' ∧ s' = s) :
    p.Surely M ok (fun r s' => Returns r ∧ s' = s) s := by
  induction p with
  | ret a => exact ⟨⟨a, rfl⟩, rfl⟩
  | fail e => exact h.elim
  | spin => exact h.elim
  | call o next ih =>
    intro ans s' hM
    obtain ⟨hok, rfl⟩ := hstep o ans s' hops.1 hM
    exact ⟨hok, ih ans (h ans) (hops.2 ans)⟩

namespace Surely

variable {ok : S → (o : I.Op) → I.Ans o → S → Prop} {Q : Except ε α → S → Prop}

/-- Forgetting that the program always comes to an end. -/
theorem safely (h : p.Surely M ok Q s) : p.Safely M ok Q s := by
  induction p generalizing s with
  | ret a => exact h
  | fail e => exact h
  | spin => trivial
  | call o next ih =>
    intro ans s' hstep
    obtain ⟨hok, hnext⟩ := h ans s' hstep
    exact ⟨hok, ih ans hnext⟩

theorem ends (h : p.Surely M ok Q s) {r : Except ε α} {s' : S} (hends : Ends M p s r s') :
    Q r s' := by
  induction hends with
  | ret a s => exact h
  | fail e s => exact h
  | call step rest ih => exact ih (h _ _ step).2

theorem mono {R : Except ε α → S → Prop} (h : p.Surely M ok Q s) (hQ : ∀ r s, Q r s → R r s) :
    p.Surely M ok R s := by
  induction p generalizing s with
  | ret a => exact hQ _ _ h
  | fail e => exact hQ _ _ h
  | spin => exact h
  | call o next ih =>
    intro ans s' hstep
    obtain ⟨hok, hnext⟩ := h ans s' hstep
    exact ⟨hok, ih ans hnext⟩

theorem bind {f : α → Prog I ε β} {R : Except ε β → S → Prop} (h : p.Surely M ok Q s)
    (hf : ∀ a s', Q (.ok a) s' → (f a).Surely M ok R s')
    (he : ∀ e s', Q (.error e) s' → R (.error e) s') : (p >>= f).Surely M ok R s := by
  rw [bind_eq]
  induction p generalizing s with
  | ret a => exact hf a s h
  | fail e => exact he e s h
  | spin => exact h
  | call o next ih =>
    intro ans s' hstep
    obtain ⟨hok, hnext⟩ := h ans s' hstep
    exact ⟨hok, ih ans hnext⟩

theorem call {o : I.Op} {f : I.Ans o → Prog I ε β} {R : Except ε β → S → Prop}
    (hf : ∀ ans s', M s o ans s' → ok s o ans s' ∧ (f ans).Surely M ok R s') :
    (op o >>= f).Surely M ok R s := hf

/-- What comes after a text that is only put together. -/
theorem of_total {P : I.Op → Prop} {f : α → Prog I ε β} {R : Except ε β → S → Prop}
    (h : p.Total) (hops : p.Satisfies P fun _ => True)
    (hstep : ∀ o ans s', P o → M s o ans s' → ok s o ans s' ∧ s' = s)
    (hf : ∀ a, (f a).Surely M ok R s) : (p >>= f).Surely M ok R s := by
  refine bind (h.surely hops hstep) ?_ ?_
  · rintro a s' ⟨_, rfl⟩
    exact hf a
  · rintro e s' ⟨⟨a, ha⟩, _⟩
    cases ha

/-- Where each operation is implemented by a program that ends with an answer the machine gives, what
holds of a program holds of it implemented. -/
theorem implement {J : Interface} {T : Type} {N : Machine J T}
    {okJ : T → (o : J.Op) → J.Ans o → T → Prop} {f : (o : I.Op) → Prog J ε (I.Ans o)}
    (Related : S → T → Prop)
    (hstep : ∀ o s t, Related s t → (∀ ans s', M s o ans s' → ok s o ans s') →
      (f o).Surely N okJ (fun r t' => ∃ ans s', r = .ok ans ∧ M s o ans s' ∧ Related s' t') t)
    (h : p.Surely M ok Q s) {t : T} (hrelated : Related s t) :
    (p.implement f).Surely N okJ (fun r t' => ∃ s', Q r s' ∧ Related s' t') t := by
  induction p generalizing s t with
  | ret a => exact ⟨s, h, hrelated⟩
  | fail e => exact ⟨s, h, hrelated⟩
  | spin => exact h.elim
  | call o next ih =>
    refine bind (hstep o s t hrelated fun ans s' hM => (h ans s' hM).1) ?_ ?_
    · rintro ans t' ⟨_, s', hans, hM, hrelated'⟩
      obtain rfl := Except.ok.inj hans
      exact ih ans (h ans s' hM).2 hrelated'
    · rintro e t' ⟨_, _, he, _⟩
      cases he

/-- What the steps of the runs meet as well, and what they keep. -/
theorem also {ok' : S → (o : I.Op) → I.Ans o → S → Prop} {R : Except ε α → S → Prop}
    (h : p.Surely M ok Q s) (hsafe : p.Safely M ok' R s) :
    p.Surely M ok' (fun r s' => Q r s' ∧ R r s') s := by
  induction p generalizing s with
  | ret a => exact ⟨h, hsafe⟩
  | fail e => exact ⟨h, hsafe⟩
  | spin => exact h.elim
  | call o next ih =>
    intro ans s' hstep
    obtain ⟨hok, hnext⟩ := hsafe ans s' hstep
    exact ⟨hok, ih ans (h ans s' hstep).2 hnext⟩

/-- What every step keeps holds at the end. -/
theorem keeps {J : S → Prop} (h : p.Surely M ok Q s)
    (hstep : ∀ s o ans s', J s → M s o ans s' → J s') (hs : J s) :
    p.Surely M ok (fun r s' => Q r s' ∧ J s') s := by
  induction p generalizing s with
  | ret a => exact ⟨h, hs⟩
  | fail e => exact ⟨h, hs⟩
  | spin => exact h.elim
  | call o next ih =>
    intro ans s' hM
    obtain ⟨hok, hnext⟩ := h ans s' hM
    exact ⟨hok, ih ans hnext (hstep s o ans s' hs hM)⟩

theorem weaken (h : p.Surely M ok Q s) : p.Surely M (fun _ _ _ _ => True) Q s := by
  induction p generalizing s with
  | ret a => exact h
  | fail e => exact h
  | spin => exact h
  | call o next ih => exact fun ans s' hstep => ⟨True.intro, ih ans (h ans s' hstep).2⟩

/-- The run that led to a result. -/
theorem traced (h : p.Surely M ok Q s) : p.Surely M ok
    (fun r s' => Q r s' ∧ ∃ t, Runs p t (some r) ∧ Path M s t s') s := by
  induction p generalizing s with
  | ret a => exact ⟨h, [], .ret a, .nil s⟩
  | fail e => exact ⟨h, [], .fail e, .nil s⟩
  | spin => exact h.elim
  | call o next ih =>
    intro ans s' hstep
    obtain ⟨hok, hnext⟩ := h ans s' hstep
    refine ⟨hok, (ih ans hnext).mono ?_⟩
    rintro r s'' ⟨hQ, t, hrun, hpath⟩
    exact ⟨hQ, _, .call hrun, .cons hstep hpath⟩

/-- What holds under a machine holds under one that it simulates the steps of. -/
theorem refine {T : Type} {N : Machine I T} {okN : T → (o : I.Op) → I.Ans o → T → Prop}
    (Related : S → T → Prop) {P : I.Op → Prop} {R : Except ε α → Prop}
    (hstep : ∀ o s t ans t', P o → Related s t → N t o ans t' →
      ∃ s', M s o ans s' ∧ (ok s o ans s' → okN t o ans t') ∧ Related s' t')
    (h : p.Surely M ok Q s) (hops : p.Satisfies P R) {t : T} (hrelated : Related s t) :
    p.Surely N okN (fun r t' => ∃ s', Q r s' ∧ Related s' t') t := by
  induction p generalizing s t with
  | ret a => exact ⟨s, h, hrelated⟩
  | fail e => exact ⟨s, h, hrelated⟩
  | spin => exact h.elim
  | call o next ih =>
    intro ans t' hN
    obtain ⟨s', hM, hok, hrelated'⟩ := hstep o s t ans t' hops.1 hrelated hN
    obtain ⟨hmet, hnext⟩ := h ans s' hM
    exact ⟨hok hmet, ih ans hnext (hops.2 ans) hrelated'⟩

/-- The outcome is handed over, failures included. -/
theorem attempt (h : p.Surely M ok Q s) : (p.attempt : Prog I δ (Except ε α)).Surely M ok
    (fun r s' => ∃ x, r = .ok x ∧ Q x s') s := by
  induction p generalizing s with
  | ret a => exact ⟨_, rfl, h⟩
  | fail e => exact ⟨_, rfl, h⟩
  | spin => exact h.elim
  | call o next ih =>
    intro ans s' hstep
    obtain ⟨hok, hnext⟩ := h ans s' hstep
    exact ⟨hok, ih ans hnext⟩

/-- Destructors run whatever the result is. -/
theorem withCleanup {cleanup : Prog I ε Unit} {R : Except ε α → S → Prop}
    (h : p.Surely M ok Q s)
    (hcleanup : ∀ r s', Q r s' → cleanup.Surely M ok (fun c s'' => c = .ok () ∧ R r s'') s') :
    (p.withCleanup cleanup).Surely M ok R s := by
  refine bind h.attempt ?_ ?_
  · rintro r s' ⟨x, hx, hQ⟩
    obtain rfl := Except.ok.inj hx
    refine bind (hcleanup _ _ hQ) ?_ ?_
    · rintro _ s'' ⟨_, hR⟩
      cases r with
      | ok a => exact hR
      | error e => exact hR
    · rintro _ s'' ⟨he, _⟩
      cases he
  · rintro _ s' ⟨x, hx, _⟩
    cases hx

end Surely

/-- Every run ends, and every call on the way meets `P`. -/
def Ending (P : I.Op → Prop) : Prog I ε α → Prop
  | .ret _ => True
  | .fail _ => True
  | .spin => False
  | .call o next => P o ∧ ∀ ans, (next ans).Ending P

namespace Ending

variable {P P' : I.Op → Prop}

theorem mono (h : p.Ending P) (hP : ∀ o, P o → P' o) : p.Ending P' := by
  induction p with
  | ret a => trivial
  | fail e => trivial
  | spin => exact h.elim
  | call o next ih => exact ⟨hP o h.1, fun ans => ih ans (h.2 ans)⟩

theorem ret (a : α) : (.ret a : Prog I ε α).Ending P := trivial

theorem fail (e : ε) : (.fail e : Prog I ε α).Ending P := trivial

theorem ofExcept (r : Except ε α) : (Prog.ofExcept r : Prog I ε α).Ending P := by
  cases r <;> trivial

theorem op {o : I.Op} (hP : P o) : (Prog.op o : Prog I ε (I.Ans o)).Ending P :=
  ⟨hP, fun _ => trivial⟩

theorem seq {f : α → Prog I ε β} (h : p.Ending P) (hf : ∀ a, (f a).Ending P) :
    (p >>= f).Ending P := by
  rw [bind_eq]
  induction p with
  | ret a => exact hf a
  | fail e => trivial
  | spin => exact h.elim
  | call o next ih => exact ⟨h.1, fun ans => ih ans (h.2 ans)⟩

/-- What comes after a value, of which more is known. -/
theorem seq_of {R : Except ε α → Prop} {f : α → Prog I ε β} (h : p.Ending P)
    (hvalues : p.Satisfies P' R) (hf : ∀ a, R (.ok a) → (f a).Ending P) : (p >>= f).Ending P := by
  rw [bind_eq]
  induction p with
  | ret a => exact hf a hvalues
  | fail e => trivial
  | spin => exact h.elim
  | call o next ih => exact ⟨h.1, fun ans => ih ans (h.2 ans) (hvalues.2 ans)⟩

theorem call {o : I.Op} {f : I.Ans o → Prog I ε β} (hP : P o) (hf : ∀ ans, (f ans).Ending P) :
    (Prog.op o >>= f).Ending P :=
  ⟨hP, hf⟩

theorem attempt (h : p.Ending P) : (p.attempt : Prog I δ (Except ε α)).Ending P := by
  induction p with
  | ret a => trivial
  | fail e => trivial
  | spin => exact h.elim
  | call o next ih => exact ⟨h.1, fun ans => ih ans (h.2 ans)⟩

theorem withCleanup {cleanup : Prog I ε Unit} (h : p.Ending P) (hcleanup : cleanup.Ending P) :
    (p.withCleanup cleanup).Ending P :=
  seq h.attempt fun outcome => seq hcleanup fun _ => ofExcept outcome

theorem of_total {R : Except ε α → Prop} (h : p.Total) (hops : p.Satisfies P R) : p.Ending P := by
  induction p with
  | ret a => trivial
  | fail e => trivial
  | spin => exact h.elim
  | call o next ih => exact ⟨hops.1, fun ans => ih ans (h ans) (hops.2 ans)⟩

theorem satisfies (h : p.Ending P) : p.Satisfies P fun _ => True := by
  induction p with
  | ret a => trivial
  | fail e => trivial
  | spin => exact h.elim
  | call o next ih => exact ⟨h.1, fun ans => ih ans (h.2 ans)⟩

/-- An invariant of the steps that the calls can take. -/
theorem surely {ok : S → (o : I.Op) → I.Ans o → S → Prop} {J : S → Prop} (h : p.Ending P)
    (hstep : ∀ s o ans s', J s → P o → M s o ans s' → ok s o ans s' ∧ J s') (hs : J s) :
    p.Surely M ok (fun _ s' => J s') s := by
  induction p generalizing s with
  | ret a => exact hs
  | fail e => exact hs
  | spin => exact h.elim
  | call o next ih =>
    intro ans s' hM
    obtain ⟨hok, hs'⟩ := hstep s o ans s' hs h.1 hM
    exact ⟨hok, ih ans (h.2 ans) hs'⟩

end Ending

end UsbRestore.Prog
