-- SUMMARY: Programs that call operations of an interface: runs, weakest preconditions, handlers.
import Mathlib.Data.List.Basic
import Mathlib.Tactic.Basic

/-!
# Interaction programs

A program calls operations of an interface and may be given any answer to each call. Its
runs are prefix closed, so that a process that dies anywhere is a run as well. `spin`
stands for a loop that has used up its fuel: it makes no further call and never returns.

`wp` is the weakest precondition over the history of calls. Its first argument is an
obligation on every call, which may look at everything that came before it.
-/

namespace UsbRestore

structure Interface where
  Op : Type
  Ans : Op → Type

/-- A call with the answer it was given. -/
structure Event (I : Interface) where
  op : I.Op
  ans : I.Ans op

inductive Prog (I : Interface) (ε α : Type) where
  | ret (a : α)
  | fail (e : ε)
  | spin
  | call (op : I.Op) (next : I.Ans op → Prog I ε α)

namespace Prog

variable {I J : Interface} {ε δ α β S : Type}

def bind : Prog I ε α → (α → Prog I ε β) → Prog I ε β
  | .ret a, f => f a
  | .fail e, _ => .fail e
  | .spin, _ => .spin
  | .call op next, f => .call op fun ans => (next ans).bind f

instance : Monad (Prog I ε) where
  pure := .ret
  bind := bind

/-- One call. -/
def op (o : I.Op) : Prog I ε (I.Ans o) := .call o .ret

def ofExcept : Except ε α → Prog I ε α
  | .ok a => .ret a
  | .error e => .fail e

/-- Run a program and hand over its outcome, failures included. -/
def attempt : Prog I ε α → Prog I δ (Except ε α)
  | .ret a => .ret (.ok a)
  | .fail e => .ret (.error e)
  | .spin => .spin
  | .call o next => .call o fun ans => (next ans).attempt

/-- Run the destructors at the end of a scope, whatever way it is left. -/
def withCleanup (p : Prog I ε α) (cleanup : Prog I ε Unit) : Prog I ε α := do
  let outcome ← p.attempt
  cleanup
  ofExcept outcome

@[simp] theorem bind_eq (p : Prog I ε α) (f : α → Prog I ε β) : (p >>= f) = p.bind f := rfl

@[simp] theorem call_bind (o : I.Op) (next : I.Ans o → Prog I ε α) (f : α → Prog I ε β) :
    (Prog.call o next).bind f = .call o fun ans => (next ans).bind f := rfl

/-- Three programs in sequence, grouped either way. -/
theorem bind_assoc {γ : Type} (p : Prog I ε α) (f : α → Prog I ε β) (g : β → Prog I ε γ) :
    (p >>= f) >>= g = p >>= fun a => f a >>= g := by
  simp only [bind_eq]
  induction p with
  | ret a => rfl
  | fail e => rfl
  | spin => rfl
  | call o next ih =>
    simp only [call_bind]
    congr 1
    funext ans
    exact ih ans

/-! ## Runs -/

/-- `Runs p t r`: `p` can make the calls `t` in this order, with these answers, and has then
returned `r`, or has not returned when `r` is `none`. -/
inductive Runs : Prog I ε α → List (Event I) → Option (Except ε α) → Prop where
  | stop (p : Prog I ε α) : Runs p [] none
  | ret (a : α) : Runs (.ret a) [] (some (.ok a))
  | fail (e : ε) : Runs (.fail e) [] (some (.error e))
  | call {o : I.Op} {next : I.Ans o → Prog I ε α} {ans : I.Ans o} {t : List (Event I)}
      {r : Option (Except ε α)} (rest : Runs (next ans) t r) :
      Runs (.call o next) (⟨o, ans⟩ :: t) r

/-- The run of a program against an environment that answers by the number of the call. -/
def execute (answer : Nat → (o : I.Op) → I.Ans o) :
    Prog I ε α → Nat → List (Event I) × Option (Except ε α)
  | .ret a, _ => ([], some (.ok a))
  | .fail e, _ => ([], some (.error e))
  | .spin, _ => ([], none)
  | .call o next, n =>
    let rest := (next (answer n o)).execute answer (n + 1)
    (⟨o, answer n o⟩ :: rest.1, rest.2)

/-- Running a program against numbered answers gives one of its runs. -/
theorem execute_runs (answer : Nat → (o : I.Op) → I.Ans o) (p : Prog I ε α) (n : Nat) :
    Runs p (p.execute answer n).1 (p.execute answer n).2 := by
  induction p generalizing n with
  | ret a => exact .ret a
  | fail e => exact .fail e
  | spin => exact .stop _
  | call o next ih => exact .call (ih _ _)

namespace Runs

variable {p : Prog I ε α} {f : α → Prog I ε β} {t : List (Event I)}

theorem ret_ok {a b : α} (h : Runs (.ret a : Prog I ε α) t (some (.ok b))) : t = [] ∧ a = b := by
  cases h
  exact ⟨rfl, rfl⟩

theorem not_fail_ok {e : ε} {a : α} (h : Runs (.fail e : Prog I ε α) t (some (.ok a))) :
    False := by
  cases h

theorem op_ok {o : I.Op} {ans : I.Ans o}
    (h : Runs (op o : Prog I ε (I.Ans o)) t (some (.ok ans))) : t = [⟨o, ans⟩] := by
  cases h with
  | call rest =>
    cases rest
    rfl

theorem ofExcept_ok {r : Except ε α} {a : α} (h : Runs (ofExcept r) t (some (.ok a))) :
    t = [] ∧ r = .ok a := by
  cases r with
  | ok b =>
    obtain ⟨rfl, rfl⟩ := ret_ok h
    exact ⟨rfl, rfl⟩
  | error e => cases h

/-- A run of a sequence that returned is a run of each half. -/
theorem bind_ok {b : β} (h : Runs (p >>= f) t (some (.ok b))) :
    ∃ first rest a, t = first ++ rest ∧ Runs p first (some (.ok a)) ∧
      Runs (f a) rest (some (.ok b)) := by
  rw [bind_eq] at h
  induction p generalizing t with
  | ret a => exact ⟨[], t, a, rfl, .ret a, h⟩
  | fail e => cases h
  | spin => cases h
  | call o next ih =>
    cases h with
    | call hnext =>
      obtain ⟨first, rest, a, rfl, hfirst, hrest⟩ := ih _ hnext
      exact ⟨_, rest, a, rfl, .call hfirst, hrest⟩

/-- Where the first half has returned, a run of a sequence goes on as the second. -/
theorem bind_append_iff {t' : List (Event I)} {a : α} {r : Option (Except ε β)}
    (h : Runs p t (some (.ok a))) : Runs (p >>= f) (t ++ t') r ↔ Runs (f a) t' r := by
  rw [bind_eq]
  induction p generalizing t with
  | ret b =>
    obtain ⟨rfl, rfl⟩ := ret_ok h
    exact Iff.rfl
  | fail e => cases h
  | spin => cases h
  | call o next ih =>
    cases h with
    | call rest =>
      rw [← ih _ rest]
      constructor
      · intro hcall
        cases hcall with
        | call hnext => exact hnext
      · intro hnext
        exact .call hnext

/-- A call at the head of a run that returned. -/
theorem call_ok {o : I.Op} {f : I.Ans o → Prog I ε β} {b : β}
    (h : Runs (op o >>= f) t (some (.ok b))) :
    ∃ ans rest, t = ⟨o, ans⟩ :: rest ∧ Runs (f ans) rest (some (.ok b)) := by
  obtain ⟨first, rest, ans, rfl, hfirst, hrest⟩ := bind_ok h
  obtain rfl := op_ok hfirst
  exact ⟨ans, rest, rfl, hrest⟩

end Runs

/-! ## What a program calls and returns -/

/-- The program did not fail. -/
def Returns (r : Except ε α) : Prop := ∃ a, r = .ok a

/-- Every call of the program satisfies `P`, and every result satisfies `Q`. -/
def Satisfies (P : I.Op → Prop) (Q : Except ε α → Prop) : Prog I ε α → Prop
  | .ret a => Q (.ok a)
  | .fail e => Q (.error e)
  | .spin => True
  | .call o next => P o ∧ ∀ ans, (next ans).Satisfies P Q

namespace Satisfies

variable {P P' : I.Op → Prop} {Q Q' : Except ε α → Prop} {p : Prog I ε α}

theorem mono (h : p.Satisfies P Q) (hP : ∀ o, P o → P' o) (hQ : ∀ r, Q r → Q' r) :
    p.Satisfies P' Q' := by
  induction p with
  | ret a => exact hQ _ h
  | fail e => exact hQ _ h
  | spin => trivial
  | call o next ih => exact ⟨hP o h.1, fun ans => ih ans (h.2 ans)⟩

theorem bind {f : α → Prog I ε β} {R : Except ε β → Prop} (h : p.Satisfies P Q)
    (hf : ∀ a, Q (.ok a) → (f a).Satisfies P R) (he : ∀ e, Q (.error e) → R (.error e)) :
    (p.bind f).Satisfies P R := by
  induction p with
  | ret a => exact hf a h
  | fail e => exact he e h
  | spin => trivial
  | call o next ih => exact ⟨h.1, fun ans => ih ans (h.2 ans)⟩

theorem call {o : I.Op} {f : I.Ans o → Prog I ε β} {R : Except ε β → Prop} (hP : P o)
    (hf : ∀ ans, (f ans).Satisfies P R) : (Prog.op o >>= f).Satisfies P R :=
  ⟨hP, hf⟩

/-- A program that cannot fail, and what comes after it. -/
theorem seq {f : α → Prog I ε β} {R : Except ε β → Prop} (h : p.Satisfies P Returns)
    (hf : ∀ a, (f a).Satisfies P R) : (p >>= f).Satisfies P R := by
  refine bind h (fun a _ => hf a) ?_
  rintro e ⟨a, ha⟩
  cases ha

theorem returns (a : α) : (.ret a : Prog I ε α).Satisfies P Returns := ⟨a, rfl⟩

theorem ofExcept {r : Except ε α} (h : Q r) : (Prog.ofExcept r : Prog I ε α).Satisfies P Q := by
  cases r with
  | ok a => exact h
  | error e => exact h

/-- Nothing escapes `attempt`. -/
theorem attempt (h : p.Satisfies P Q) :
    (p.attempt : Prog I δ (Except ε α)).Satisfies P fun r => ∃ x, r = .ok x ∧ Q x := by
  induction p with
  | ret a => exact ⟨_, rfl, h⟩
  | fail e => exact ⟨_, rfl, h⟩
  | spin => trivial
  | call o next ih => exact ⟨h.1, fun ans => ih ans (h.2 ans)⟩

theorem withCleanup {cleanup : Prog I ε Unit} (h : p.Satisfies P Q)
    (hcleanup : cleanup.Satisfies P fun r => r = .ok ()) : (p.withCleanup cleanup).Satisfies P Q := by
  refine bind h.attempt ?_ ?_
  · rintro outcome ⟨x, hx, hQ⟩
    cases hx
    exact bind hcleanup (fun _ _ => ofExcept hQ) (fun _ he => by cases he)
  · rintro e ⟨x, hx, _⟩
    cases hx

/-- Nothing is asked of a program that may do anything. -/
theorem trivial (p : Prog I ε α) : p.Satisfies (fun _ => True) (fun _ => True) := by
  induction p with
  | ret a => exact True.intro
  | fail e => exact True.intro
  | spin => exact True.intro
  | call o next ih => exact ⟨True.intro, ih⟩

/-- What the calls of a program keep within holds of every call of every run. -/
theorem runs (h : p.Satisfies P Q) {t : List (Event I)} {r : Option (Except ε α)}
    (hr : Runs p t r) : (∀ e ∈ t, P e.op) ∧ ∀ x, r = some x → Q x := by
  induction hr with
  | stop p => exact ⟨fun _ h => absurd h List.not_mem_nil, fun _ h => by cases h⟩
  | ret a => exact ⟨fun _ h => absurd h List.not_mem_nil, fun _ hx => by cases hx; exact h⟩
  | fail e => exact ⟨fun _ h => absurd h List.not_mem_nil, fun _ hx => by cases hx; exact h⟩
  | call rest ih =>
    obtain ⟨hops, hres⟩ := ih (h.2 _)
    refine ⟨fun e he => ?_, hres⟩
    rcases List.mem_cons.mp he with rfl | he
    · exact h.1
    · exact hops e he

end Satisfies

/-- What a program can return: the result of one of its runs. -/
def Outcome (p : Prog I ε α) : Type := { r : Except ε α // ∃ t, Runs p t (some r) }

theorem Outcome.satisfies {P : I.Op → Prop} {Q : Except ε α → Prop} {p : Prog I ε α}
    (h : p.Satisfies P Q) (r : p.Outcome) : Q r.1 := by
  obtain ⟨t, hrun⟩ := r.2
  exact (h.runs hrun).2 _ rfl

/-! ## Weakest preconditions -/

section Wp

variable {ok ok' : List (Event I) → Event I → Prop} {Q Q' : Except ε α → List (Event I) → Prop}
  {p : Prog I ε α} {past : List (Event I)}

/-- After the history `past`, every call of the program meets the obligation `ok`, and
every result and final history meet `Q`. -/
def wp (ok : List (Event I) → Event I → Prop) (Q : Except ε α → List (Event I) → Prop) :
    Prog I ε α → List (Event I) → Prop
  | .ret a, past => Q (.ok a) past
  | .fail e, past => Q (.error e) past
  | .spin, _ => True
  | .call o next, past =>
    ∀ ans, ok past ⟨o, ans⟩ ∧ wp ok Q (next ans) (past ++ [⟨o, ans⟩])

@[simp] theorem wp_ret {a : α} : wp ok Q (.ret a) past ↔ Q (.ok a) past := Iff.rfl

@[simp] theorem wp_fail {e : ε} : wp ok Q (.fail e) past ↔ Q (.error e) past := Iff.rfl

/-- A weaker demand on the calls and on the results is met as well. -/
theorem wp_mono (h : wp ok Q p past) (hok : ∀ past e, ok past e → ok' past e)
    (hQ : ∀ r past, Q r past → Q' r past) : wp ok' Q' p past := by
  induction p generalizing past with
  | ret a => exact hQ _ _ h
  | fail e => exact hQ _ _ h
  | spin => trivial
  | call o next ih => exact fun ans => ⟨hok _ _ (h ans).1, ih ans (h ans).2⟩

/-- The rule of sequence: the second half is met by the history that the first leaves. -/
theorem wp_bind {f : α → Prog I ε β} {Q : Except ε β → List (Event I) → Prop} :
    wp ok Q (p.bind f) past ↔ wp ok (fun r past =>
      match r with
      | .ok a => wp ok Q (f a) past
      | .error e => Q (.error e) past) p past := by
  induction p generalizing past with
  | ret a => exact Iff.rfl
  | fail e => exact Iff.rfl
  | spin => exact Iff.rfl
  | call o next ih => exact forall_congr' fun ans => and_congr_right fun _ => ih ans

/-- The rule of a call, for every answer that it may get. -/
theorem wp_bind_op {o : I.Op} {f : I.Ans o → Prog I ε β} {Q : Except ε β → List (Event I) → Prop} :
    wp ok Q (op o >>= f) past ↔
      ∀ ans, ok past ⟨o, ans⟩ ∧ wp ok Q (f ans) (past ++ [⟨o, ans⟩]) :=
  Iff.rfl

theorem wp_ofExcept {r : Except ε α} : wp ok Q (ofExcept r) past ↔ Q r past := by
  cases r with
  | ok a => exact Iff.rfl
  | error e => exact Iff.rfl

/-- A failure that is caught is a result like any other. -/
theorem wp_attempt {Q : Except δ (Except ε α) → List (Event I) → Prop} :
    wp ok Q p.attempt past ↔ wp ok (fun r past => Q (.ok r) past) p past := by
  induction p generalizing past with
  | ret a => exact Iff.rfl
  | fail e => exact Iff.rfl
  | spin => exact Iff.rfl
  | call o next ih => exact forall_congr' fun ans => and_congr_right fun _ => ih ans

/-- The clean-up follows both a value and a failure, and may fail itself. -/
theorem wp_withCleanup {cleanup : Prog I ε Unit}
    (h : wp ok (fun r past => wp ok (fun cleaned past =>
      match cleaned with
      | .ok _ => Q r past
      | .error e => Q (.error e) past) cleanup past) p past) :
    wp ok Q (p.withCleanup cleanup) past := by
  unfold withCleanup
  rw [bind_eq, wp_bind, wp_attempt]
  refine wp_mono h (fun _ _ h => h) fun r past h => ?_
  refine wp_bind.mpr (wp_mono h (fun _ _ h => h) fun cleaned past h => ?_)
  cases cleaned with
  | ok _ => exact wp_ofExcept.mpr h
  | error e => exact h

/-- A program is known by its runs alone: whatever it did is one of them. -/
theorem wp_of_runs {P : I.Op → Prop} {R : Except ε α → Prop} (h : p.Satisfies P R)
    (hok : ∀ t e, (∀ e ∈ t, P (Event.op e)) → P e.op → ok (past ++ t) e)
    (hQ : ∀ t r, Runs p t (some r) → (∀ e ∈ t, P (Event.op e)) → R r → Q r (past ++ t)) :
    wp ok Q p past := by
  induction p generalizing past with
  | ret a => simpa using hQ [] _ (.ret a) (by simp) h
  | fail e => simpa using hQ [] _ (.fail e) (by simp) h
  | spin => trivial
  | call o next ih =>
    intro ans
    have hhead : ok past ⟨o, ans⟩ := by simpa using hok [] ⟨o, ans⟩ (by simp) h.1
    refine ⟨hhead, ih ans (h.2 ans) ?_ ?_⟩
    · intro t e ht he
      have hcons : ∀ e ∈ (⟨o, ans⟩ : Event I) :: t, P e.op := by
        intro e' he'
        rcases List.mem_cons.mp he' with rfl | he'
        · exact h.1
        · exact ht e' he'
      simpa using hok _ e hcons he
    · intro t r hr ht hR
      have hcons : ∀ e ∈ (⟨o, ans⟩ : Event I) :: t, P e.op := by
        intro e' he'
        rcases List.mem_cons.mp he' with rfl | he'
        · exact h.1
        · exact ht e' he'
      simpa using hQ _ r (.call hr) hcons hR

/-- The final history is the one before and a run of the program. -/
theorem wp_with_runs (h : wp ok Q p past) :
    wp ok (fun r past' => Q r past' ∧ ∃ t, past' = past ++ t ∧ Runs p t (some r)) p past := by
  induction p generalizing past with
  | ret a => exact ⟨h, [], (List.append_nil _).symm, .ret a⟩
  | fail e => exact ⟨h, [], (List.append_nil _).symm, .fail e⟩
  | spin => trivial
  | call o next ih =>
    refine fun ans => ⟨(h ans).1, wp_mono (ih ans (h ans).2) (fun _ _ h => h) ?_⟩
    rintro r past' ⟨hQ, t, rfl, hrun⟩
    exact ⟨hQ, ⟨o, ans⟩ :: t, by rw [List.append_assoc]; rfl, .call hrun⟩

/-- Soundness: on every run, every call met its obligation after what came before it, and
a run that returned met the postcondition. -/
theorem wp_sound (h : wp ok Q p past) {t : List (Event I)} {r : Option (Except ε α)}
    (hr : Runs p t r) :
    (∀ before e after, t = before ++ e :: after → ok (past ++ before) e) ∧
      ∀ x, r = some x → Q x (past ++ t) := by
  induction hr generalizing past with
  | stop p => exact ⟨fun _ _ _ ht => by simp at ht, fun _ hx => by cases hx⟩
  | ret a =>
    refine ⟨fun _ _ _ ht => by simp at ht, fun _ hx => ?_⟩
    cases hx
    simpa using h
  | fail e =>
    refine ⟨fun _ _ _ ht => by simp at ht, fun _ hx => ?_⟩
    cases hx
    simpa using h
  | @call o next ans t r rest ih =>
    obtain ⟨hhead, htail⟩ := h ans
    obtain ⟨hcalls, hres⟩ := ih htail
    refine ⟨fun before e after ht => ?_, fun x hx => by simpa using hres x hx⟩
    cases before with
    | nil =>
      simp only [List.nil_append, List.cons.injEq] at ht
      obtain ⟨rfl, rfl⟩ := ht
      simpa using hhead
    | cons b before =>
      simp only [List.cons_append, List.cons.injEq] at ht
      obtain ⟨rfl, ht⟩ := ht
      simpa using hcalls before e after ht

end Wp

/-! ## Handlers -/

/-- Implement the operations of `I` by programs over `J`. -/
def implement (f : (o : I.Op) → Prog J ε (I.Ans o)) : Prog I ε α → Prog J ε α
  | .ret a => .ret a
  | .fail e => .fail e
  | .spin => .spin
  | .call o next => (f o).bind fun ans => (next ans).implement f

/-- Implement the operations of `I` by programs over `J` with a state of their own. -/
def handle (f : (o : I.Op) → S → Prog J δ (I.Ans o × S)) :
    Prog I ε α → S → Prog J δ (Except ε α × S)
  | .ret a, s => .ret (.ok a, s)
  | .fail e, s => .ret (.error e, s)
  | .spin, _ => .spin
  | .call o next, s => (f o s).bind fun answered => (next answered.1).handle f answered.2

/-- What holds of a program over `I` holds of it handled, as far as `Related` carries it
from the calls the program makes to the calls the handlers make. -/
theorem wp_handle {f : (o : I.Op) → S → Prog J δ (I.Ans o × S)}
    {Related : S → List (Event I) → List (Event J) → Prop}
    {ok : List (Event I) → Event I → Prop} {okJ : List (Event J) → Event J → Prop}
    {Q : Except ε α → List (Event I) → Prop}
    (hstep : ∀ o s past pastJ, Related s past pastJ → (∀ ans, ok past ⟨o, ans⟩) →
      wp okJ (fun r pastJ => ∃ ans s', r = .ok (ans, s') ∧ Related s' (past ++ [⟨o, ans⟩]) pastJ)
        (f o s) pastJ)
    {p : Prog I ε α} {s : S} {past : List (Event I)} {pastJ : List (Event J)}
    (h : wp ok Q p past) (hrelated : Related s past pastJ) :
    wp okJ (fun r pastJ => ∃ x s' past', r = .ok (x, s') ∧ Q x past' ∧ Related s' past' pastJ)
      (p.handle f s) pastJ := by
  induction p generalizing s past pastJ with
  | ret a => exact ⟨_, s, past, rfl, h, hrelated⟩
  | fail e => exact ⟨_, s, past, rfl, h, hrelated⟩
  | spin => trivial
  | call o next ih =>
    rw [handle, wp_bind]
    refine wp_mono (hstep o s past pastJ hrelated fun ans => (h ans).1) (fun _ _ h => h) ?_
    rintro _ pastJ' ⟨ans, s', rfl, hrelated'⟩
    exact ih ans (h ans).2 hrelated'

theorem Satisfies.handle {f : (o : I.Op) → S → Prog J δ (I.Ans o × S)} {P : I.Op → Prop}
    {Q : Except ε α → Prop} {PJ : J.Op → Prop}
    (hstep : ∀ o s, P o → (f o s).Satisfies PJ Returns) {p : Prog I ε α} (h : p.Satisfies P Q)
    {s : S} : (p.handle f s).Satisfies PJ Returns := by
  induction p generalizing s with
  | ret a => exact ⟨_, rfl⟩
  | fail e => exact ⟨_, rfl⟩
  | spin => trivial
  | call o next ih => exact Satisfies.seq (hstep o s h.1) fun answered => ih answered.1 (h.2 _)

end Prog

end UsbRestore
