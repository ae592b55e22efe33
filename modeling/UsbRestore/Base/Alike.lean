-- SUMMARY: Programs that make the same calls, up to a likeness of calls, whatever is answered.
import Mathlib.Data.List.Forall2
import Mathlib.Data.Option.Basic
import UsbRestore.Base.Prog

/-!
# Programs that are alike

Two programs are alike when they make like calls one after the other and, given the same answers,
go on so. A likeness of calls forgets what no answer depends on. A call that is not audible may be
made by one of them alone, and be answered in any way. Whatever a program keeps to itself then shows
in no audible call at all.
-/

namespace UsbRestore.Prog

variable {I J : Interface} {ε δ ε' δ' α β α' β' S : Type}

/-- Call by call, with the results related by `R`. -/
inductive Alike (audible : I.Op → Bool) (Same : I.Op → I.Op → Prop)
    (R : Except ε α → Except δ β → Prop) : Prog I ε α → Prog I δ β → Prop where
  | done (x : Except ε α) (y : Except δ β) (result : R x y) :
    Alike audible Same R (ofExcept x) (ofExcept y)
  | spin : Alike audible Same R .spin .spin
  | call {o o' : I.Op} {next : I.Ans o → Prog I ε α} {next' : I.Ans o' → Prog I δ β}
    (same : Same o o')
    (rest : ∀ ans ans', HEq ans ans' → Alike audible Same R (next ans) (next' ans')) :
    Alike audible Same R (.call o next) (.call o' next')
  | left {o : I.Op} {next : I.Ans o → Prog I ε α} {q : Prog I δ β} (quiet : audible o = false)
    (rest : ∀ ans, Alike audible Same R (next ans) q) : Alike audible Same R (.call o next) q
  | right {o : I.Op} {next : I.Ans o → Prog I δ β} {p : Prog I ε α} (quiet : audible o = false)
    (rest : ∀ ans, Alike audible Same R p (next ans)) : Alike audible Same R p (.call o next)

/-- Both results are of one kind. -/
inductive Outcomes (E : ε → δ → Prop) (V : α → β → Prop) : Except ε α → Except δ β → Prop where
  | ok {a : α} {b : β} (value : V a b) : Outcomes E V (.ok a) (.ok b)
  | error {e : ε} {e' : δ} (cause : E e e') : Outcomes E V (.error e) (.error e')

/-- The run of a program against an environment that knows what it was asked before. -/
def against (env : List (Event I) → (o : I.Op) → I.Ans o) :
    Prog I ε α → List (Event I) → List (Event I) × Option (Except ε α)
  | .ret a, _ => ([], some (.ok a))
  | .fail e, _ => ([], some (.error e))
  | .spin, _ => ([], none)
  | .call o next, past =>
    let rest := (next (env past o)).against env (past ++ [⟨o, env past o⟩])
    (⟨o, env past o⟩ :: rest.1, rest.2)

/-- A program against an environment gives one of its runs. -/
theorem against_runs (env : List (Event I) → (o : I.Op) → I.Ans o) (p : Prog I ε α)
    (past : List (Event I)) : Runs p (p.against env past).1 (p.against env past).2 := by
  induction p generalizing past with
  | ret a => exact .ret a
  | fail e => exact .fail e
  | spin => exact .stop _
  | call o next ih => exact .call (ih _ _)

/-- Every call is answered as the environment answers after the calls before it. -/
theorem against_answers {env : List (Event I) → (o : I.Op) → I.Ans o} {p : Prog I ε α}
    {past before after : List (Event I)} {e : Event I}
    (h : (p.against env past).1 = before ++ e :: after) : e.ans = env (past ++ before) e.op := by
  induction p generalizing past before with
  | ret a => cases before <;> cases h
  | fail error => cases before <;> cases h
  | spin => cases before <;> cases h
  | call o next ih =>
    cases before with
    | nil =>
      obtain ⟨rfl, _⟩ := List.cons.inj h
      rw [List.append_nil]
    | cons first before =>
      obtain ⟨rfl, hrest⟩ := List.cons.inj h
      have hanswer := ih _ hrest
      rwa [List.append_assoc] at hanswer

theorem Outcomes.eq {x y : Except ε α} (h : Outcomes (· = ·) (· = ·) x y) : x = y := by
  cases h with
  | ok h => exact congrArg Except.ok h
  | error h => exact congrArg Except.error h

theorem Outcomes.eq_of_rel {x y : Option (Except ε α)}
    (h : Option.Rel (Outcomes (· = ·) (· = ·)) x y) : x = y := by
  cases h with
  | none => rfl
  | some h => exact congrArg some h.eq

namespace Alike

variable {audible : I.Op → Bool} {Same : I.Op → I.Op → Prop} {R R' : Except ε α → Except δ β → Prop}
  {E : ε → δ → Prop} {V : α → β → Prop} {W : α' → β' → Prop} {p : Prog I ε α} {q : Prog I δ β}

theorem ret {a : α} {b : β} (h : V a b) :
    Alike audible Same (Outcomes E V) (.ret a : Prog I ε α) (.ret b : Prog I δ β) :=
  done (.ok a) (.ok b) (.ok h)

theorem fail {e : ε} {e' : δ} (h : E e e') :
    Alike audible Same (Outcomes E V) (.fail e : Prog I ε α) (.fail e' : Prog I δ β) :=
  done (.error e) (.error e') (.error h)

theorem mono (h : Alike audible Same R p q) (hR : ∀ x y, R x y → R' x y) : Alike audible Same R' p q := by
  induction h with
  | done x y h => exact done x y (hR x y h)
  | spin => exact spin
  | call same rest ih => exact call same ih
  | left quiet rest ih => exact left quiet ih
  | right quiet rest ih => exact right quiet ih

/-- A program is like itself, as far as its calls are like themselves. -/
theorem self {P : I.Op → Prop} {Q : Except ε α → Prop} {T : Except ε α → Except ε α → Prop}
    {p : Prog I ε α} (h : p.Satisfies P Q) (hSame : ∀ o, P o → Same o o)
    (hT : ∀ x, Q x → T x x) : Alike audible Same T p p := by
  induction p with
  | ret a => exact done (.ok a) (.ok a) (hT _ h)
  | fail e => exact done (.error e) (.error e) (hT _ h)
  | spin => exact spin
  | call o next ih =>
    refine call (hSame o h.1) fun ans ans' hans => ?_
    obtain rfl := eq_of_heq hans
    exact ih ans (h.2 ans)

/-- Sequencing. A program that has failed makes no further call. -/
theorem bindWith {f : α → Prog I ε α'} {g : β → Prog I δ β'}
    {T : Except ε α' → Except δ β' → Prop} (h : Alike audible Same R p q)
    (hf : ∀ x y, R x y → Alike audible Same T (ofExcept x >>= f) (ofExcept y >>= g)) :
    Alike audible Same T (p >>= f) (q >>= g) := by
  induction h with
  | done x y h => exact hf x y h
  | spin => exact spin
  | call same rest ih => exact call same ih
  | left quiet rest ih => exact left quiet ih
  | right quiet rest ih => exact right quiet ih

/-- The rule of sequence for two programs side by side. -/
theorem bind {f : α → Prog I ε α'} {g : β → Prog I δ β'} (h : Alike audible Same (Outcomes E V) p q)
    (hf : ∀ a b, V a b → Alike audible Same (Outcomes E W) (f a) (g b)) :
    Alike audible Same (Outcomes E W) (p >>= f) (q >>= g) := by
  refine bindWith h ?_
  rintro x y (hvalue | hcause)
  · exact hf _ _ hvalue
  · exact fail hcause

/-- A call that both make. -/
theorem op {o : I.Op} {f : I.Ans o → Prog I ε α} {g : I.Ans o → Prog I δ β} (hSame : Same o o)
    (hf : ∀ ans, Alike audible Same R (f ans) (g ans)) :
    Alike audible Same R (Prog.op o >>= f : Prog I ε α) (Prog.op o >>= g : Prog I δ β) := by
  refine call hSame fun ans ans' hans => ?_
  obtain rfl := eq_of_heq hans
  exact hf ans

/-- Nothing escapes `attempt`. -/
theorem attempt {D : ε' → δ' → Prop} (h : Alike audible Same R p q) :
    Alike audible Same (Outcomes D R) (p.attempt : Prog I ε' (Except ε α))
      (q.attempt : Prog I δ' (Except δ β)) := by
  induction h with
  | done x y h => cases x <;> cases y <;> exact ret h
  | spin => exact spin
  | call same rest ih => exact call same ih
  | left quiet rest ih => exact left quiet ih
  | right quiet rest ih => exact right quiet ih

/-- The clean-ups are alike, and so are the programs that end with them. -/
theorem withCleanup {c : Prog I ε Unit} {d : Prog I δ Unit}
    (h : Alike audible Same (Outcomes E V) p q) (hcleanup : Alike audible Same (Outcomes E (· = ·)) c d) :
    Alike audible Same (Outcomes E V) (p.withCleanup c) (q.withCleanup d) :=
  bind (attempt h) fun x y hxy => bind hcleanup fun _ _ _ => done x y hxy

/-- Handled alike, like programs stay alike. -/
theorem handle {audibleJ : J.Op → Bool} {SameJ : J.Op → J.Op → Prop}
    {f : (o : I.Op) → S → Prog J ε' (I.Ans o × S)}
    {g : (o : I.Op) → S → Prog J δ' (I.Ans o × S)} {D : ε' → δ' → Prop}
    (hstep : ∀ o o' s, Same o o' →
      Alike audibleJ SameJ (Outcomes D fun x y => HEq x.1 y.1 ∧ x.2 = y.2) (f o s) (g o' s))
    (haudible : ∀ o, audible o = true) (h : Alike audible Same R p q) (s : S) :
    Alike audibleJ SameJ (Outcomes D fun x y => R x.1 y.1 ∧ x.2 = y.2) (p.handle f s)
      (q.handle g s) := by
  induction h generalizing s with
  | done x y h => cases x <;> cases y <;> exact ret ⟨h, rfl⟩
  | spin => exact spin
  | call same rest ih =>
    refine bind (hstep _ _ s same) ?_
    rintro ⟨ans, s'⟩ ⟨ans', s''⟩ ⟨hans, hstate⟩
    obtain rfl : s' = s'' := hstate
    exact ih ans ans' hans s'
  | left quiet rest ih => cases (haudible _).symm.trans quiet
  | right quiet rest ih => cases (haudible _).symm.trans quiet

/-! ## Runs -/

/-- Like calls with the same answers. -/
def LikeEvents (Same : I.Op → I.Op → Prop) (e e' : Event I) : Prop :=
  Same e.op e'.op ∧ HEq e.ans e'.ans

/-- The audible events of a run. -/
def audibleEvents (audible : I.Op → Bool) (t : List (Event I)) : List (Event I) :=
  t.filter fun e => audible e.op

theorem audibleEvents_append (t u : List (Event I)) :
    audibleEvents audible (t ++ u) = audibleEvents audible t ++ audibleEvents audible u :=
  List.filter_append _ _

theorem audibleEvents_cons {e : Event I} (h : audible e.op = true) (t : List (Event I)) :
    audibleEvents audible (e :: t) = e :: audibleEvents audible t :=
  List.filter_cons_of_pos (p := fun e : Event I => audible e.op) h

theorem audibleEvents_cons_quiet {e : Event I} (h : audible e.op = false) (t : List (Event I)) :
    audibleEvents audible (e :: t) = audibleEvents audible t :=
  List.filter_cons_of_neg (p := fun e : Event I => audible e.op) (Bool.not_eq_true _ ▸ h)

/-- The audible calls are answered alike after like audible calls. -/
def SameAnswers (audible : I.Op → Bool) (Same : I.Op → I.Op → Prop)
    (env env' : List (Event I) → (o : I.Op) → I.Ans o) : Prop :=
  ∀ past past' o o',
    List.Forall₂ (LikeEvents Same) (audibleEvents audible past) (audibleEvents audible past') →
    Same o o' → HEq (env past o) (env' past' o')

section

variable {past past' : List (Event I)}
  (hpast : List.Forall₂ (LikeEvents Same) (audibleEvents audible past)
    (audibleEvents audible past'))

include hpast

theorem audible_snoc {e e' : Event I} (haudible : audible e.op = true)
    (haudible' : audible e'.op = true) (h : LikeEvents Same e e') :
    List.Forall₂ (LikeEvents Same) (audibleEvents audible (past ++ [e]))
      (audibleEvents audible (past' ++ [e'])) := by
  rw [audibleEvents_append, audibleEvents_append, audibleEvents_cons haudible,
    audibleEvents_cons haudible']
  exact List.rel_append hpast (.cons h .nil)

theorem audible_snoc_left {e : Event I} (quiet : audible e.op = false) :
    List.Forall₂ (LikeEvents Same) (audibleEvents audible (past ++ [e]))
      (audibleEvents audible past') := by
  rw [audibleEvents_append, audibleEvents_cons_quiet quiet]
  exact (List.append_nil _).symm ▸ hpast

theorem audible_snoc_right {e : Event I} (quiet : audible e.op = false) :
    List.Forall₂ (LikeEvents Same) (audibleEvents audible past)
      (audibleEvents audible (past' ++ [e])) := by
  rw [audibleEvents_append, audibleEvents_cons_quiet quiet]
  exact (List.append_nil _).symm ▸ hpast

end

/-- Like programs run alike against the same answers. -/
theorem against_from {env env' : List (Event I) → (o : I.Op) → I.Ans o}
    (hSame : ∀ o o', Same o o' → audible o = true ∧ audible o' = true)
    (henv : SameAnswers audible Same env env') (h : Alike audible Same R p q)
    {past past' : List (Event I)}
    (hpast : List.Forall₂ (LikeEvents Same) (audibleEvents audible past)
      (audibleEvents audible past')) :
    List.Forall₂ (LikeEvents Same) (audibleEvents audible (p.against env past).1)
        (audibleEvents audible (q.against env' past').1) ∧
      Option.Rel R (p.against env past).2 (q.against env' past').2 := by
  induction h generalizing past past' with
  | done x y h => cases x <;> cases y <;> exact ⟨.nil, .some h⟩
  | spin => exact ⟨.nil, .none⟩
  | @call o o' next next' same rest ih =>
    have hans := henv past past' o o' hpast same
    obtain ⟨haudible, haudible'⟩ := hSame o o' same
    have hnow : @LikeEvents I Same ⟨o, env past o⟩ ⟨o', env' past' o'⟩ := ⟨same, hans⟩
    have hfirst := audible_snoc hpast haudible haudible' hnow
    obtain ⟨hevents, hresult⟩ := ih _ _ hans hfirst
    refine ⟨?_, hresult⟩
    rw [Prog.against, Prog.against, audibleEvents_cons (e := ⟨o, env past o⟩) haudible,
      audibleEvents_cons (e := ⟨o', env' past' o'⟩) haudible']
    exact .cons hnow hevents
  | @left o next q quiet rest ih =>
    obtain ⟨hevents, hresult⟩ := ih (env past o) (audible_snoc_left hpast (e := ⟨o, env past o⟩) quiet)
    refine ⟨?_, hresult⟩
    rw [Prog.against, audibleEvents_cons_quiet (e := ⟨o, env past o⟩) quiet]
    exact hevents
  | @right o next p quiet rest ih =>
    obtain ⟨hevents, hresult⟩ := ih (env' past' o) (audible_snoc_right hpast (e := ⟨o, env' past' o⟩) quiet)
    refine ⟨?_, hresult⟩
    rw [Prog.against.eq_def env' (.call o next), audibleEvents_cons_quiet
      (e := ⟨o, env' past' o⟩) quiet]
    exact hevents

/-- Alike programs in environments that answer alike make calls that are alike. -/
theorem against {env env' : List (Event I) → (o : I.Op) → I.Ans o}
    (hSame : ∀ o o', Same o o' → audible o = true ∧ audible o' = true)
    (henv : SameAnswers audible Same env env') (h : Alike audible Same R p q) :
    List.Forall₂ (LikeEvents Same) (audibleEvents audible (p.against env []).1)
        (audibleEvents audible (q.against env' []).1) ∧
      Option.Rel R (p.against env []).2 (q.against env' []).2 :=
  against_from hSame henv h (.nil : List.Forall₂ (LikeEvents Same) [] [])

end Alike

/-! ## Giving up -/

/-- Two programs that are alike unless they come to a pair of which `Over` holds, with calls of one
kind only on the way there. -/
inductive AlikeUnless (Over : Prog I ε α → Prog I δ β → Prop) (harmless : I.Op → Prop)
    (audible : I.Op → Bool) (Same : I.Op → I.Op → Prop) (R : Except ε α → Except δ β → Prop) :
    Prog I ε α → Prog I δ β → Prop where
  | alike {p : Prog I ε α} {q : Prog I δ β} (h : Alike audible Same R p q) :
    AlikeUnless Over harmless audible Same R p q
  | apart {p : Prog I ε α} {q : Prog I δ β} (h : Over p q) :
    AlikeUnless Over harmless audible Same R p q
  | call {o o' : I.Op} {next : I.Ans o → Prog I ε α} {next' : I.Ans o' → Prog I δ β}
    (same : Same o o') (left : harmless o) (right : harmless o')
    (rest : ∀ ans ans', HEq ans ans' →
      AlikeUnless Over harmless audible Same R (next ans) (next' ans')) :
    AlikeUnless Over harmless audible Same R (.call o next) (.call o' next')
  | left {o : I.Op} {next : I.Ans o → Prog I ε α} {q : Prog I δ β} (quiet : audible o = false)
    (left : harmless o) (rest : ∀ ans, AlikeUnless Over harmless audible Same R (next ans) q) :
    AlikeUnless Over harmless audible Same R (.call o next) q
  | right {o : I.Op} {next : I.Ans o → Prog I δ β} {p : Prog I ε α} (quiet : audible o = false)
    (right : harmless o) (rest : ∀ ans, AlikeUnless Over harmless audible Same R p (next ans)) :
    AlikeUnless Over harmless audible Same R p (.call o next)

namespace AlikeUnless

variable {audible : I.Op → Bool} {Same : I.Op → I.Op → Prop} {harmless : I.Op → Prop}
  {R : Except ε α → Except δ β → Prop} {T : Except ε α' → Except δ β' → Prop}
  {p : Prog I ε α} {q : Prog I δ β}

/-- What comes before two programs part. -/
theorem bindWith {Over : Prog I ε α' → Prog I δ β' → Prop} {P Q}
    (h : Alike audible Same R p q) (hp : p.Satisfies harmless P) (hq : q.Satisfies harmless Q)
    {f : α → Prog I ε α'} {g : β → Prog I δ β'}
    (hf : ∀ x y, R x y →
      AlikeUnless Over harmless audible Same T (ofExcept x >>= f) (ofExcept y >>= g)) :
    AlikeUnless Over harmless audible Same T (p >>= f) (q >>= g) := by
  induction h with
  | done x y h => exact hf x y h
  | spin => exact alike .spin
  | call same rest ih =>
    exact call same hp.1 hq.1 fun ans ans' hans => ih ans ans' hans (hp.2 ans) (hq.2 ans')
  | left quiet rest ih => exact left quiet hp.1 fun ans => ih ans (hp.2 ans) hq
  | right quiet rest ih => exact right quiet hq.1 fun ans => ih ans hp (hq.2 ans)

/-- A run of `p` that makes harmless calls only, and is then a run of `p'`. -/
def LeadsTo (harmless : I.Op → Prop) (env : List (Event I) → (o : I.Op) → I.Ans o)
    (p : Prog I ε α) (past : List (Event I)) (p' : Prog I ε α) : Prop :=
  ∃ first, (∀ e ∈ first, harmless (Event.op e)) ∧
    (p.against env past).1 = first ++ (p'.against env (past ++ first)).1

theorem LeadsTo.refl (env : List (Event I) → (o : I.Op) → I.Ans o) (p : Prog I ε α)
    (past : List (Event I)) : LeadsTo harmless env p past p :=
  ⟨[], nofun, by rw [List.append_nil]; rfl⟩

/-- A harmless call leads on to what follows it. -/
theorem LeadsTo.call {env : List (Event I) → (o : I.Op) → I.Ans o} {o : I.Op}
    {next : I.Ans o → Prog I ε α} {past : List (Event I)} {p' : Prog I ε α} (ho : harmless o)
    (h : LeadsTo harmless env (next (env past o)) (past ++ [⟨o, env past o⟩]) p') :
    LeadsTo harmless env (.call o next) past p' := by
  obtain ⟨first, hfirst, hrun⟩ := h
  refine ⟨⟨o, env past o⟩ :: first, ?_, ?_⟩
  · intro e he
    rcases List.mem_cons.mp he with rfl | he
    · exact ho
    · exact hfirst e he
  · rw [Prog.against, hrun, List.append_assoc]
    rfl

variable {Over : Prog I ε α → Prog I δ β → Prop}

/-- Against the same answers they run alike, or one of them gives up. -/
theorem against_from {env env' : List (Event I) → (o : I.Op) → I.Ans o}
    (hSame : ∀ o o', Same o o' → audible o = true ∧ audible o' = true)
    (henv : Alike.SameAnswers audible Same env env')
    (h : AlikeUnless Over harmless audible Same R p q) {past past' : List (Event I)}
    (hpast : List.Forall₂ (Alike.LikeEvents Same) (Alike.audibleEvents audible past)
      (Alike.audibleEvents audible past')) :
    List.Forall₂ (Alike.LikeEvents Same) (Alike.audibleEvents audible (p.against env past).1)
        (Alike.audibleEvents audible (q.against env' past').1) ∨
      ∃ p' q', Over p' q' ∧ LeadsTo harmless env p past p' ∧ LeadsTo harmless env' q past' q' := by
  induction h generalizing past past' with
  | alike h => exact .inl (Alike.against_from hSame henv h hpast).1
  | apart h => exact .inr ⟨_, _, h, .refl env _ past, .refl env' _ past'⟩
  | @call o o' next next' same hleft hright rest ih =>
    have hans := henv past past' o o' hpast same
    obtain ⟨haudible, haudible'⟩ := hSame o o' same
    have hnow : @Alike.LikeEvents I Same ⟨o, env past o⟩ ⟨o', env' past' o'⟩ := ⟨same, hans⟩
    have hfirst := Alike.audible_snoc hpast haudible haudible' hnow
    rcases ih _ _ hans hfirst with hevents | ⟨p', q', hover, hp, hq⟩
    · refine .inl ?_
      rw [Prog.against, Prog.against, Alike.audibleEvents_cons (e := ⟨o, env past o⟩) haudible,
        Alike.audibleEvents_cons (e := ⟨o', env' past' o'⟩) haudible']
      exact .cons hnow hevents
    · exact .inr ⟨p', q', hover, .call hleft hp, .call hright hq⟩
  | @left o next q quiet hleft rest ih =>
    rcases ih (env past o) (Alike.audible_snoc_left hpast (e := ⟨o, env past o⟩) quiet) with
      hevents | ⟨p', q', hover, hp, hq⟩
    · refine .inl ?_
      rw [Prog.against, Alike.audibleEvents_cons_quiet (e := ⟨o, env past o⟩) quiet]
      exact hevents
    · exact .inr ⟨p', q', hover, .call hleft hp, hq⟩
  | @right o next p quiet hright rest ih =>
    rcases ih (env' past' o) (Alike.audible_snoc_right hpast (e := ⟨o, env' past' o⟩) quiet) with
      hevents | ⟨p', q', hover, hp, hq⟩
    · refine .inl ?_
      rw [Prog.against.eq_def env' (.call o next),
        Alike.audibleEvents_cons_quiet (e := ⟨o, env' past' o⟩) quiet]
      exact hevents
    · exact .inr ⟨p', q', hover, hp, .call hright hq⟩

end AlikeUnless

end UsbRestore.Prog
