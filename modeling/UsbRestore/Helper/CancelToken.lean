-- SUMMARY: A helper that exits as cancelled has been sent the cancel token.
import UsbRestore.Helper.Main

/-!
# The cancel token

The reporter gathers what it reads until the token is among it. What it has gathered is the end of all
that was read, so that the token was sent.
-/

namespace UsbRestore

open Prog

def stdinRead : Event HelperI → Option (List UInt8)
  | ⟨HelperOp.readStdin, bytes⟩ => some bytes
  | _ => none

/-- What was read of stdin, read by read. -/
def stdinReads (t : List (Event HelperI)) : List (List UInt8) := t.filterMap stdinRead

theorem stdinReads_concat (past : List (Event HelperI)) (e : Event HelperI) :
    stdinReads (past ++ [e]) = stdinReads past ++ (stdinRead e).toList := by
  rw [stdinReads, List.filterMap_append]
  cases h : stdinRead e with
  | none => simp [stdinReads, h]
  | some read => simp [stdinReads, h]

/-! ## Tokens -/

/-- A token that is found in the last bytes of what was read is found in all of it. -/
theorem containsToken_of_suffix {request bytes : List UInt8} (h : request <:+ bytes)
    (htoken : HelperReporter.containsToken request = true) :
    HelperReporter.containsToken bytes = true := by
  unfold HelperReporter.containsToken at *
  rw [List.any_eq_true] at *
  obtain ⟨tail, htail, hstarts⟩ := htoken
  exact ⟨tail, (List.mem_tails _ _).mpr (((List.mem_tails _ _).mp htail).trans h), hstarts⟩

/-- Every byte of the token is among the bytes that hold it. -/
theorem mem_of_containsToken {bytes : List UInt8} (h : HelperReporter.containsToken bytes = true) :
    ∀ b ∈ CancelRequestToken, b ∈ bytes := by
  unfold HelperReporter.containsToken at h
  rw [List.any_eq_true] at h
  obtain ⟨tail, htail, hstarts⟩ := h
  rw [List.isPrefixOf_iff_prefix] at hstarts
  exact fun b hb => ((List.mem_tails _ _).mp htail).subset (hstarts.subset hb)

/-! ## The reporter -/

/-- All that was read holds the token. -/
def TokenRead (past : List (Event HelperI)) : Prop :=
  HelperReporter.containsToken (stdinReads past).flatten = true

/-- The reporter holds the end of what was read, and has noticed a token only where there was one. -/
structure Gathers (reporter : HelperReporter) (past : List (Event HelperI)) : Prop where
  request : reporter.request <:+ (stdinReads past).flatten
  cancelled : reporter.cancelled = true → TokenRead past

theorem Gathers.start (past : List (Event HelperI)) : Gathers {} past :=
  ⟨List.nil_suffix, fun h => by cases h⟩

variable {ε α : Type} {reporter : HelperReporter} {past : List (Event HelperI)}

theorem Gathers.of_reads {past' : List (Event HelperI)} (h : Gathers reporter past)
    (hreads : (stdinReads past').flatten = (stdinReads past).flatten) : Gathers reporter past' := by
  refine ⟨?_, fun hcancelled => ?_⟩
  · rw [hreads]
    exact h.request
  · unfold TokenRead
    rw [hreads]
    exact h.cancelled hcancelled

/-- A call that reads nothing of stdin. -/
def HelperOp.Unread (o : HelperOp) : Prop := o ≠ .readStdin

theorem stdinRead_of_unread {e : Event HelperI} (h : HelperOp.Unread e.op) : stdinRead e = none := by
  obtain ⟨o, ans⟩ := e
  cases o <;> first | rfl | exact absurd rfl h

theorem Gathers.calls (h : Gathers reporter past) {t : List (Event HelperI)}
    (ht : ∀ e ∈ t, HelperOp.Unread e.op) : Gathers reporter (past ++ t) := by
  have hnone : stdinReads t = [] :=
    List.filterMap_eq_nil_iff.mpr fun e he => stdinRead_of_unread (ht e he)
  refine h.of_reads ?_
  unfold stdinReads at *
  rw [List.filterMap_append, hnone, List.append_nil]

theorem Gathers.call (h : Gathers reporter past) {e : Event HelperI} (he : HelperOp.Unread e.op) :
    Gathers reporter (past ++ [e]) :=
  h.calls fun _ he' => List.mem_singleton.mp he' ▸ he

/-- A part of the helper that reads nothing. -/
theorem wp_unread {p : Prog HelperI ε α} {R : Except ε α → Prop} (h : p.Satisfies HelperOp.Unread R)
    (hgathers : Gathers reporter past) {Q : Except ε α → List (Event HelperI) → Prop}
    (hok : ∀ r past', R r → Gathers reporter past' → Q r past') : wp (fun _ _ => True) Q p past :=
  wp_of_runs h (fun _ _ _ _ => trivial) fun _ r _ ht hr => hok r _ hr (hgathers.calls ht)

/-- Asking whether to stop. -/
theorem cancelRequested_gathers (h : Gathers reporter past) :
    wp (fun _ _ => True)
      (fun r past' => ∃ cancelled reporter', r = .ok (cancelled, reporter') ∧ Gathers reporter' past' ∧
        (cancelled = true → TokenRead past'))
      (reporter.cancelRequested : Prog HelperI ε (Bool × HelperReporter)) past := by
  unfold HelperReporter.cancelRequested
  split
  · next hcancelled => exact ⟨_, _, rfl, h, fun _ => h.cancelled hcancelled⟩
  refine wp_bind_op.mpr fun (terminal : Bool) => ⟨trivial, ?_⟩
  have hasked := h.call (e := ⟨HelperOp.isatty, terminal⟩) (fun h => by cases h)
  split
  · exact ⟨_, _, rfl, hasked, fun h => by cases h⟩
  refine wp_bind_op.mpr fun (readable : Bool) => ⟨trivial, ?_⟩
  have hpolled := hasked.call (e := ⟨HelperOp.pollStdin, readable⟩) (fun h => by cases h)
  split
  · exact ⟨_, _, rfl, hpolled, fun h => by cases h⟩
  refine wp_bind_op.mpr fun (bytes : List UInt8) => ⟨trivial, ?_⟩
  generalize past ++ [(⟨HelperOp.isatty, terminal⟩ : Event HelperI)] ++
    [(⟨HelperOp.pollStdin, readable⟩ : Event HelperI)] = before at hpolled ⊢
  have hreads : (stdinReads (before ++ [⟨HelperOp.readStdin, bytes⟩])).flatten =
      (stdinReads before).flatten ++ bytes := by
    rw [stdinReads_concat, List.flatten_append]
    exact congrArg _ (List.append_nil bytes)
  have hrequest : reporter.request ++ bytes <:+
      (stdinReads (before ++ [⟨HelperOp.readStdin, bytes⟩])).flatten := by
    obtain ⟨earlier, hearlier⟩ := hpolled.request
    rw [hreads, ← hearlier, List.append_assoc]
    exact List.suffix_append _ _
  split
  · next hempty =>
    refine ⟨_, _, rfl, hpolled.of_reads ?_, fun h => by cases h⟩
    rw [hreads, List.isEmpty_iff.mp hempty, List.append_nil]
  · refine ⟨_, _, rfl, ⟨hrequest, fun hcancelled => ?_⟩, fun hcancelled => ?_⟩
    · exact containsToken_of_suffix hrequest hcancelled
    · exact containsToken_of_suffix hrequest hcancelled

theorem writeDetails_unread (lines : List QString) :
    (HelperReporter.writeDetails lines : Prog HelperI ε Unit).Satisfies HelperOp.Unread Returns := by
  induction lines with
  | nil => exact .returns _
  | cons line lines ih =>
    unfold HelperReporter.writeDetails
    dsimp only
    split
    · exact .call (fun h => by cases h) fun _ => ih
    · exact ih

theorem writeLine_unread (line : QString) :
    (writeLine line : Prog HelperI ε Unit).Satisfies HelperOp.Unread Returns :=
  .call (fun h => by cases h) fun _ => .returns _

/-- The line of a step is written without reading from the input. -/
theorem writeStep_gathers (message : RestoreMessage) (h : Gathers reporter past) :
    wp (fun _ _ => True)
      (fun r past' => ∃ ans reporter', r = .ok (ans, reporter') ∧ Gathers reporter' past')
      (reporter.writeStep message : Prog HelperI ε (Unit × HelperReporter)) past := by
  unfold HelperReporter.writeStep
  dsimp only
  rw [bind_eq, wp_bind]
  refine wp_unread (writeLine_unread _) h ?_
  rintro r past' ⟨_, rfl⟩ hgathers
  exact ⟨(), _, rfl, hgathers.request, hgathers.cancelled⟩

theorem detail_gathers (message : QString) (h : Gathers reporter past) :
    wp (fun _ _ => True)
      (fun r past' => ∃ ans reporter', r = .ok (ans, reporter') ∧ Gathers reporter' past')
      (HelperReporter.detail message >>= fun _ => pure ((), reporter) :
        Prog HelperI ε (Unit × HelperReporter)) past := by
  rw [bind_eq, wp_bind]
  refine wp_unread (writeDetails_unread _) h ?_
  rintro r past' ⟨_, rfl⟩ hgathers
  exact ⟨(), reporter, rfl, hgathers⟩

/-- Whatever the backend asks of its reporter. -/
theorem answer_gathers (o : LinuxOp) (h : Gathers reporter past) :
    wp (fun _ _ => True)
      (fun r past' => ∃ ans reporter', r = .ok (ans, reporter') ∧ Gathers reporter' past')
      (HelperReporter.answer o reporter : Prog HelperI ε (o.Ans × HelperReporter)) past := by
  cases o with
  | sys o => exact fun ans => ⟨trivial, ans, reporter, rfl, h.call fun h => by cases h⟩
  | reporter o =>
    cases o with
    | step step message => exact writeStep_gathers message h
    | detail message => exact detail_gathers message h
    | cancelRequested =>
      refine wp_mono (cancelRequested_gathers h) (fun _ _ _ => trivial) ?_
      rintro r past' ⟨cancelled, reporter', rfl, hgathers, -⟩
      exact ⟨cancelled, reporter', rfl, hgathers⟩

theorem wp_trivial (p : Prog HelperI ε α) {Q : Except ε α → List (Event HelperI) → Prop}
    (hok : ∀ r past', Q r past') : wp (fun _ _ => True) Q p past :=
  wp_of_runs (Satisfies.trivial p) (fun _ _ _ _ => trivial) fun _ r _ _ _ => hok r _

/-- A program of the backend under the reporter. -/
theorem runInHelper_gathers {δ : Type} (p : Prog LinuxI ε α) (h : Gathers reporter past) :
    wp (fun _ _ => True)
      (fun r past' => ∃ x reporter', r = .ok (x, reporter') ∧ Gathers reporter' past')
      (runInHelper p reporter : Prog HelperI δ (Except ε α × HelperReporter)) past := by
  have hstep : ∀ (o : LinuxOp) (reporter : HelperReporter) (_ : List (Event LinuxI)) (past : _),
      Gathers reporter past → (∀ _ : o.Ans, True) →
        wp (fun _ _ => True)
          (fun r past' => ∃ ans reporter', r = .ok (ans, reporter') ∧ Gathers reporter' past')
          (HelperReporter.answer o reporter : Prog HelperI δ (o.Ans × HelperReporter)) past :=
    fun o _ _ _ hs _ => answer_gathers o hs
  have hany : wp (fun _ _ => True) (fun _ _ => True) p [] :=
    wp_of_runs (Satisfies.trivial p) (fun _ _ _ _ => trivial) fun _ _ _ _ _ => trivial
  have hhandled := wp_handle hstep hany h
  refine wp_mono hhandled (fun _ _ _ => trivial) ?_
  rintro r past' ⟨x, reporter', -, rfl, -, hgathers⟩
  exact ⟨x, reporter', rfl, hgathers⟩

/-! ## The main function -/

/-- What an exit code says of stdin. -/
def ExitRead : Except ε Int → List (Event HelperI) → Prop
  | .ok exitCode, past => exitCode = RestoreExitCancelled → TokenRead past
  | .error _, _ => True

theorem wp_exit {p : Prog HelperI ε α} {exitCode : Int} (h : exitCode ≠ RestoreExitCancelled) :
    wp (fun _ _ => True) ExitRead (p.bind fun _ => pure exitCode) past := by
  rw [wp_bind]
  refine wp_trivial p fun r past' => ?_
  cases r with
  | ok _ => exact fun hcancelled => absurd hcancelled h
  | error _ => trivial

/-- The code of a cancelled restore is returned after the token was read. -/
theorem reportFailure_read (installed : Catalog) (error : RestoreMessage)
    (h : Gathers reporter past) :
    wp (fun _ _ => True) ExitRead (reportFailure installed reporter error : Prog HelperI ε Int)
      past := by
  unfold reportFailure
  rw [bind_eq, wp_bind]
  refine wp_mono (cancelRequested_gathers h) (fun _ _ _ => trivial) ?_
  rintro r past' ⟨cancelled, reporter', rfl, -, htoken⟩
  dsimp only
  split
  · next hcancelled => exact fun _ => htoken (Bool.and_eq_true_iff.mp hcancelled).1
  · exact wp_exit (by decide)

variable [Host]

theorem restoreInHelper_read (fuel : LoopFuel) (installed : Catalog) (parsed : RestoreArguments) :
    wp (fun _ _ => True) ExitRead (restoreInHelper fuel installed parsed : Prog HelperI ε Int)
      past := by
  unfold restoreInHelper
  rw [bind_eq, wp_bind]
  refine wp_mono (runInHelper_gathers _ (Gathers.start past)) (fun _ _ _ => trivial) ?_
  rintro r past' ⟨target, reporter', rfl, -⟩
  cases target with
  | error error => exact wp_exit (by decide)
  | ok found =>
    dsimp only
    rw [bind_eq, wp_bind]
    refine wp_mono (runInHelper_gathers _ (Gathers.start past')) (fun _ _ _ => trivial) ?_
    rintro r past'' ⟨outcome, reporter'', rfl, hgathers⟩
    cases outcome with
    | error error => exact reportFailure_read installed error hgathers
    | ok result => exact wp_exit (by decide)

/-- The same of everything the helper does with the privileges. -/
theorem servePrivileged_read (fuel : LoopFuel) (arguments : List QString) :
    wp (fun _ _ => True) ExitRead (servePrivileged fuel arguments : Prog HelperI ε Int) past := by
  unfold servePrivileged
  refine wp_bind_op.mpr fun (uid : UInt32) => ⟨trivial, ?_⟩
  split
  · exact wp_exit (by decide)
  split
  · exact wp_exit (by decide)
  · next parsed _ =>
    rw [bind_eq, wp_bind]
    refine wp_trivial _ fun r past' => ?_
    cases r with
    | error _ => trivial
    | ok loaded => exact restoreInHelper_read fuel loaded.2 parsed

/-- A helper that exits as cancelled has read the token. -/
theorem helperMain_read (fuel : LoopFuel) (appVersion : QString) (arguments : List QString) :
    wp (fun _ _ => True) ExitRead (helperMain fuel appVersion arguments : Prog HelperI ε Int)
      past := by
  unfold helperMain
  split
  · exact wp_exit (by decide)
  rw [bind_eq, wp_bind]
  refine wp_trivial _ fun r past' => ?_
  cases r with
  | error _ => trivial
  | ok probe =>
    cases probe with
    | ready line => exact wp_exit (by decide)
    | missingCatalog => exact fun h => absurd h (by decide)
    | usage => exact fun h => absurd h (by decide)
    | notRequested =>
      dsimp only
      rw [bind_eq, wp_bind]
      refine wp_trivial _ fun r past'' => ?_
      cases r with
      | error _ => trivial
      | ok _ => exact servePrivileged_read fuel arguments

end UsbRestore
