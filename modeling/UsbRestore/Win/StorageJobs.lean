-- SUMMARY: A queued storage job counts as done exactly if it is seen completed without an error in time.
import UsbRestore.Base.Machine
import UsbRestore.Core.Reasons
import UsbRestore.Win.Wmi

/-!
# Waiting for storage jobs

What the readings of a job say is one sequence, and what the timer says when it is looked at another.
The wait goes through both in step, so the number of a round tells what it has seen.
-/

namespace UsbRestore

open Prog

variable {ε : Type} {installed : Catalog} {timeoutMs : Int}

/-! ## Readings -/

/-- A reading that ends the wait: of no job, without a usable state, or in a terminal state. -/
def isFinal : JobReading → Bool
  | .error _ => true
  | .ok read =>
    match read.jobState with
    | none => true
    | some state => !isUsableState state || isTerminalState state

/-- A job that is completed, with an error code that says there was no error. -/
def Confirms : JobReading → Prop
  | .error _ => False
  | .ok read => read.jobState = some JobStateCompleted ∧ read.errorCode = some 0

/-- The first reading that ends the wait confirms success, and none before it came at the timeout. -/
def Confirmed (readings : Nat → JobReading) (clock : Nat → Int) (timeoutMs : Int) : Prop :=
  ∃ n, (∀ k, k < n → isFinal (readings k) = false ∧ clock k < timeoutMs) ∧
    isFinal (readings n) = true ∧ Confirms (readings n)

/-- What a timer shows when it is looked at for the `n`th time. As there is a pause between two looks,
any time goes by. -/
structure Timer where
  elapsed : Nat → Int
  passes : ∀ limit, ∃ n, limit ≤ elapsed n

/-- A reading without a usable state ends the wait, and confirms nothing. -/
theorem isFinal_of_unusable {read : StorageJob} (h : read.jobState.filter isUsableState = none) :
    isFinal (.ok read) = true ∧ ¬Confirms (.ok read) := by
  rw [Option.filter_eq_none_iff] at h
  constructor
  · cases hstate : read.jobState with
    | none => simp only [isFinal, hstate]
    | some state =>
      simp only [isFinal, hstate, Bool.eq_false_iff.mpr (h state hstate), Bool.not_false, Bool.true_or]
  · exact fun hconfirms => h _ hconfirms.1 rfl

/-- A usable state ends the wait where it is terminal, and confirms exactly where the job completed
without an error. -/
theorem isFinal_of_usable {read : StorageJob} {state : UInt64}
    (h : read.jobState.filter isUsableState = some state) :
    isFinal (.ok read) = isTerminalState state ∧
      (Confirms (.ok read) ↔ state = JobStateCompleted ∧ read.errorCode = some 0) := by
  obtain ⟨hstate, husable⟩ := Option.filter_eq_some_iff.mp h
  constructor
  · simp only [isFinal, hstate, husable, Bool.not_true, Bool.false_or]
  · rw [Confirms, hstate, Option.some.injEq]

variable {readings : Nat → JobReading} {clock : Nat → Int} {n : Nat}

/-- Success can only be confirmed where the wait ends. -/
theorem confirmed_iff_of_final
    (hbefore : ∀ k, k < n → isFinal (readings k) = false ∧ clock k < timeoutMs)
    (hfinal : isFinal (readings n) = true) :
    Confirmed readings clock timeoutMs ↔ Confirms (readings n) := by
  constructor
  · rintro ⟨m, hbefore', hfinal', hconfirms⟩
    have heq : m = n := by
      apply Nat.le_antisymm
      · refine Nat.le_of_not_lt fun hlt => ?_
        rw [(hbefore' n hlt).1] at hfinal
        cases hfinal
      · refine Nat.le_of_not_lt fun hlt => ?_
        rw [(hbefore m hlt).1] at hfinal'
        cases hfinal'
    rw [← heq]
    exact hconfirms
  · exact fun hconfirms => ⟨n, hbefore, hfinal, hconfirms⟩

/-- A job that is still running when the time is over was not confirmed. -/
theorem not_confirmed_of_timeout
    (hbefore : ∀ k, k < n → isFinal (readings k) = false ∧ clock k < timeoutMs)
    (hrunning : isFinal (readings n) = false) (htimeout : timeoutMs ≤ clock n) :
    ¬Confirmed readings clock timeoutMs := by
  rintro ⟨m, hbefore', hfinal, _⟩
  rcases Nat.lt_trichotomy m n with hlt | rfl | hlt
  · rw [(hbefore m hlt).1] at hfinal
    cases hfinal
  · rw [hrunning] at hfinal
    cases hfinal
  · exact absurd htimeout (Int.not_le.mpr (hbefore' n hlt).2)

/-! ## Verdicts -/

/-- A verdict that is positive exactly if `success` holds, and that has an English text otherwise. -/
def Judged (success : Prop) (waited : Waited) : Prop :=
  (waited.verdict = .ok () ↔ success) ∧
    ∀ message, waited.verdict = .error message → message.english ≠ []

theorem judged_error {success : Prop} {message : RestoreMessage} {outcome : QString}
    (hnot : ¬success) (htext : message.english ≠ []) :
    Judged success ⟨.error message, outcome⟩ := by
  constructor
  · exact iff_of_false (fun h => by cases h) hnot
  · rintro _ ⟨⟩
    exact htext

/-- A job is judged a success exactly where it completed without an error. -/
theorem judgeJob_ok_iff {read : StorageJob} {state : UInt64} :
    judgeJob installed read state = .ok () ↔ state = JobStateCompleted ∧ read.errorCode = some 0 := by
  unfold judgeJob
  split
  · next hstate =>
    split
    · next hcode => exact iff_of_true rfl ⟨hstate, hcode⟩
    · next hcode => exact iff_of_false (fun h => by cases h) fun h => hcode h.2
  · next hstate => exact iff_of_false (fun h => by cases h) fun h => hstate h.1

theorem judgeJob_error {read : StorageJob} {state : UInt64} {message : RestoreMessage}
    (h : judgeJob installed read state = .error message) : message.english ≠ [] := by
  unfold judgeJob at h
  split at h
  · split at h
    · cases h
    · obtain rfl := Except.error.inj h
      -- The first letter is neither part of a place marker nor a blank.
      have hletter : QChar.ofChar 'T' ∈ QStringLiteral
          "The Windows storage job did not confirm success (error code %1). %2" := by
        decide +kernel
      exact QString.trimmed_ne_nil (by decide) (QString.mem_arg (by decide) hletter _)
  · obtain rfl := Except.error.inj h
    split
    · exact restoreText_arg_ne_nil (by decide)
    · exact restoreText_arg_ne_nil (by decide)

theorem judged_judgeJob {success : Prop} {read : StorageJob} {state : UInt64} {outcome : QString}
    (h : success ↔ state = JobStateCompleted ∧ read.errorCode = some 0) :
    Judged success ⟨judgeJob installed read state, outcome⟩ :=
  ⟨judgeJob_ok_iff.trans h.symm, fun _ => judgeJob_error⟩

/-! ## The wait -/

/-- How many readings were taken, and how often the timer was looked at. -/
structure Polls where
  reads : Nat
  looks : Nat

namespace Polls

def step (readings : Nat → JobReading) (clock : Nat → Int) (s : Polls) :
    (o : JobOp) → o.Ans → Polls → Prop
  | .readJob, answer, s' => answer = readings s.reads ∧ s' = { s with reads := s.reads + 1 }
  | .elapsed, answer, s' => answer = clock s.looks ∧ s' = { s with looks := s.looks + 1 }
  | .msleep _, _, s' => s' = s

/-- No reading is taken after one that ends the wait. -/
def NotAfterFinal (readings : Nat → JobReading) (s : Polls) :
    (o : JobOp) → o.Ans → Polls → Prop
  | .readJob, _, _ => ∀ k, k < s.reads → isFinal (readings k) = false
  | .elapsed, _, _ => True
  | .msleep _, _, _ => True

end Polls

/-- The wait of a program that ends with such a verdict. -/
abbrev WaitsFor (readings : Nat → JobReading) (clock : Nat → Int) (success : Prop)
    (p : Prog JobI ε Waited) (s : Polls) : Prop :=
  p.Surely (Polls.step readings clock) (Polls.NotAfterFinal readings)
    (fun r _ => ∃ waited, r = .ok waited ∧ Judged success waited) s

/-- A note for the log, and the verdict after it. -/
theorem note_waitsFor {what : QString} {reads : Nat} {lastState : Option UInt64}
    {verdict : QString → Waited} {success : Prop} {s : Polls}
    (h : ∀ outcome, Judged success (verdict outcome)) :
    WaitsFor (ε := ε) readings clock success
      (note what reads lastState >>= fun outcome => .ret (verdict outcome)) s := by
  apply Surely.call
  intro elapsed s' _
  exact ⟨trivial, _, rfl, h _⟩

/-- The loop, in the round of reading `n`, where reading `m` ends the wait or comes at the timeout. -/
theorem pollJob_waitsFor {m fuel : Nat} {lastState : Option UInt64}
    (hbefore : ∀ k, k < n → isFinal (readings k) = false ∧ clock k < timeoutMs) (hle : n ≤ m)
    (hstop : isFinal (readings m) = true ∨ timeoutMs ≤ clock m) (hfuel : m - n < fuel) :
    WaitsFor (ε := ε) readings clock (Confirmed readings clock timeoutMs)
      (pollJob installed timeoutMs fuel n lastState) ⟨n, n⟩ := by
  induction fuel generalizing n lastState with
  | zero => exact absurd hfuel (Nat.not_lt_zero _)
  | succ fuel ih =>
    unfold pollJob
    apply Surely.call
    rintro reading s ⟨rfl, rfl⟩
    refine ⟨fun k hk => (hbefore k hk).1, ?_⟩
    have hjudge := @confirmed_iff_of_final timeoutMs readings clock n hbefore
    have hlate := @not_confirmed_of_timeout timeoutMs readings clock n hbefore
    cases hreading : readings n with
    | error readError =>
      rw [hreading] at hjudge
      refine note_waitsFor fun outcome => judged_error (hjudge rfl).mp ?_
      split
      · exact restoreText_ne_nil (by decide)
      · exact restoreText_arg_ne_nil (by decide)
    | ok read =>
      rw [hreading] at hjudge hlate
      dsimp only
      cases husable : read.jobState.filter isUsableState with
      | none =>
        obtain ⟨hfinal, hnot⟩ := isFinal_of_unusable husable
        refine note_waitsFor fun outcome => judged_error ?_ (restoreText_ne_nil (by decide))
        exact fun hconfirmed => hnot ((hjudge hfinal).mp hconfirmed)
      | some state =>
        obtain ⟨hfinal, hconfirms⟩ := isFinal_of_usable husable
        dsimp only
        split
        · next hterminal =>
          apply note_waitsFor
          exact fun outcome => judged_judgeJob ((hjudge (hfinal.trans hterminal)).trans hconfirms)
        · next hrunning =>
          have hrunning : isFinal (.ok read) = false := by
            rw [hfinal]
            exact Bool.eq_false_iff.mpr hrunning
          apply Surely.call
          rintro elapsed s ⟨rfl, rfl⟩
          refine ⟨trivial, ?_⟩
          dsimp only
          split
          · next htimeout =>
            apply note_waitsFor
            exact fun outcome => judged_error (hlate hrunning htimeout)
              (restoreText_arg_ne_nil (by decide))
          · next hearly =>
            -- The round that ends the wait is not this one.
            have hlater : n < m := by
              refine Nat.lt_of_le_of_ne hle ?_
              rintro rfl
              rw [hreading, hrunning] at hstop
              rcases hstop with hstop | hstop
              · cases hstop
              · exact hearly hstop
            apply Surely.call
            rintro _ s rfl
            refine ⟨trivial, ih ?_ hlater (by omega)⟩
            intro k hk
            rcases Nat.lt_or_eq_of_le (Nat.le_of_lt_succ hk) with hk | rfl
            · exact hbefore k hk
            · rw [hreading]
              exact ⟨hrunning, Int.not_le.mp hearly⟩

/-- With enough rounds the loop comes to the reading that ends the wait, or to the end of the time,
and judges there. -/
theorem waitForStorageJob_waitsFor {m fuel : Nat} {jobPath : QString}
    (hstop : isFinal (readings m) = true ∨ timeoutMs ≤ clock m) (hfuel : m < fuel) :
    WaitsFor (ε := ε) readings clock (jobPath ≠ [] ∧ Confirmed readings clock timeoutMs)
      (waitForStorageJob installed fuel jobPath timeoutMs) ⟨0, 0⟩ := by
  unfold waitForStorageJob
  split
  · next hempty =>
    refine ⟨_, rfl, judged_error ?_ (restoreText_ne_nil (by decide))⟩
    exact fun h => h.1 (List.isEmpty_iff.mp hempty)
  · next hpath =>
    have hpath : jobPath ≠ [] := fun hempty => hpath (List.isEmpty_iff.mpr hempty)
    have hwaits : WaitsFor (ε := ε) readings clock (Confirmed readings clock timeoutMs)
        (pollJob installed timeoutMs fuel 0 none) ⟨0, 0⟩ :=
      pollJob_waitsFor (fun k hk => absurd hk (Nat.not_lt_zero k)) (Nat.zero_le m) hstop hfuel
    refine hwaits.mono ?_
    rintro r s ⟨waited, rfl, hverdict, herror⟩
    exact ⟨waited, rfl, hverdict.trans (iff_and_self.mpr fun _ => hpath), herror⟩

/-! ## Through the connection -/

namespace Polls

/-- The connection answers one method, and has one job for it. -/
def connected (call : WmiCallResult) (readings : Nat → JobReading) (clock : Nat → Int) (s : Polls) :
    (o : WmiOp) → o.Ans → Polls → Prop
  | .callMethod _ _ _ _, answer, s' => answer = call ∧ s' = s
  | .getObject objectPath, answer, s' => objectPath = call.jobPath →
    answer = (readings s.reads).toOption ∧ s' = { s with reads := s.reads + 1 }
  | .lastError, answer, s' => s' = s ∧
    ∀ n readError, s.reads = n + 1 → readings n = .error readError → answer = readError
  | .elapsed, answer, s' => answer = clock s.looks ∧ s' = { s with looks := s.looks + 1 }
  | .msleep _, _, s' => s' = s

/-- No object is asked for after a reading that ends the wait. -/
def ConnectedNotAfterFinal (readings : Nat → JobReading) (s : Polls) :
    (o : WmiOp) → o.Ans → Polls → Prop
  | .getObject _, _, _ => ∀ k, k < s.reads → isFinal (readings k) = false
  | .callMethod _ _ _ _, _, _ => True
  | .lastError, _, _ => True
  | .elapsed, _, _ => True
  | .msleep _, _, _ => True

end Polls

/-- The wait for the job of a call. -/
abbrev CallWaitsFor (call : WmiCallResult) (readings : Nat → JobReading) (clock : Nat → Int)
    (success : Prop) (p : Prog WmiI ε Waited) (s : Polls) : Prop :=
  p.Surely (Polls.connected call readings clock) (Polls.ConnectedNotAfterFinal readings)
    (fun r _ => ∃ waited, r = .ok waited ∧ Judged success waited) s

/-- The callback reads the job, and the error of the connection where there is none. -/
theorem jobThrough_surely {call : WmiCallResult} (o : JobOp) (s : Polls)
    (hallowed : ∀ ans s', Polls.step readings clock s o ans s' →
      Polls.NotAfterFinal readings s o ans s') :
    (jobThrough call.jobPath o : Prog WmiI ε _).Surely (Polls.connected call readings clock)
      (Polls.ConnectedNotAfterFinal readings)
      (fun r s' => ∃ ans s'', r = .ok ans ∧ Polls.step readings clock s o ans s'' ∧ s'' = s') s := by
  cases o with
  | readJob =>
    apply Surely.call
    intro answer s' hstep
    obtain ⟨rfl, rfl⟩ := hstep rfl
    refine ⟨hallowed _ _ ⟨rfl, rfl⟩, ?_⟩
    cases hreading : readings s.reads with
    | ok read => exact ⟨_, _, rfl, ⟨hreading.symm, rfl⟩, rfl⟩
    | error readError =>
      apply Surely.call
      rintro answer s' ⟨rfl, hanswer⟩
      refine ⟨trivial, _, _, rfl, ⟨?_, rfl⟩, rfl⟩
      rw [hanswer s.reads readError rfl hreading, hreading]
  | elapsed =>
    rintro answer s' hstep
    exact ⟨trivial, answer, s', rfl, hstep, rfl⟩
  | msleep milliseconds =>
    rintro answer s' hstep
    exact ⟨trivial, answer, s', rfl, hstep, rfl⟩

/-- A method that started a job waits for that job. -/
theorem callMethodAndWait_waitsFor {call : WmiCallResult} {m fuel : Nat}
    {className objectPath methodName : QString} {inputs : List (QString × Variant)}
    (hcall : call.returnValue = WmiMethodStartedJob)
    (hstop : isFinal (readings m) = true ∨ timeoutMs ≤ clock m) (hfuel : m < fuel) :
    CallWaitsFor (ε := ε) call readings clock
      (call.jobPath ≠ [] ∧ Confirmed readings clock timeoutMs)
      (callMethodAndWait installed fuel className objectPath methodName inputs timeoutMs)
      ⟨0, 0⟩ := by
  apply Surely.call
  rintro result s ⟨rfl, rfl⟩
  refine ⟨trivial, ?_⟩
  have haccepted : ¬(!WmiCallResult.accepted result) = true := by
    simp only [WmiCallResult.accepted, hcall]
    decide
  have hqueued : WmiCallResult.returnValue result ≠ 0 := by
    rw [hcall]
    decide
  dsimp only
  rw [if_neg haccepted, if_neg hqueued]
  refine Surely.mono (Surely.implement Eq ?_
    (waitForStorageJob_waitsFor hstop hfuel) rfl) ?_
  · rintro o s _ rfl hallowed
    exact jobThrough_surely o s hallowed
  · rintro r s ⟨_, hjudged, _⟩
    exact hjudged

/-- Whatever is read of a job and whatever timer is looked at, the wait ends, and its verdict is
positive exactly if the job is seen completed without an error in time; the same holds of a call that
Windows has queued. -/
theorem storageJob_confirmed (installed : Catalog) (timeoutMs : Int)
    (readings : Nat → JobReading) (timer : Timer) :
    (∀ jobPath, ∃ rounds, ∀ fuel, rounds < fuel →
      WaitsFor (ε := ε) readings timer.elapsed
        (jobPath ≠ [] ∧ Confirmed readings timer.elapsed timeoutMs)
        (waitForStorageJob installed fuel jobPath timeoutMs) ⟨0, 0⟩) ∧
    ∀ call className objectPath methodName inputs, call.returnValue = WmiMethodStartedJob →
      ∃ rounds, ∀ fuel, rounds < fuel →
        CallWaitsFor (ε := ε) call readings timer.elapsed
          (call.jobPath ≠ [] ∧ Confirmed readings timer.elapsed timeoutMs)
          (callMethodAndWait installed fuel className objectPath methodName inputs timeoutMs)
          ⟨0, 0⟩ := by
  obtain ⟨rounds, hlate⟩ := timer.passes timeoutMs
  constructor
  · exact fun jobPath => ⟨rounds, fun fuel => waitForStorageJob_waitsFor (.inr hlate)⟩
  · intro call className objectPath methodName inputs hcall
    exact ⟨rounds, fun fuel => callMethodAndWait_waitsFor hcall (.inr hlate)⟩

/-- A quarter of a second between two looks. -/
def quarterSeconds : Timer where
  elapsed n := 250 * n
  passes limit := ⟨limit.toNat, by omega⟩

/-- A job that runs for two readings and is then completed. -/
def thirdReading (n : Nat) : JobReading :=
  .ok ⟨some (if n < 2 then 4 else JobStateCompleted), some 0, []⟩

theorem storageJob_confirmed_thirdReading :
    Confirmed thirdReading quarterSeconds.elapsed 1000 ∧ ∃ rounds, ∀ fuel, rounds < fuel →
      CallWaitsFor (ε := Unit) ⟨4096, QStringLiteral "job", []⟩ thirdReading quarterSeconds.elapsed
        (QStringLiteral "job" ≠ [] ∧ Confirmed thirdReading quarterSeconds.elapsed 1000)
        (callMethodAndWait Catalog.english fuel (QStringLiteral "MSFT_Disk") (QStringLiteral "disk")
          (QStringLiteral "Refresh") [] 1000) ⟨0, 0⟩ := by
  constructor
  · exact ⟨2, by decide, by decide, rfl, rfl⟩
  · exact (storageJob_confirmed Catalog.english 1000 thirdReading quarterSeconds).2
      ⟨4096, QStringLiteral "job", []⟩ _ _ _ [] rfl

end UsbRestore
