-- SUMMARY: What a session with a helper can end in, whatever the helper says and however it dies.
import Mathlib.Data.List.Induction
import UsbRestore.Linux.HelperClient

/-!
# The session

The variables of the client are a state machine over two kinds of inputs: a line of the helper and
an answer of the user interface. Its laws hold after any inputs; every run of the client is the
machine on the lines it has read.
-/

namespace UsbRestore

open Prog

/-! ## The machine -/

inductive SessionInput where
  | line (text : QString)
  | poll (requested : Bool)

namespace HelperSession

/-- One line. -/
def hear (installed : Catalog) (appVersion : QString) (session : HelperSession) (line : QString) :
    HelperSession :=
  let parsed := parseProtocolLine line
  match parsed.kind with
  | .version =>
    let session := session.announce installed appVersion parsed
    if !session.versionAccepted then { session with cancelTokenWritten := true } else session
  | .failure => session.explain parsed.text
  | .result => { session with location := parsed.text }
  | _ => session

/-- One answer to the question whether to stop. -/
def poll (session : HelperSession) (requested : Bool) : HelperSession :=
  if requested ∧ !session.cancelTokenWritten then
    if session.sawVersion then { session with cancelTokenWritten := true }
    else { session with killRequested := true }
  else session

def next (installed : Catalog) (appVersion : QString) (session : HelperSession) :
    SessionInput → HelperSession
  | .line line => session.hear installed appVersion line
  | .poll requested => session.poll requested

/-- The session after some inputs. -/
def after (installed : Catalog) (appVersion : QString) (inputs : List SessionInput) :
    HelperSession :=
  inputs.foldl (next installed appVersion) {}

/-- What a session comes to after more inputs, from what it came to before. -/
theorem after_append (installed : Catalog) (appVersion : QString) (inputs more : List SessionInput) :
    after installed appVersion (inputs ++ more) =
      more.foldl (next installed appVersion) (after installed appVersion inputs) :=
  List.foldl_append

theorem after_concat (installed : Catalog) (appVersion : QString) (inputs : List SessionInput)
    (input : SessionInput) :
    after installed appVersion (inputs ++ [input]) =
      (after installed appVersion inputs).next installed appVersion input :=
  after_append installed appVersion inputs [input]

end HelperSession

open HelperSession

/-! ## What the inputs were -/

def inputLine : SessionInput → Option QString
  | .line text => some text
  | .poll _ => none

def inputPoll : SessionInput → Option Bool
  | .line _ => none
  | .poll requested => some requested

/-- The lines among the inputs, in their order. -/
def inputLines (inputs : List SessionInput) : List QString := inputs.filterMap inputLine

def inputPolls (inputs : List SessionInput) : List Bool := inputs.filterMap inputPoll

/-- The lines of one kind. -/
def linesOfKind (kind : ProtocolLineKind) (inputs : List SessionInput) : List ProtocolLine :=
  ((inputLines inputs).map parseProtocolLine).filter fun parsed => parsed.kind = kind

def versionLines (inputs : List SessionInput) : List ProtocolLine := linesOfKind .version inputs

/-- The text of the last result line. -/
def lastResult (inputs : List SessionInput) : Option QString :=
  (linesOfKind .result inputs).getLast?.map ProtocolLine.text

theorem linesOfKind_append (kind : ProtocolLineKind) (inputs more : List SessionInput) :
    linesOfKind kind (inputs ++ more) = linesOfKind kind inputs ++ linesOfKind kind more := by
  unfold linesOfKind inputLines
  rw [List.filterMap_append, List.map_append, List.filter_append]

theorem linesOfKind_poll (kind : ProtocolLineKind) (inputs : List SessionInput) (requested : Bool) :
    linesOfKind kind (inputs ++ [.poll requested]) = linesOfKind kind inputs := by
  rw [linesOfKind_append]
  exact List.append_nil _

theorem linesOfKind_line_self {kind : ProtocolLineKind} {inputs : List SessionInput}
    {line : QString} (h : (parseProtocolLine line).kind = kind) :
    linesOfKind kind (inputs ++ [.line line]) =
      linesOfKind kind inputs ++ [parseProtocolLine line] := by
  rw [linesOfKind_append]
  simp [linesOfKind, inputLines, inputLine, h]

theorem linesOfKind_line_ne {kind : ProtocolLineKind} {inputs : List SessionInput}
    {line : QString} (h : (parseProtocolLine line).kind ≠ kind) :
    linesOfKind kind (inputs ++ [.line line]) = linesOfKind kind inputs := by
  rw [linesOfKind_append]
  simp [linesOfKind, inputLines, inputLine, h]

section Laws

variable (installed : Catalog) (appVersion : QString)

/-- The text of a failure line that is received while a version is accepted. -/
def explanation (session : HelperSession) : SessionInput → Option QString
  | .line line =>
    let parsed := parseProtocolLine line
    if parsed.kind = .failure ∧ session.versionAccepted = true ∧ parsed.text ≠ [] then
      some parsed.text
    else none
  | .poll _ => none

/-- All such texts, from a session on. -/
def explanationsFrom (session : HelperSession) : List SessionInput → List QString
  | [] => []
  | input :: inputs =>
    (explanation session input).toList ++
      explanationsFrom (session.next installed appVersion input) inputs

def explanations (inputs : List SessionInput) : List QString :=
  explanationsFrom installed appVersion {} inputs

/-- A line that the client takes for its helper's announcement. -/
def Acceptable (line : ProtocolLine) : Prop :=
  acceptHelperAnnouncement line appVersion linuxRestorePlan .english = .ok ()

/-- Exactly one version line has come, and it is acceptable. -/
def SoleAnnouncement (inputs : List SessionInput) : Prop :=
  ∃ line, versionLines inputs = [line] ∧ Acceptable appVersion line

/-- A version line has been refused, or a second one has come. -/
def Compromised (inputs : List SessionInput) : Prop :=
  (∃ line ∈ versionLines inputs, ¬Acceptable appVersion line) ∨
    2 ≤ (versionLines inputs).length

/-- What holds of the session after any inputs. -/
structure SessionLaws (inputs : List SessionInput) : Prop where
  sawVersion : (after installed appVersion inputs).sawVersion = true ↔ versionLines inputs ≠ []
  accepted : (after installed appVersion inputs).versionAccepted = true ↔
    SoleAnnouncement appVersion inputs
  stopped : versionLines inputs ≠ [] →
    (after installed appVersion inputs).versionAccepted = false →
      (after installed appVersion inputs).cancelTokenWritten = true
  location : (after installed appVersion inputs).location = (lastResult inputs).getD []
  displayFailure : (after installed appVersion inputs).displayFailure =
    (explanations installed appVersion inputs).headD []

variable {installed appVersion} {inputs : List SessionInput}

theorem explanations_concat (input : SessionInput) :
    explanations installed appVersion (inputs ++ [input]) =
      explanations installed appVersion inputs ++
        (explanation (after installed appVersion inputs) input).toList := by
  have hgen : ∀ session, explanationsFrom installed appVersion session (inputs ++ [input]) =
      explanationsFrom installed appVersion session inputs ++
        (explanation (inputs.foldl (next installed appVersion) session) input).toList := by
    induction inputs with
    | nil =>
      intro session
      exact List.append_nil _
    | cons first inputs ih =>
      intro session
      rw [List.cons_append, explanationsFrom, explanationsFrom, ih, List.append_assoc]
      rfl
  exact hgen {}

theorem explanation_ne_nil {session : HelperSession} {input : SessionInput} {text : QString}
    (h : text ∈ explanation session input) : text ≠ [] := by
  cases input with
  | poll requested => cases h
  | line line =>
    unfold explanation at h
    dsimp only at h
    split at h
    · next hfailure =>
      obtain rfl := Option.some.inj h
      exact hfailure.2.2
    · cases h

theorem explanations_ne_nil : ∀ text ∈ explanations installed appVersion inputs, text ≠ [] := by
  induction inputs using List.reverseRecOn with
  | nil => nofun
  | append_singleton inputs input ih =>
    intro text htext
    rw [explanations_concat] at htext
    rcases List.mem_append.mp htext with hold | hnew
    · exact ih text hold
    · exact explanation_ne_nil (Option.mem_toList.mp hnew)

/-! ## The laws -/

/-- A question to the user changes nothing that a line has set. -/
theorem SessionLaws.poll (h : SessionLaws installed appVersion inputs) (requested : Bool) :
    SessionLaws installed appVersion (inputs ++ [.poll requested]) := by
  have hsame : ∀ session : HelperSession,
      (session.poll requested).sawVersion = session.sawVersion ∧
      (session.poll requested).versionAccepted = session.versionAccepted ∧
      (session.poll requested).location = session.location ∧
      (session.poll requested).displayFailure = session.displayFailure ∧
      (session.cancelTokenWritten = true →
        (session.poll requested).cancelTokenWritten = true) := by
    intro session
    unfold HelperSession.poll
    split_ifs
    · exact ⟨rfl, rfl, rfl, rfl, fun _ => rfl⟩
    · exact ⟨rfl, rfl, rfl, rfl, id⟩
    · exact ⟨rfl, rfl, rfl, rfl, id⟩
  obtain ⟨hsaw, haccepted, hlocation, hfailure, htoken⟩ := hsame (after installed appVersion inputs)
  have hversions : versionLines (inputs ++ [.poll requested]) = versionLines inputs :=
    linesOfKind_poll _ _ _
  have hresult : lastResult (inputs ++ [.poll requested]) = lastResult inputs := by
    rw [lastResult, linesOfKind_poll]
    rfl
  have hexplained : explanations installed appVersion (inputs ++ [.poll requested]) =
      explanations installed appVersion inputs :=
    (explanations_concat _).trans (List.append_nil _)
  constructor
  · rw [after_concat, hversions]
    exact (Bool.eq_iff_iff.mp hsaw).trans h.sawVersion
  · rw [after_concat, SoleAnnouncement, hversions]
    exact (Bool.eq_iff_iff.mp haccepted).trans h.accepted
  · rw [after_concat, hversions]
    intro hsome hrefused
    exact htoken (h.stopped hsome (haccepted.symm.trans hrefused))
  · rw [after_concat, hresult]
    exact hlocation.trans h.location
  · rw [after_concat, hexplained]
    exact hfailure.trans h.displayFailure

/-- A line that is no version line leaves what is known of the version. -/
theorem SessionLaws.version_kept (h : SessionLaws installed appVersion inputs) {line : QString}
    (hkind : (parseProtocolLine line).kind ≠ .version) {session : HelperSession}
    (hsession : session.sawVersion = (after installed appVersion inputs).sawVersion ∧
      session.versionAccepted = (after installed appVersion inputs).versionAccepted ∧
      session.cancelTokenWritten = (after installed appVersion inputs).cancelTokenWritten) :
    (session.sawVersion = true ↔ versionLines (inputs ++ [.line line]) ≠ []) ∧
    (session.versionAccepted = true ↔ SoleAnnouncement appVersion (inputs ++ [.line line])) ∧
    (versionLines (inputs ++ [.line line]) ≠ [] → session.versionAccepted = false →
      session.cancelTokenWritten = true) := by
  obtain ⟨hsaw, haccepted, htoken⟩ := hsession
  have hversions : versionLines (inputs ++ [.line line]) = versionLines inputs :=
    linesOfKind_line_ne hkind
  rw [SoleAnnouncement, hversions, hsaw, haccepted, htoken]
  exact ⟨h.sawVersion, h.accepted, h.stopped⟩

/-- An announcement is taken once; a second one is a fault of the helper. -/
theorem SessionLaws.announce (h : SessionLaws installed appVersion inputs) {line : QString}
    (hkind : (parseProtocolLine line).kind = .version) :
    SessionLaws installed appVersion (inputs ++ [.line line]) := by
  have hversions : versionLines (inputs ++ [.line line]) =
      versionLines inputs ++ [parseProtocolLine line] := linesOfKind_line_self hkind
  have hresult : lastResult (inputs ++ [.line line]) = lastResult inputs := by
    rw [lastResult, linesOfKind_line_ne (by rw [hkind]; decide)]
    rfl
  have hexplained : explanations installed appVersion (inputs ++ [.line line]) =
      explanations installed appVersion inputs := by
    rw [explanations_concat]
    simp [explanation, hkind]
  have hhear : (after installed appVersion inputs).hear installed appVersion line =
      (let session :=
        (after installed appVersion inputs).announce installed appVersion (parseProtocolLine line)
       if !session.versionAccepted then { session with cancelTokenWritten := true } else session) := by
    unfold HelperSession.hear
    dsimp only
    rw [hkind]
  have hnext : after installed appVersion (inputs ++ [.line line]) =
      (after installed appVersion inputs).hear installed appVersion line := after_concat _ _ _ _
  by_cases hsaw : (after installed appVersion inputs).sawVersion = true
  · -- a second announcement
    have hsome := h.sawVersion.mp hsaw
    have hrefused : ¬SoleAnnouncement appVersion (inputs ++ [.line line]) := by
      rintro ⟨only, honly, -⟩
      rw [hversions] at honly
      have hlength := congrArg List.length honly
      rw [List.length_append, List.length_singleton, List.length_singleton] at hlength
      exact hsome (List.length_eq_zero_iff.mp (Nat.succ.inj hlength))
    unfold HelperSession.announce at hhear
    rw [if_pos hsaw] at hhear
    simp only [Bool.not_false, if_true] at hhear
    constructor <;> rw [hnext, hhear]
    · exact iff_of_true hsaw (by simp [hversions])
    · exact iff_of_false (by simp) hrefused
    · exact fun _ _ => rfl
    · rw [hresult]
      exact h.location
    · rw [hexplained]
      exact h.displayFailure
  · have hnone : versionLines inputs = [] := not_not.mp fun hsome => hsaw (h.sawVersion.mpr hsome)
    rw [hnone, List.nil_append] at hversions
    unfold HelperSession.announce at hhear
    rw [if_neg hsaw] at hhear
    have hsole : SoleAnnouncement appVersion (inputs ++ [.line line]) ↔
        Acceptable appVersion (parseProtocolLine line) := by
      rw [SoleAnnouncement, hversions]
      constructor
      · rintro ⟨only, honly, haccepted⟩
        rwa [List.singleton_inj.mp honly]
      · exact fun haccepted => ⟨_, rfl, haccepted⟩
    have hverdict := @checkRestoreError_ok_iff installed fun mode =>
      acceptHelperAnnouncement (parseProtocolLine line) appVersion linuxRestorePlan mode
    cases hcheck : acceptAnnouncement installed appVersion (parseProtocolLine line) with
    | ok _ =>
      rw [hcheck] at hhear
      simp only [Bool.not_true, Bool.false_eq_true, if_false] at hhear
      constructor <;> rw [hnext, hhear]
      · exact iff_of_true rfl (by simp [hversions])
      · exact iff_of_true rfl (hsole.mpr (hverdict.mp hcheck))
      · exact fun _ hrefused => nomatch hrefused
      · rw [hresult]
        exact h.location
      · rw [hexplained]
        exact h.displayFailure
    | error message =>
      have hrefused : ¬Acceptable appVersion (parseProtocolLine line) := fun haccepted => by
        have hok := hverdict.mpr haccepted
        rw [acceptAnnouncement, hok] at hcheck
        cases hcheck
      rw [hcheck] at hhear
      simp only [Bool.not_false, if_true] at hhear
      constructor <;> rw [hnext, hhear]
      · exact iff_of_true rfl (by simp [hversions])
      · exact iff_of_false (by simp) fun hannounced => hrefused (hsole.mp hannounced)
      · exact fun _ _ => rfl
      · rw [hresult]
        exact h.location
      · rw [hexplained]
        exact h.displayFailure

/-- The first text stays. -/
theorem headD_append_toList (texts : List QString) (htexts : ∀ text ∈ texts, text ≠ [])
    (text : Option QString) :
    (texts ++ text.toList).headD [] =
      if texts.headD [] = [] then text.getD [] else texts.headD [] := by
  cases texts with
  | nil => cases text <;> rfl
  | cons first texts => simp [htexts first List.mem_cons_self]

/-- The first failure that is heard is the explanation that is kept. -/
theorem SessionLaws.explain (h : SessionLaws installed appVersion inputs) {line : QString}
    (hkind : (parseProtocolLine line).kind = .failure) :
    SessionLaws installed appVersion (inputs ++ [.line line]) := by
  have hnext : after installed appVersion (inputs ++ [.line line]) =
      (after installed appVersion inputs).explain (parseProtocolLine line).text := by
    rw [after_concat]
    unfold HelperSession.next HelperSession.hear
    dsimp only
    rw [hkind]
  have hkept : ∀ text, ∀ session : HelperSession,
      (session.explain text).sawVersion = session.sawVersion ∧
      (session.explain text).versionAccepted = session.versionAccepted ∧
      (session.explain text).cancelTokenWritten = session.cancelTokenWritten ∧
      (session.explain text).location = session.location := by
    intro text session
    unfold HelperSession.explain
    split_ifs
    · exact ⟨rfl, rfl, rfl, rfl⟩
    · exact ⟨rfl, rfl, rfl, rfl⟩
  obtain ⟨hsaw, haccepted, htoken, hlocation⟩ :=
    hkept (parseProtocolLine line).text (after installed appVersion inputs)
  obtain ⟨h1, h2, h3⟩ := h.version_kept (by rw [hkind]; decide) ⟨hsaw, haccepted, htoken⟩
  have hresult : lastResult (inputs ++ [.line line]) = lastResult inputs := by
    rw [lastResult, linesOfKind_line_ne (by rw [hkind]; decide)]
    rfl
  constructor <;> rw [hnext]
  · exact h1
  · exact h2
  · exact h3
  · rw [hresult]
    exact hlocation.trans h.location
  · rw [explanations_concat, headD_append_toList _ explanations_ne_nil, ← h.displayFailure]
    unfold HelperSession.explain explanation
    simp only [hkind, true_and]
    generalize after installed appVersion inputs = session
    by_cases haccepted : session.versionAccepted = true
    · by_cases hempty : session.displayFailure = []
      · by_cases htext : (parseProtocolLine line).text = []
        · simp [haccepted, hempty, htext]
        · simp [haccepted, hempty, htext]
      · simp [haccepted, hempty]
    · simp only [haccepted, Bool.false_eq_true, false_and, if_false, Option.getD_none]
      split_ifs with hempty
      · exact hempty
      · rfl

/-- The location that is heard last is the one of the result. -/
theorem SessionLaws.locate (h : SessionLaws installed appVersion inputs) {line : QString}
    (hkind : (parseProtocolLine line).kind = .result) :
    SessionLaws installed appVersion (inputs ++ [.line line]) := by
  have hnext : after installed appVersion (inputs ++ [.line line]) =
      { after installed appVersion inputs with location := (parseProtocolLine line).text } := by
    rw [after_concat]
    unfold HelperSession.next HelperSession.hear
    dsimp only
    rw [hkind]
  have hother : (parseProtocolLine line).kind ≠ .version := by rw [hkind]; decide
  obtain ⟨h1, h2, h3⟩ := h.version_kept hother ⟨rfl, rfl, rfl⟩
  constructor <;> rw [hnext]
  · exact h1
  · exact h2
  · exact h3
  · rw [lastResult, linesOfKind_line_self hkind, List.getLast?_append]
    rfl
  · rw [explanations_concat]
    simp [explanation, hkind, h.displayFailure]

/-- The other kinds of lines decide nothing about the end. -/
theorem SessionLaws.other (h : SessionLaws installed appVersion inputs) {line : QString}
    (hversion : (parseProtocolLine line).kind ≠ .version)
    (hfailure : (parseProtocolLine line).kind ≠ .failure)
    (hresult : (parseProtocolLine line).kind ≠ .result) :
    SessionLaws installed appVersion (inputs ++ [.line line]) := by
  have hnext : after installed appVersion (inputs ++ [.line line]) =
      after installed appVersion inputs := by
    rw [after_concat]
    unfold HelperSession.next HelperSession.hear
    dsimp only
    split
    · next hkind => exact absurd hkind hversion
    · next hkind => exact absurd hkind hfailure
    · next hkind => exact absurd hkind hresult
    · rfl
  obtain ⟨h1, h2, h3⟩ := h.version_kept hversion ⟨rfl, rfl, rfl⟩
  constructor <;> rw [hnext]
  · exact h1
  · exact h2
  · exact h3
  · rw [lastResult, linesOfKind_line_ne hresult]
    exact h.location
  · rw [explanations_concat]
    simp [explanation, hfailure, h.displayFailure]

/-- The laws hold after any inputs. -/
theorem sessionLaws (installed : Catalog) (appVersion : QString) (inputs : List SessionInput) :
    SessionLaws installed appVersion inputs := by
  induction inputs using List.reverseRecOn with
  | nil =>
    refine ⟨iff_of_false nofun (fun h => h rfl), iff_of_false nofun ?_, fun h => absurd rfl h, rfl,
      rfl⟩
    rintro ⟨line, hline, -⟩
    cases hline
  | append_singleton inputs input ih =>
    cases input with
    | poll requested => exact ih.poll requested
    | line line =>
      by_cases hversion : (parseProtocolLine line).kind = .version
      · exact ih.announce hversion
      by_cases hfailure : (parseProtocolLine line).kind = .failure
      · exact ih.explain hfailure
      by_cases hresult : (parseProtocolLine line).kind = .result
      · exact ih.locate hresult
      exact ih.other hversion hfailure hresult

/-! ## What stands -/

theorem inputLines_map_line (lines : List QString) :
    inputLines (lines.map SessionInput.line) = lines := by
  rw [inputLines, List.filterMap_map]
  exact List.filterMap_some

/-- A malfunction is one of the lines alone. -/
theorem compromised_iff {inputs' : List SessionInput} (h : inputLines inputs = inputLines inputs') :
    Compromised appVersion inputs ↔ Compromised appVersion inputs' := by
  unfold Compromised versionLines linesOfKind
  rw [h]

/-- A helper that is not trusted stays so, whatever it says later. -/
theorem Compromised.append (h : Compromised appVersion inputs) (more : List SessionInput) :
    Compromised appVersion (inputs ++ more) := by
  have hversions : versionLines (inputs ++ more) = versionLines inputs ++ versionLines more :=
    linesOfKind_append _ _ _
  rcases h with ⟨line, hline, hrefused⟩ | htwo
  · refine .inl ⟨line, ?_, hrefused⟩
    rw [hversions]
    exact List.mem_append_left _ hline
  · refine .inr ?_
    rw [hversions, List.length_append]
    exact Nat.le_add_right_of_le htwo

/-- After a malfunction no version is accepted and the helper was asked to stop. -/
theorem SessionLaws.refusal (h : SessionLaws installed appVersion inputs)
    (hcompromised : Compromised appVersion inputs) :
    (after installed appVersion inputs).versionAccepted = false ∧
      (after installed appVersion inputs).cancelTokenWritten = true := by
  have hsome : versionLines inputs ≠ [] := by
    intro hnone
    unfold Compromised at hcompromised
    rw [hnone] at hcompromised
    rcases hcompromised with ⟨line, hline, -⟩ | htwo
    · cases hline
    · exact absurd htwo (by decide)
  have hrefused : ¬SoleAnnouncement appVersion inputs := by
    rintro ⟨only, honly, haccepted⟩
    unfold Compromised at hcompromised
    rw [honly] at hcompromised
    rcases hcompromised with ⟨line, hline, hrefused⟩ | htwo
    · rw [List.mem_singleton.mp hline] at hrefused
      exact hrefused haccepted
    · exact absurd htwo (by simp)
  have haccepted := Bool.eq_false_iff.mpr (mt h.accepted.mp hrefused)
  exact ⟨haccepted, h.stopped hsome haccepted⟩

/-- The first explanation is never replaced. -/
theorem displayFailure_stands (installed : Catalog) (appVersion : QString)
    (inputs more : List SessionInput)
    (hsome : (after installed appVersion inputs).displayFailure ≠ []) :
    (after installed appVersion (inputs ++ more)).displayFailure =
      (after installed appVersion inputs).displayFailure := by
  induction more using List.reverseRecOn with
  | nil => rw [List.append_nil]
  | append_singleton more input ih =>
    have hfirst := (sessionLaws installed appVersion (inputs ++ more)).displayFailure
    have hnext := (sessionLaws installed appVersion (inputs ++ more ++ [input])).displayFailure
    rw [explanations_concat] at hnext
    rw [← List.append_assoc, ← ih, hnext, hfirst]
    cases hexplained : explanations installed appVersion (inputs ++ more) with
    | nil =>
      rw [hexplained] at hfirst
      exact absurd (ih.symm.trans hfirst) hsome
    | cons first others => rfl

end Laws

end UsbRestore
