-- SUMMARY: The helper's output lines: the sanitizer, the encoders and the parser.
import UsbRestore.Core.RestoreProtocol
import UsbRestore.Qt.Utf8
import Mathlib.Data.List.Chain

/-!
# Protocol lines

Every line is a keyword and fields divided by spaces; the last field may be any text that the
sanitizer lets through, which is text of one line.
-/

namespace UsbRestore

def space : QChar := QChar.ofChar ' '

/-! ## The sanitizer -/

def isProtocolSeparator (character : QChar) : Bool :=
  QChar.isSpace character || QChar.isControl character

/-- The loop of `sanitizeProtocolText` over what is left of the text. -/
def sanitizeFrom (sanitized : QString) (pendingSpace : Bool) : QString → QString
  | [] => sanitized
  | character :: text =>
    if isProtocolSeparator character then sanitizeFrom sanitized (!sanitized.isEmpty) text
    else if sanitized.length + (if pendingSpace then 2 else 1) > MaxProtocolTextLength then
      sanitized
    else
      sanitizeFrom ((if pendingSpace then sanitized ++ [space] else sanitized) ++ [character])
        false text

/-- Drops a lone first half of a surrogate pair at the end. -/
def chopHalfPair (sanitized : QString) : QString :=
  if sanitized.getLast?.any QChar.isHighSurrogate then sanitized.dropLast else sanitized

def chopSpace (sanitized : QString) : QString :=
  if sanitized.getLast? = some space then sanitized.dropLast else sanitized

def sanitizeProtocolText (text : QString) : QString :=
  chopSpace (chopHalfPair (sanitizeFrom [] false text))

/-! ## Encoding -/

def encodeVersionLine (version : Int) (appVersion : QString) (plan : List RestoreStep) : QString :=
  let line := (QStringLiteral "version %1").arg [.numberInt version]
  let app := sanitizeProtocolText appVersion
  let line :=
    if !app.isEmpty && !app.contains space then line ++ (QStringLiteral " app %1").arg [app]
    else line
  line ++
    ((QStringLiteral " steps %1 destructive %2").arg [.number plan.length]).arg
      [.number (firstDestructiveStepOf plan)]

def encodeStepLine (step totalSteps : Int) (message : QString) : QString :=
  (((QStringLiteral "step %1/%2 %3").arg [.numberInt step]).arg [.numberInt totalSteps]).arg
    [sanitizeProtocolText message]

def encodeDetailLine (message : QString) : QString :=
  (QStringLiteral "detail %1").arg [sanitizeProtocolText message]

def encodeFailureLine (message : QString) : QString :=
  (QStringLiteral "failure %1").arg [sanitizeProtocolText message]

def encodeResultLine (location : QString) : QString :=
  (QStringLiteral "result %1").arg [sanitizeProtocolText location]

def newline : UInt8 := 10

/-- A line as it is written to a stream, with its newline. -/
def lineBytes (line : QString) : List UInt8 := QString.toUtf8 line ++ [newline]

/-! ## Parsing -/

inductive ProtocolLineKind where
  | unknown
  | version
  | step
  | detail
  | failure
  | result
  deriving DecidableEq

structure ProtocolLine where
  kind : ProtocolLineKind := .unknown
  version : Int := 0
  appVersion : QString := []
  firstDestructiveStep : Int := 0
  step : Int := 0
  totalSteps : Int := 0
  text : QString := []
  deriving DecidableEq

/-- The keys and values after the version number. None where one of them is malformed. -/
def parseVersionDetails (details : ProtocolLine) (seen : List QString) :
    List QString → Option ProtocolLine
  | [] => some details
  | [_] => none
  | key :: value :: fields =>
    if value.isEmpty || seen.contains key then none
    else if key = QStringLiteral "app" then
      parseVersionDetails { details with appVersion := value } (seen ++ [key]) fields
    else if key = QStringLiteral "steps" then
      match value.toInt with
      | some count =>
        parseVersionDetails { details with totalSteps := count } (seen ++ [key]) fields
      | none => none
    else if key = QStringLiteral "destructive" then
      match value.toInt with
      | some step =>
        parseVersionDetails { details with firstDestructiveStep := step } (seen ++ [key]) fields
      | none => none
    else none

def parseVersionFields (fields : List QString) : ProtocolLine :=
  match (fields.headD []).toInt with
  | none => {}
  | some version =>
    let parsed : ProtocolLine := { kind := .version, version }
    (parseVersionDetails parsed [] fields.tail).getD parsed

/-- The counts and the message after the keyword `step`. -/
def parseStepFields (remainder : QString) : ProtocolLine :=
  if remainder.head? = some space ∨ remainder.isEmpty then {}
  else
    let (counts, text) := (QString.cut space remainder).getD (remainder, [])
    match QString.split (QChar.ofChar '/') counts with
    | [step, totalSteps] =>
      match step.toInt, totalSteps.toInt with
      | some step, some totalSteps => { kind := .step, step, totalSteps, text }
      | _, _ => {}
    | _ => {}

def parseProtocolLine (line : QString) : ProtocolLine :=
  let trimmed := line.trimmed
  if trimmed.isEmpty then {}
  else
    let (keyword, remainder) := (QString.cut space trimmed).getD (trimmed, [])
    if keyword = QStringLiteral "version" then
      parseVersionFields (QString.splitSkipEmpty space remainder)
    else if keyword = QStringLiteral "step" then parseStepFields remainder
    else if keyword = QStringLiteral "detail" then { kind := .detail, text := remainder }
    else if keyword = QStringLiteral "failure" then { kind := .failure, text := remainder }
    else if keyword = QStringLiteral "result" then { kind := .result, text := remainder }
    else {}

/-! ## What the sanitizer returns -/

/-- Words with single spaces between them; the text may end in such a space. -/
structure IsWorded (text : QString) : Prop where
  separators : ∀ c ∈ text, c = space ∨ isProtocolSeparator c = false
  head : ∀ c ∈ text.head?, isProtocolSeparator c = false
  words : text.IsChain (fun c d => c = space → isProtocolSeparator d = false)
  bounded : text.length ≤ MaxProtocolTextLength

/-- Text that a protocol line carries as it is. -/
structure IsLineText (text : QString) : Prop extends IsWorded text where
  last : ∀ c ∈ text.getLast?, isProtocolSeparator c = false

theorem isProtocolSeparator_space : isProtocolSeparator space = true := by decide

theorem IsWorded.of_prefix {s t : QString} (ht : IsWorded t) (h : s <+: t) : IsWorded s where
  separators c hc := ht.separators c (h.subset hc)
  head c hc := by
    refine ht.head c ?_
    obtain ⟨more, rfl⟩ := h
    cases s with
    | nil => cases hc
    | cons d s => exact hc
  words := ht.words.prefix h
  bounded := h.length_le.trans ht.bounded

theorem IsLineText.nil : IsLineText [] where
  separators := nofun
  head := nofun
  words := .nil
  bounded := Nat.zero_le _
  last := nofun

/-- One more character that is not a separator. -/
theorem IsLineText.concat {s : QString} {c : QChar} (hs : IsLineText s)
    (hc : isProtocolSeparator c = false) (hlen : s.length + 1 ≤ MaxProtocolTextLength) :
    IsLineText (s ++ [c]) where
  separators d hd := by
    rcases List.mem_append.mp hd with hd | hd
    · exact hs.separators d hd
    · rw [List.mem_singleton.mp hd]
      exact .inr hc
  head d hd := by
    cases s with
    | nil => rwa [← Option.some.inj hd]
    | cons e s => exact hs.head d hd
  words := by
    rw [List.isChain_append]
    refine ⟨hs.words, .singleton c, ?_⟩
    intro d _ e he _
    rwa [← Option.some.inj he]
  bounded := by rwa [List.length_append, List.length_singleton]
  last d hd := by
    rw [List.getLast?_concat] at hd
    rwa [← Option.some.inj hd]

/-- One more word. -/
theorem IsLineText.concat_word {s : QString} {c : QChar} (hs : IsLineText s) (hne : s ≠ [])
    (hc : isProtocolSeparator c = false) (hlen : s.length + 2 ≤ MaxProtocolTextLength) :
    IsLineText (s ++ [space] ++ [c]) where
  separators d hd := by
    simp only [List.append_assoc, List.cons_append, List.nil_append, List.mem_append,
      List.mem_cons, List.not_mem_nil, or_false] at hd
    rcases hd with hd | rfl | rfl
    · exact hs.separators d hd
    · exact .inl rfl
    · exact .inr hc
  head d hd := by
    cases s with
    | nil => exact absurd rfl hne
    | cons e s => exact hs.head d hd
  words := by
    rw [List.append_assoc, List.isChain_append]
    refine ⟨hs.words, .cons_cons (fun _ => hc) (.singleton c), ?_⟩
    rintro d hd e he rfl
    -- the text so far does not end in a space
    have hspace := hs.last space hd
    rw [isProtocolSeparator_space] at hspace
    cases hspace
  bounded := by
    rw [List.length_append, List.length_append, List.length_singleton, List.length_singleton]
    omega
  last d hd := by
    rw [List.getLast?_concat] at hd
    rwa [← Option.some.inj hd]

/-- The loop keeps the text fit for a line. -/
theorem sanitizeFrom_isLineText {sanitized : QString} {pendingSpace : Bool} (text : QString)
    (hs : IsLineText sanitized) (hpending : pendingSpace = true → sanitized ≠ []) :
    IsLineText (sanitizeFrom sanitized pendingSpace text) := by
  fun_induction sanitizeFrom sanitized pendingSpace text with
  | case1 => exact hs
  | case2 sanitized pendingSpace c text hc ih =>
    refine ih hs ?_
    rw [Bool.not_eq_true']
    exact fun hne hnil => by simp [hnil] at hne
  | case3 => exact hs
  | case4 sanitized pendingSpace c text hc hlen ih =>
    rw [Bool.not_eq_true] at hc
    refine ih ?_ nofun
    cases pendingSpace with
    | false => exact hs.concat hc (by simpa using hlen)
    | true => exact hs.concat_word (hpending rfl) hc (by simpa using hlen)

theorem chopHalfPair_isPrefix (s : QString) : chopHalfPair s <+: s := by
  unfold chopHalfPair
  split_ifs
  · exact List.dropLast_prefix s
  · exact List.prefix_rfl

theorem chopSpace_isPrefix (s : QString) : chopSpace s <+: s := by
  unfold chopSpace
  split_ifs
  · exact List.dropLast_prefix s
  · exact List.prefix_rfl

/-- Without the space it may end in, worded text is fit for a line. -/
theorem chopSpace_isLineText {s : QString} (hs : IsWorded s) : IsLineText (chopSpace s) := by
  refine { toIsWorded := hs.of_prefix (chopSpace_isPrefix s), last := ?_ }
  rcases List.eq_nil_or_concat s with rfl | ⟨t, c, rfl⟩
  · nofun
  · rw [List.concat_eq_append] at hs ⊢
    unfold chopSpace
    rw [List.getLast?_concat]
    split_ifs with hc
    · rw [List.dropLast_concat]
      intro d hd
      -- two spaces never stand side by side
      have hnext : d = space → isProtocolSeparator c = false :=
        (List.isChain_append.mp hs.words).2.2 d hd c rfl
      rw [Option.some.inj hc, isProtocolSeparator_space] at hnext
      exact (hs.separators d (by simp [List.mem_of_getLast? hd])).resolve_left
        (fun h => Bool.noConfusion (hnext h))
    · intro d hd
      rw [List.getLast?_concat] at hd
      obtain rfl := Option.some.inj hd
      exact (hs.separators c (by simp)).resolve_left (fun h => hc (by rw [h]))

theorem sanitizeProtocolText_isLineText (text : QString) :
    IsLineText (sanitizeProtocolText text) :=
  have hloop : IsLineText (sanitizeFrom [] false text) := sanitizeFrom_isLineText text .nil nofun
  chopSpace_isLineText (hloop.toIsWorded.of_prefix (chopHalfPair_isPrefix _))

/-! ## Surrogate pairs -/

/-- A separator is no surrogate. -/
theorem not_isSurrogate_of_isProtocolSeparator {c : QChar} (h : isProtocolSeparator c = true) :
    QChar.isHighSurrogate c = false ∧ QChar.isLowSurrogate c = false := by
  have hrange : c.toNat ≤ 0x3000 := by
    simp only [isProtocolSeparator, QChar.isSpace, QChar.isControl, Bool.or_eq_true,
      Bool.and_eq_true, decide_eq_true_eq, beq_iff_eq, UInt16.le_iff_toNat_le,
      ← UInt16.toNat_inj, UInt16.reduceToNat] at h
    omega
  rw [Bool.eq_false_iff, Bool.eq_false_iff, ne_eq, ne_eq, Utf8.isHighSurrogate_iff,
    Utf8.isLowSurrogate_iff]
  omega

/-- The loop leaves at most one pair open, where it stopped inside it. -/
theorem sanitizeFrom_pairing {sanitized : QString} {pendingSpace halfOpen : Bool} (text : QString)
    (hs : Utf8.pairing false sanitized = some halfOpen)
    (hpending : pendingSpace = true → halfOpen = false)
    (htext : Utf8.pairing halfOpen text = some false) :
    ∃ left, Utf8.pairing false (sanitizeFrom sanitized pendingSpace text) = some left := by
  fun_induction sanitizeFrom sanitized pendingSpace text generalizing halfOpen with
  | case1 => exact ⟨halfOpen, hs⟩
  | case2 sanitized pendingSpace c text hc ih =>
    obtain ⟨hhigh, hlow⟩ := not_isSurrogate_of_isProtocolSeparator hc
    cases halfOpen with
    | true => simp [Utf8.pairing, hlow] at htext
    | false =>
      simp only [Utf8.pairing, hhigh, hlow, Bool.false_eq_true, if_false] at htext
      exact ih hs (fun _ => rfl) htext
  | case3 => exact ⟨halfOpen, hs⟩
  | case4 sanitized pendingSpace c text hc hlen ih =>
    -- the character moves both readings on in the same way
    rw [← List.singleton_append, Utf8.pairing_append] at htext
    obtain ⟨now, hnow, htext⟩ := Option.bind_eq_some_iff.mp htext
    refine ih ?_ (fun h => absurd h Bool.false_ne_true) htext
    cases pendingSpace with
    | false =>
      rw [if_neg Bool.false_ne_true, Utf8.pairing_append, hs]
      exact hnow
    | true =>
      rw [hpending rfl] at hs hnow
      rw [if_pos rfl, Utf8.pairing_append, Utf8.pairing_append, hs]
      exact hnow

theorem chopHalfPair_isWellFormed {s : QString} {halfOpen : Bool}
    (hs : Utf8.pairing false s = some halfOpen) : Utf8.IsWellFormed (chopHalfPair s) := by
  rcases List.eq_nil_or_concat s with rfl | ⟨t, c, rfl⟩
  · rfl
  · rw [List.concat_eq_append] at hs ⊢
    unfold chopHalfPair
    rw [List.getLast?_concat, Option.any_some]
    cases halfOpen with
    | true =>
      obtain ⟨hhigh, ht⟩ := Utf8.pairing_concat_true hs
      rw [if_pos hhigh, List.dropLast_concat]
      exact ht
    | false =>
      rw [Utf8.pairing_concat_false hs, if_neg Bool.false_ne_true]
      exact hs

theorem chopSpace_isWellFormed {s : QString} (hs : Utf8.IsWellFormed s) :
    Utf8.IsWellFormed (chopSpace s) := by
  unfold chopSpace
  split_ifs with h
  · obtain ⟨t, rfl⟩ := List.getLast?_eq_some_iff.mp h
    rw [List.dropLast_concat]
    unfold Utf8.IsWellFormed at hs ⊢
    rw [Utf8.pairing_append] at hs
    obtain ⟨now, ht, hspace⟩ := Option.bind_eq_some_iff.mp hs
    cases now with
    | false => exact ht
    | true => exact absurd hspace (by decide)
  · exact hs

/-- Sanitizing well-formed text splits no pair. -/
theorem sanitizeProtocolText_isWellFormed {text : QString} (h : Utf8.IsWellFormed text) :
    Utf8.IsWellFormed (sanitizeProtocolText text) := by
  have hnil : Utf8.pairing false [] = some false := rfl
  have hloop : ∃ left, Utf8.pairing false (sanitizeFrom [] false text) = some left :=
    sanitizeFrom_pairing text hnil nofun h
  obtain ⟨left, hleft⟩ := hloop
  exact chopSpace_isWellFormed (chopHalfPair_isWellFormed hleft)

end UsbRestore
