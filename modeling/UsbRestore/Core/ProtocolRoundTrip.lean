-- SUMMARY: Every line that an encoder writes parses as the message it was written for.
import UsbRestore.Core.ProtocolLine
import Mathlib.Data.Nat.Digits.Defs

/-!
# Reading lines back

A line is a keyword, its fields and a text, divided by spaces. Trimming it removes at most the
space before an empty text, and cutting it at a space finds the fields again.
-/

namespace UsbRestore

/-- A message of the helper, before it is encoded. -/
inductive HelperMessage where
  | version (version : Int) (appVersion : QString) (plan : List RestoreStep)
  | step (step totalSteps : Int) (message : QString)
  | detail (message : QString)
  | failure (message : QString)
  | result (location : QString)

namespace HelperMessage

def encode : HelperMessage → QString
  | .version number appVersion plan => encodeVersionLine number appVersion plan
  | .step done total message => encodeStepLine done total message
  | .detail message => encodeDetailLine message
  | .failure message => encodeFailureLine message
  | .result location => encodeResultLine location

/-- The application version as it is announced, empty where it is left out. -/
def announcedApp (appVersion : QString) : QString :=
  let app := sanitizeProtocolText appVersion
  if app.contains space then [] else app

/-- What the reader should make of the message. -/
def expected : HelperMessage → ProtocolLine
  | .version number appVersion plan =>
    { kind := .version
      version := number
      appVersion := announcedApp appVersion
      totalSteps := plan.length
      firstDestructiveStep := firstDestructiveStepOf plan }
  | .step done total message =>
    { kind := .step, step := done, totalSteps := total, text := sanitizeProtocolText message }
  | .detail message => { kind := .detail, text := sanitizeProtocolText message }
  | .failure message => { kind := .failure, text := sanitizeProtocolText message }
  | .result location => { kind := .result, text := sanitizeProtocolText location }

/-- Numbers that an `int` holds, those that count the plan's steps included, and texts without
half a surrogate pair. -/
def IsValid : HelperMessage → Prop
  | .version number appVersion plan =>
    QString.FitsInt number ∧ Utf8.IsWellFormed appVersion ∧ plan.length < 2147483647
  | .step done total message =>
    QString.FitsInt done ∧ QString.FitsInt total ∧ Utf8.IsWellFormed message
  | .detail message | .failure message | .result message => Utf8.IsWellFormed message

end HelperMessage

/-! ## Words -/

/-- A word and, when there is any, a text after it. -/
def joinWords (word text : QString) : QString :=
  if text.isEmpty then word else word ++ space :: text

theorem isSpace_of_separator {c : QChar} (h : isProtocolSeparator c = false) :
    QChar.isSpace c = false := by
  rw [isProtocolSeparator, Bool.or_eq_false_iff] at h
  exact h.1

/-- A word starts and ends with something to print. -/
structure IsWord (word : QString) : Prop where
  nonempty : word ≠ []
  head : ∀ c ∈ word.head?, QChar.isSpace c = false
  last : ∀ c ∈ word.getLast?, QChar.isSpace c = false

/-- Trimming removes the space before an empty text and nothing else. -/
theorem trimmed_joined {word text : QString} (hword : IsWord word) (htext : IsLineText text) :
    QString.trimmed (word ++ space :: text) = joinWords word text := by
  cases htext' : text with
  | nil => exact QString.trimmed_append_space rfl hword.head hword.last
  | cons c rest =>
    rw [joinWords, List.isEmpty_cons, if_neg Bool.false_ne_true]
    apply QString.trimmed_eq_self
    · intro d hd
      rw [List.head?_append_of_ne_nil _ hword.nonempty] at hd
      exact hword.head d hd
    · intro d hd
      rw [List.getLast?_append_of_ne_nil _ (by simp), List.getLast?_cons_cons] at hd
      exact isSpace_of_separator (htext.last d (htext' ▸ hd))

/-- The first word is what is cut off, and the rest is the text. -/
theorem cut_joinWords {word : QString} (hword : space ∉ word) (text : QString) :
    (QString.cut space (joinWords word text)).getD (joinWords word text, []) = (word, text) := by
  unfold joinWords
  cases text with
  | nil =>
    rw [List.isEmpty_nil, if_pos rfl, QString.cut_eq_none hword]
    rfl
  | cons c text =>
    rw [List.isEmpty_cons, if_neg Bool.false_ne_true, QString.cut_append_sep hword]
    rfl

theorem joinWords_ne_nil {word : QString} (hword : word ≠ []) (text : QString) :
    (joinWords word text).isEmpty = false := by
  unfold joinWords
  split_ifs <;> simp [hword]

theorem joinWords_append (first second text : QString) :
    joinWords (first ++ space :: second) text = first ++ space :: joinWords second text := by
  unfold joinWords
  split_ifs
  · rfl
  · rw [List.append_assoc, List.cons_append]

/-! ## Printed numbers -/

/-- A digit or a minus sign. -/
theorem mem_numberInt {i : Int} {c : QChar} (h : c ∈ QString.numberInt i) :
    c = QChar.ofChar '-' ∨ QChar.isDigit c = true := by
  cases i with
  | ofNat n => exact .inr (QString.isDigit_of_mem_number h)
  | negSucc n =>
    rcases List.mem_cons.mp h with h | h
    · exact .inl h
    · exact .inr (QString.isDigit_of_mem_number h)

theorem not_mem_numberInt {i : Int} {c : QChar} (hc : QChar.isDigit c = false)
    (hminus : c ≠ QChar.ofChar '-') : c ∉ QString.numberInt i := by
  intro h
  rcases mem_numberInt h with h | h
  · exact hminus h
  · rw [hc] at h
    cases h

theorem numberInt_ne_nil (i : Int) : QString.numberInt i ≠ [] := by
  cases i with
  | ofNat n => exact QString.number_ne_nil n
  | negSucc n => nofun

theorem isSpace_of_mem_numberInt {i : Int} {c : QChar} (h : c ∈ QString.numberInt i) :
    QChar.isSpace c = false := by
  rcases mem_numberInt h with rfl | h
  · decide
  · exact QString.isSpace_of_isDigit h

/-- A number that fits an int is read back. -/
theorem toInt_number_of_fits {n : Nat} (h : n ≤ 2147483647) :
    (QString.number n).toInt = some (n : Int) := by
  have hfits : QString.FitsInt n := by
    unfold QString.FitsInt
    omega
  exact QString.toInt_numberInt hfits

/-! ## The encoded lines -/

theorem arg_marker (text : QString) : (QStringLiteral "%1").arg [text] = text :=
  List.append_nil text

theorem encodeDetailLine_eq (message : QString) :
    encodeDetailLine message = QStringLiteral "detail" ++ space :: sanitizeProtocolText message := by
  have hformat : QStringLiteral "detail %1" = QStringLiteral "detail " ++ QStringLiteral "%1" := rfl
  rw [encodeDetailLine, hformat, QString.arg_append (by decide), arg_marker]
  rfl

theorem encodeFailureLine_eq (message : QString) :
    encodeFailureLine message
      = QStringLiteral "failure" ++ space :: sanitizeProtocolText message := by
  have hformat : QStringLiteral "failure %1" = QStringLiteral "failure " ++ QStringLiteral "%1" :=
    rfl
  rw [encodeFailureLine, hformat, QString.arg_append (by decide), arg_marker]
  rfl

theorem encodeResultLine_eq (location : QString) :
    encodeResultLine location
      = QStringLiteral "result" ++ space :: sanitizeProtocolText location := by
  have hformat : QStringLiteral "result %1" = QStringLiteral "result " ++ QStringLiteral "%1" := rfl
  rw [encodeResultLine, hformat, QString.arg_append (by decide), arg_marker]
  rfl

/-- `step/totalSteps` -/
def stepCounts (step totalSteps : Int) : QString :=
  QString.numberInt step ++ QChar.ofChar '/' :: QString.numberInt totalSteps

theorem encodeStepLine_eq (step totalSteps : Int) (message : QString) :
    encodeStepLine step totalSteps message
      = (QStringLiteral "step" ++ space :: stepCounts step totalSteps) ++
          space :: sanitizeProtocolText message := by
  have hpercent : ∀ i, QChar.ofChar '%' ∉ QString.numberInt i :=
    fun i => not_mem_numberInt (by decide) (by decide)
  have hfirst : (QStringLiteral "step %1/%2 %3").arg [.numberInt step]
      = (QStringLiteral "step " ++ QString.numberInt step ++ QStringLiteral "/") ++
          QStringLiteral "%2 %3" := by
    have hformat : QStringLiteral "step %1/%2 %3"
        = QStringLiteral "step " ++ QStringLiteral "%1/%2 %3" := rfl
    rw [hformat, QString.arg_append (by decide)]
    simp only [List.append_assoc]
    rfl
  have hsecond : (QStringLiteral "%2 %3").arg [.numberInt totalSteps]
      = QString.numberInt totalSteps ++ QStringLiteral " %3" := rfl
  have hthird : (QStringLiteral " %3").arg [sanitizeProtocolText message]
      = space :: sanitizeProtocolText message := congrArg (space :: ·) (List.append_nil _)
  rw [encodeStepLine, hfirst, QString.arg_append, hsecond, ← List.append_assoc,
    QString.arg_append, hthird]
  · simp only [stepCounts, List.append_assoc, List.cons_append]
    rfl
  · simp [hpercent]
    decide
  · simp [hpercent]
    decide

/-- The fields of a version line after the keyword, in their order. -/
def versionFields (number : Int) (app : QString) (plan : List RestoreStep) : List QString :=
  [QString.numberInt number] ++ (if app.isEmpty then [] else [QStringLiteral "app", app]) ++
    [QStringLiteral "steps", QString.number plan.length, QStringLiteral "destructive",
      QString.number (firstDestructiveStepOf plan)]

/-- Fields, each with a space before it. -/
def spaced (fields : List QString) : QString := fields.flatMap (fun field => space :: field)

theorem encodeVersionLine_eq (number : Int) (appVersion : QString) (plan : List RestoreStep) :
    encodeVersionLine number appVersion plan
      = QStringLiteral "version" ++
          spaced (versionFields number (HelperMessage.announcedApp appVersion) plan) := by
  have hversion : (QStringLiteral "version %1").arg [.numberInt number]
      = QStringLiteral "version " ++ QString.numberInt number := by
    have hformat : QStringLiteral "version %1"
        = QStringLiteral "version " ++ QStringLiteral "%1" := rfl
    rw [hformat, QString.arg_append (by decide), arg_marker]
  have happ : ∀ app, (QStringLiteral " app %1").arg [app] = QStringLiteral " app " ++ app := by
    intro app
    have hformat : QStringLiteral " app %1" = QStringLiteral " app " ++ QStringLiteral "%1" := rfl
    rw [hformat, QString.arg_append (by decide), arg_marker]
  have hplan : ((QStringLiteral " steps %1 destructive %2").arg [.number plan.length]).arg
      [.number (firstDestructiveStepOf plan)]
      = QStringLiteral " steps " ++ QString.number plan.length ++
          QStringLiteral " destructive " ++ QString.number (firstDestructiveStepOf plan) := by
    have hfirst : (QStringLiteral " steps %1 destructive %2").arg [.number plan.length]
        = (QStringLiteral " steps " ++ QString.number plan.length ++
            QStringLiteral " destructive ") ++ QStringLiteral "%2" := by
      have hformat : QStringLiteral " steps %1 destructive %2"
          = QStringLiteral " steps " ++ QStringLiteral "%1 destructive %2" := rfl
      rw [hformat, QString.arg_append (by decide)]
      simp only [List.append_assoc]
      rfl
    have hsecond : ∀ text, (QStringLiteral "%2").arg [text] = text := List.append_nil
    rw [hfirst, QString.arg_append, hsecond]
    have hpercent : QChar.ofChar '%' ∉ QString.number plan.length :=
      QString.not_mem_number (by decide)
    simp [hpercent]
    decide
  simp only [encodeVersionLine, hversion, hplan, HelperMessage.announcedApp, versionFields, happ]
  by_cases hspace : (sanitizeProtocolText appVersion).contains space = true
  · simp only [hspace, Bool.not_true, Bool.and_false, Bool.false_eq_true, if_false, if_true,
      List.isEmpty_nil, List.append_nil, spaced, List.flatMap_append, List.flatMap_cons,
      List.flatMap_nil, List.append_assoc]
    rfl
  · rw [Bool.not_eq_true] at hspace
    by_cases hempty : (sanitizeProtocolText appVersion).isEmpty = true
    · simp only [hspace, hempty, Bool.not_true, Bool.not_false, Bool.and_true,
        Bool.false_eq_true, if_false, if_true, List.append_nil, spaced, List.flatMap_append,
        List.flatMap_cons, List.flatMap_nil, List.append_assoc]
      rfl
    · rw [Bool.not_eq_true] at hempty
      simp only [hspace, hempty, Bool.not_false, Bool.and_true, Bool.false_eq_true, if_false,
        if_true, List.append_nil, spaced, List.flatMap_append, List.flatMap_cons,
        List.flatMap_nil, List.append_assoc]
      rfl

/-! ## Reading the fields -/

/-- Fields without spaces that are written with spaces between them are split as they were
written. -/
theorem splitSkipEmpty_spaced {field : QString} {fields : List QString}
    (hfield : space ∉ field ∧ field ≠ [])
    (hfields : ∀ other ∈ fields, space ∉ other ∧ other ≠ []) :
    QString.splitSkipEmpty space (field ++ spaced fields) = field :: fields := by
  induction fields generalizing field with
  | nil =>
    rw [spaced, List.flatMap_nil, List.append_nil]
    exact QString.splitSkipEmpty_eq_singleton hfield.1 hfield.2
  | cons next fields ih =>
    have hnext := hfields next (by simp)
    rw [spaced, List.flatMap_cons, List.cons_append,
      QString.splitSkipEmpty_append_sep hfield.1 hfield.2]
    rw [← spaced, ih hnext (fun other hother => hfields other (by simp [hother]))]

theorem announcedApp_ok (appVersion : QString) :
    space ∉ HelperMessage.announcedApp appVersion := by
  unfold HelperMessage.announcedApp
  dsimp only
  split_ifs with h
  · exact List.not_mem_nil
  · rwa [List.contains_iff_mem] at h

theorem versionFields_ok {number : Int} {app : QString} {plan : List RestoreStep}
    (happ : space ∉ app) :
    ∀ field ∈ versionFields number app plan, space ∉ field ∧ field ≠ [] := by
  have hnumber : ∀ n, space ∉ QString.number n ∧ QString.number n ≠ [] :=
    fun n => ⟨QString.not_mem_number (by decide), QString.number_ne_nil n⟩
  intro field hfield
  rw [versionFields, List.append_assoc] at hfield
  rcases List.mem_append.mp hfield with h | h
  · rw [List.mem_singleton.mp h]
    exact ⟨not_mem_numberInt (by decide) (by decide), numberInt_ne_nil number⟩
  · rcases List.mem_append.mp h with h | h
    · split_ifs at h with hempty
      · cases h
      · simp only [List.mem_cons, List.not_mem_nil, or_false] at h
        rcases h with rfl | rfl
        · exact ⟨by decide, by decide⟩
        · exact ⟨happ, by simpa using hempty⟩
    · simp only [List.mem_cons, List.not_mem_nil, or_false] at h
      rcases h with rfl | rfl | rfl | rfl
      · exact ⟨by decide, by decide⟩
      · exact hnumber _
      · exact ⟨by decide, by decide⟩
      · exact hnumber _

theorem firstDestructiveStepOf_le (plan : List RestoreStep) :
    firstDestructiveStepOf plan ≤ plan.length + 1 :=
  Nat.succ_le_succ List.findIdx_le_length

/-- The number, the application and the plan of an announcement are read back from its fields as
they were written. -/
theorem parseVersionFields_encoded {number : Int} {app : QString} {plan : List RestoreStep}
    (hnumber : QString.FitsInt number) (happ : space ∉ app) (hplan : plan.length < 2147483647) :
    parseVersionFields (versionFields number app plan)
      = { kind := .version
          version := number
          appVersion := app
          totalSteps := plan.length
          firstDestructiveStep := firstDestructiveStepOf plan } := by
  have hsteps : (QString.number plan.length).toInt = some (plan.length : Int) :=
    toInt_number_of_fits (by omega)
  have hfirst : (QString.number (firstDestructiveStepOf plan)).toInt
      = some (firstDestructiveStepOf plan : Int) :=
    toInt_number_of_fits ((firstDestructiveStepOf_le plan).trans (by omega))
  have hne : ∀ n, (QString.number n).isEmpty = false := by simp [QString.number_ne_nil]
  have hother : QStringLiteral "steps" ≠ QStringLiteral "app" ∧
      QStringLiteral "destructive" ≠ QStringLiteral "app" ∧
      QStringLiteral "destructive" ≠ QStringLiteral "steps" := by decide
  unfold versionFields
  cases hempty : app.isEmpty with
  | true =>
    rw [List.isEmpty_iff] at hempty
    subst hempty
    simp [parseVersionFields, QString.toInt_numberInt hnumber, parseVersionDetails, hne, hsteps,
      hfirst, hother]
  | false =>
    simp [parseVersionFields, QString.toInt_numberInt hnumber, parseVersionDetails, hne, hsteps,
      hfirst, hother, hempty]

/-! ## Reading the lines -/

/-- A line of a keyword and a text reads as both. -/
theorem parseProtocolLine_joined {keyword text : QString} (hkeyword : IsWord keyword)
    (hspace : space ∉ keyword) (htext : IsLineText text) :
    parseProtocolLine (keyword ++ space :: text)
      = if keyword = QStringLiteral "version" then
          parseVersionFields (QString.splitSkipEmpty space text)
        else if keyword = QStringLiteral "step" then parseStepFields text
        else if keyword = QStringLiteral "detail" then { kind := .detail, text }
        else if keyword = QStringLiteral "failure" then { kind := .failure, text }
        else if keyword = QStringLiteral "result" then { kind := .result, text }
        else {} := by
  rw [parseProtocolLine, trimmed_joined hkeyword htext]
  dsimp only
  rw [joinWords_ne_nil hkeyword.nonempty, if_neg Bool.false_ne_true, cut_joinWords hspace]

/-- The parser trims by itself. -/
theorem parseProtocolLine_trimmed (line : QString) :
    parseProtocolLine line.trimmed = parseProtocolLine line := by
  unfold parseProtocolLine
  rw [QString.trimmed_trimmed]

theorem stepCounts_isWord (done total : Int) :
    IsWord (QStringLiteral "step" ++ space :: stepCounts done total) where
  nonempty := by simp
  head c hc := by
    rw [List.head?_append_of_ne_nil _ (by decide)] at hc
    rw [← Option.some.inj hc]
    decide
  last c hc := by
    refine isSpace_of_mem_numberInt (i := total) ?_
    rw [stepCounts, List.getLast?_append_of_ne_nil _ (by simp), ← List.cons_append,
      List.getLast?_append_of_ne_nil _ (by simp),
      List.getLast?_cons_of_ne_nil (numberInt_ne_nil total)] at hc
    exact List.mem_of_getLast? hc

theorem not_mem_stepCounts {c : QChar} (hc : QChar.isDigit c = false)
    (hminus : c ≠ QChar.ofChar '-') (hslash : c ≠ QChar.ofChar '/') (done total : Int) :
    c ∉ stepCounts done total := by
  simp only [stepCounts, List.mem_append, List.mem_cons, not_or]
  exact ⟨not_mem_numberInt hc hminus, hslash, not_mem_numberInt hc hminus⟩

/-- The two counts of a step are read back, and what follows them is the text. -/
theorem parseStepFields_encoded {done total : Int} (hdone : QString.FitsInt done)
    (htotal : QString.FitsInt total) (text : QString) :
    parseStepFields (joinWords (stepCounts done total) text)
      = { kind := .step, step := done, totalSteps := total, text } := by
  have hspace : space ∉ stepCounts done total :=
    not_mem_stepCounts (by decide) (by decide) (by decide) done total
  have hne : stepCounts done total ≠ [] := by simp [stepCounts]
  have hslash : ∀ i, QChar.ofChar '/' ∉ QString.numberInt i :=
    fun i => not_mem_numberInt (by decide) (by decide)
  have hhead : (joinWords (stepCounts done total) text).head? ≠ some space := by
    intro h
    refine hspace (List.mem_of_mem_head? ?_)
    unfold joinWords at h
    split_ifs at h
    · exact h
    · rwa [List.head?_append_of_ne_nil _ hne] at h
  have hsplit : QString.split (QChar.ofChar '/') (stepCounts done total)
      = [QString.numberInt done, QString.numberInt total] := by
    rw [stepCounts, QString.split_append_sep (hslash done), QString.split_eq_singleton (hslash total)]
  rw [parseStepFields, if_neg (by simp [hhead, joinWords_ne_nil hne]), cut_joinWords hspace]
  dsimp only
  rw [hsplit]
  simp only [QString.toInt_numberInt hdone, QString.toInt_numberInt htotal]

/-- The fields of a version line end it in a digit. -/
theorem trimmed_versionLine (number : Int) (app : QString) (plan : List RestoreStep) :
    QString.trimmed (QStringLiteral "version" ++ spaced (versionFields number app plan))
      = QStringLiteral "version" ++ spaced (versionFields number app plan) := by
  apply QString.trimmed_eq_self
  · intro c hc
    rw [List.head?_append_of_ne_nil _ (by decide)] at hc
    rw [← Option.some.inj hc]
    decide
  · intro c hc
    have hlast : spaced (versionFields number app plan)
        = (spaced ([QString.numberInt number] ++
            (if app.isEmpty then [] else [QStringLiteral "app", app]) ++
            [QStringLiteral "steps", QString.number plan.length, QStringLiteral "destructive"]) ++
              [space]) ++ QString.number (firstDestructiveStepOf plan) := by
      simp [versionFields, spaced]
    have hne := QString.number_ne_nil (firstDestructiveStepOf plan)
    rw [hlast, ← List.append_assoc, List.getLast?_append_of_ne_nil _ hne] at hc
    exact QString.isSpace_of_isDigit (QString.isDigit_of_mem_number (List.mem_of_getLast? hc))

/-- The line that announces a version is read as that announcement, whatever the name of the
application is. -/
theorem parseProtocolLine_version {number : Int} {appVersion : QString} {plan : List RestoreStep}
    (hnumber : QString.FitsInt number) (hplan : plan.length < 2147483647) :
    parseProtocolLine (encodeVersionLine number appVersion plan)
      = (HelperMessage.version number appVersion plan).expected := by
  have happ := announcedApp_ok appVersion
  have hok : ∀ field ∈ versionFields number (HelperMessage.announcedApp appVersion) plan,
      space ∉ field ∧ field ≠ [] := versionFields_ok happ
  rw [encodeVersionLine_eq, parseProtocolLine, trimmed_versionLine]
  cases hfields : versionFields number (HelperMessage.announcedApp appVersion) plan with
  | nil => simp [versionFields] at hfields
  | cons field fields =>
    rw [hfields] at hok
    have hcut : QString.cut space (QStringLiteral "version" ++ spaced (field :: fields))
        = some (QStringLiteral "version", field ++ spaced fields) := by
      rw [spaced, List.flatMap_cons, List.cons_append]
      exact QString.cut_append_sep (by decide)
    dsimp only
    have hne : (QStringLiteral "version" ++ spaced (field :: fields)).isEmpty = false := by
      simp [spaced]
    rw [hne, if_neg Bool.false_ne_true, hcut, Option.getD_some]
    dsimp only
    rw [if_pos rfl, splitSkipEmpty_spaced (hok field (by simp))
      (fun other hother => hok other (by simp [hother])), ← hfields,
      parseVersionFields_encoded hnumber happ hplan]
    rfl

/-- Every encoded message parses as what it was encoded from. -/
theorem parseProtocolLine_encode {message : HelperMessage} (h : message.IsValid) :
    parseProtocolLine message.encode = message.expected := by
  cases message with
  | version number appVersion plan => exact parseProtocolLine_version h.1 h.2.2
  | step done total message =>
    rw [HelperMessage.encode, encodeStepLine_eq, parseProtocolLine,
      trimmed_joined (stepCounts_isWord done total) (sanitizeProtocolText_isLineText message),
      joinWords_append, QString.cut_append_sep (by decide)]
    exact parseStepFields_encoded h.1 h.2.1 _
  | detail message =>
    rw [HelperMessage.encode, encodeDetailLine_eq, parseProtocolLine_joined
      ⟨by decide, by decide, by decide⟩ (by decide) (sanitizeProtocolText_isLineText message)]
    rfl
  | failure message =>
    rw [HelperMessage.encode, encodeFailureLine_eq, parseProtocolLine_joined
      ⟨by decide, by decide, by decide⟩ (by decide) (sanitizeProtocolText_isLineText message)]
    rfl
  | result location =>
    rw [HelperMessage.encode, encodeResultLine_eq, parseProtocolLine_joined
      ⟨by decide, by decide, by decide⟩ (by decide) (sanitizeProtocolText_isLineText location)]
    rfl

/-! ## Lines as text -/

/-- What a line needs to cross the pipe: it starts with an ASCII character, holds no separator
but spaces, and is shorter than what the reader would take for a malfunction. -/
structure IsPipeLine (line : QString) : Prop where
  head : ∃ c rest, line = c :: rest ∧ c.toNat < 0x80
  separators : ∀ c ∈ line, c = space ∨ isProtocolSeparator c = false
  short : line.length ≤ 5000

/-- A keyword and what follows it. -/
theorem IsPipeLine.of_keyword {keyword rest : QString} (hne : keyword ≠ [])
    (hkeyword : ∀ c ∈ keyword, QChar.isAsciiLetterOrNumber c = true)
    (hrest : ∀ c ∈ rest, c = space ∨ isProtocolSeparator c = false)
    (hlen : keyword.length + rest.length ≤ 5000) : IsPipeLine (keyword ++ rest) where
  head := by
    cases keyword with
    | nil => exact absurd rfl hne
    | cons c keyword =>
      refine ⟨c, keyword ++ rest, rfl, ?_⟩
      have hc := hkeyword c (by simp)
      simp only [QChar.isAsciiLetterOrNumber, QChar.isDigit, Bool.or_eq_true, Bool.and_eq_true,
        decide_eq_true_eq, UInt16.le_iff_toNat_le, UInt16.reduceToNat] at hc
      omega
  separators c hc := by
    rcases List.mem_append.mp hc with hc | hc
    · have hletter := hkeyword c hc
      refine .inr ?_
      simp only [QChar.isAsciiLetterOrNumber, QChar.isDigit, Bool.or_eq_true, Bool.and_eq_true,
        decide_eq_true_eq, UInt16.le_iff_toNat_le, UInt16.reduceToNat] at hletter
      simp only [isProtocolSeparator, QChar.isSpace, QChar.isControl, Bool.or_eq_false_iff,
        Bool.and_eq_false_iff, decide_eq_false_iff_not, beq_eq_false_iff_ne, ne_eq,
        UInt16.le_iff_toNat_le, ← UInt16.toNat_inj, UInt16.reduceToNat]
      omega
    · exact hrest c hc
  short := by rwa [List.length_append]

theorem length_number_le {n : Nat} (h : n ≤ 2147483648) : (QString.number n).length ≤ 10 := by
  rw [QString.number, List.length_map]
  exact Nat.toDigits_length 10 n 10 (by decide) (by omega)

theorem length_numberInt_le {i : Int} (h : QString.FitsInt i) :
    (QString.numberInt i).length ≤ 11 := by
  unfold QString.FitsInt at h
  cases i with
  | ofNat n =>
    have hn : n ≤ 2147483648 := by
      have := h.2
      simp only [Int.ofNat_eq_natCast] at this
      omega
    exact (length_number_le hn).trans (by decide)
  | negSucc n =>
    have hn : n + 1 ≤ 2147483648 := by
      have := h.1
      omega
    rw [QString.numberInt, List.length_cons]
    exact Nat.succ_le_succ (length_number_le hn)

theorem isProtocolSeparator_of_isDigit {c : QChar} (h : QChar.isDigit c = true) :
    isProtocolSeparator c = false := by
  rw [isProtocolSeparator, QString.isSpace_of_isDigit h]
  simp only [QChar.isDigit, Bool.and_eq_true, decide_eq_true_eq, UInt16.le_iff_toNat_le,
    UInt16.reduceToNat] at h
  simp only [QChar.isControl, Bool.false_or, Bool.or_eq_false_iff, Bool.and_eq_false_iff,
    decide_eq_false_iff_not, UInt16.le_iff_toNat_le, UInt16.reduceToNat]
  omega

theorem isProtocolSeparator_of_mem_numberInt {i : Int} {c : QChar}
    (h : c ∈ QString.numberInt i) : isProtocolSeparator c = false := by
  rcases mem_numberInt h with rfl | h
  · decide
  · exact isProtocolSeparator_of_isDigit h

theorem isProtocolSeparator_of_mem_stepCounts {done total : Int} {c : QChar}
    (h : c ∈ stepCounts done total) : isProtocolSeparator c = false := by
  rcases List.mem_append.mp h with h | h
  · exact isProtocolSeparator_of_mem_numberInt h
  · rcases List.mem_cons.mp h with rfl | h
    · decide
    · exact isProtocolSeparator_of_mem_numberInt h

/-- A keyword with a sanitized text is a line for the pipe. -/
theorem IsPipeLine.of_text {keyword : QString} (hne : keyword ≠ [])
    (hkeyword : ∀ c ∈ keyword, QChar.isAsciiLetterOrNumber c = true)
    (hlen : keyword.length ≤ 100) (text : QString) :
    IsPipeLine (keyword ++ space :: sanitizeProtocolText text) := by
  have htext := sanitizeProtocolText_isLineText text
  refine .of_keyword hne hkeyword ?_ ?_
  · intro c hc
    rcases List.mem_cons.mp hc with rfl | hc
    · exact .inl rfl
    · exact htext.separators c hc
  · have hbound : (sanitizeProtocolText text).length ≤ 2000 := htext.bounded
    rw [List.length_cons]
    omega

theorem announcedApp_isLineText (appVersion : QString) :
    IsLineText (HelperMessage.announcedApp appVersion) := by
  unfold HelperMessage.announcedApp
  dsimp only
  split_ifs
  · exact .nil
  · exact sanitizeProtocolText_isLineText appVersion

theorem mem_versionFields {number : Int} {app : QString} {plan : List RestoreStep}
    (happ : IsLineText app) :
    ∀ field ∈ versionFields number app plan,
      ∀ c ∈ field, c = space ∨ isProtocolSeparator c = false := by
  have hnumber : ∀ n, ∀ c ∈ QString.number n, c = space ∨ isProtocolSeparator c = false :=
    fun n c hc => .inr (isProtocolSeparator_of_isDigit (QString.isDigit_of_mem_number hc))
  intro field hfield
  rw [versionFields, List.append_assoc] at hfield
  rcases List.mem_append.mp hfield with h | h
  · rw [List.mem_singleton.mp h]
    exact fun c hc => .inr (isProtocolSeparator_of_mem_numberInt hc)
  · rcases List.mem_append.mp h with h | h
    · split_ifs at h
      · cases h
      · simp only [List.mem_cons, List.not_mem_nil, or_false] at h
        rcases h with rfl | rfl
        · decide
        · exact happ.separators
    · simp only [List.mem_cons, List.not_mem_nil, or_false] at h
      rcases h with rfl | rfl | rfl | rfl
      · decide
      · exact hnumber _
      · decide
      · exact hnumber _

theorem mem_spaced {fields : List QString}
    (h : ∀ field ∈ fields, ∀ c ∈ field, c = space ∨ isProtocolSeparator c = false) :
    ∀ c ∈ spaced fields, c = space ∨ isProtocolSeparator c = false := by
  intro c hc
  obtain ⟨field, hfield, hc⟩ := List.mem_flatMap.mp hc
  rcases List.mem_cons.mp hc with hc | hc
  · exact .inl hc
  · exact h field hfield c hc

/-- However many steps the plan has, an announcement of ints is short enough for the buffer of the
client. -/
theorem length_versionFields_le {number : Int} {app : QString} {plan : List RestoreStep}
    (hnumber : QString.FitsInt number) (happ : IsLineText app) (hplan : plan.length < 2147483647) :
    (spaced (versionFields number app plan)).length ≤ 2100 := by
  have h1 := length_numberInt_le hnumber
  have h2 : app.length ≤ 2000 := happ.bounded
  have h3 : (QString.number plan.length).length ≤ 10 := length_number_le (by omega)
  have h4 := length_number_le ((firstDestructiveStepOf_le plan).trans (by omega))
  have hsteps : (QStringLiteral "steps").length = 5 := rfl
  have hdestructive : (QStringLiteral "destructive").length = 11 := rfl
  have hword : (QStringLiteral "app").length = 3 := rfl
  unfold spaced versionFields
  split_ifs
  · simp only [List.append_nil, List.flatMap_append, List.flatMap_cons, List.flatMap_nil,
      List.length_append, List.length_cons]
    omega
  · simp only [List.append_nil, List.flatMap_append, List.flatMap_cons, List.flatMap_nil,
      List.length_append, List.length_cons]
    omega

/-- Every encoded message is a line for the pipe. -/
theorem encode_isPipeLine {message : HelperMessage} (h : message.IsValid) :
    IsPipeLine message.encode := by
  cases message with
  | version number appVersion plan =>
    have happ := announcedApp_isLineText appVersion
    rw [HelperMessage.encode, encodeVersionLine_eq]
    refine .of_keyword (by decide) (by decide) (mem_spaced (mem_versionFields happ)) ?_
    have hlen := length_versionFields_le h.1 happ h.2.2
    have hword : (QStringLiteral "version").length = 7 := rfl
    omega
  | step done total message =>
    have htext := sanitizeProtocolText_isLineText message
    rw [HelperMessage.encode, encodeStepLine_eq, List.append_assoc]
    refine .of_keyword (by decide) (by decide) ?_ ?_
    · intro c hc
      simp only [List.cons_append, List.mem_cons, List.mem_append] at hc
      rcases hc with rfl | hc | rfl | hc
      · exact .inl rfl
      · exact .inr (isProtocolSeparator_of_mem_stepCounts hc)
      · exact .inl rfl
      · exact htext.separators c hc
    · have h1 := length_numberInt_le h.1
      have h2 := length_numberInt_le h.2.1
      have h3 : (sanitizeProtocolText message).length ≤ 2000 := htext.bounded
      have hword : (QStringLiteral "step").length = 4 := rfl
      simp only [stepCounts, List.length_append, List.length_cons]
      omega
  | detail message =>
    rw [HelperMessage.encode, encodeDetailLine_eq]
    exact .of_text (by decide) (by decide) (by decide) message
  | failure message =>
    rw [HelperMessage.encode, encodeFailureLine_eq]
    exact .of_text (by decide) (by decide) (by decide) message
  | result location =>
    rw [HelperMessage.encode, encodeResultLine_eq]
    exact .of_text (by decide) (by decide) (by decide) location

/-! ## Lines and surrogate pairs -/

theorem isWellFormed_of_ascii {s : QString} (h : ∀ c ∈ s, c.toNat < 0x80) :
    Utf8.IsWellFormed s := by
  unfold Utf8.IsWellFormed
  induction s with
  | nil => rfl
  | cons c s ih =>
    have hc := h c (by simp)
    have hhigh : ¬c.isHighSurrogate = true := by rw [Utf8.isHighSurrogate_iff]; omega
    have hlow : ¬c.isLowSurrogate = true := by rw [Utf8.isLowSurrogate_iff]; omega
    rw [Utf8.pairing, if_neg hhigh, if_neg hlow]
    exact ih (fun d hd => h d (by simp [hd]))

theorem toNat_lt_of_isDigit {c : QChar} (h : QChar.isDigit c = true) : c.toNat < 0x80 := by
  simp only [QChar.isDigit, Bool.and_eq_true, decide_eq_true_eq, UInt16.le_iff_toNat_le,
    UInt16.reduceToNat] at h
  omega

theorem number_isWellFormed (n : Nat) : Utf8.IsWellFormed (QString.number n) :=
  isWellFormed_of_ascii fun _ hc => toNat_lt_of_isDigit (QString.isDigit_of_mem_number hc)

theorem numberInt_isWellFormed (i : Int) : Utf8.IsWellFormed (QString.numberInt i) := by
  refine isWellFormed_of_ascii fun c hc => ?_
  rcases mem_numberInt hc with rfl | hc
  · decide
  · exact toNat_lt_of_isDigit hc

theorem spaced_isWellFormed {fields : List QString}
    (h : ∀ field ∈ fields, Utf8.IsWellFormed field) : Utf8.IsWellFormed (spaced fields) := by
  induction fields with
  | nil => rfl
  | cons field fields ih =>
    have hspace : Utf8.IsWellFormed [space] := rfl
    exact (hspace.append (h field (by simp))).append (ih fun other hother => h other (by simp [hother]))

theorem announcedApp_isWellFormed {appVersion : QString} (h : Utf8.IsWellFormed appVersion) :
    Utf8.IsWellFormed (HelperMessage.announcedApp appVersion) := by
  unfold HelperMessage.announcedApp
  dsimp only
  split_ifs
  · rfl
  · exact sanitizeProtocolText_isWellFormed h

/-- The fields of an announcement are text wherever the name is. -/
theorem versionFields_isWellFormed {number : Int} {app : QString} {plan : List RestoreStep}
    (happ : Utf8.IsWellFormed app) :
    ∀ field ∈ versionFields number app plan, Utf8.IsWellFormed field := by
  intro field hfield
  rw [versionFields, List.append_assoc] at hfield
  rcases List.mem_append.mp hfield with h | h
  · rw [List.mem_singleton.mp h]
    exact numberInt_isWellFormed number
  · rcases List.mem_append.mp h with h | h
    · split_ifs at h
      · cases h
      · simp only [List.mem_cons, List.not_mem_nil, or_false] at h
        rcases h with rfl | rfl
        · decide
        · exact happ
    · simp only [List.mem_cons, List.not_mem_nil, or_false] at h
      rcases h with rfl | rfl | rfl | rfl
      · decide
      · exact number_isWellFormed _
      · decide
      · exact number_isWellFormed _

/-- A line is text where its keyword and its text are. -/
theorem textLine_isWellFormed {keyword text : QString} (hkeyword : Utf8.IsWellFormed keyword)
    (htext : Utf8.IsWellFormed text) : Utf8.IsWellFormed (keyword ++ space :: text) := by
  have hspace : Utf8.IsWellFormed [space] := rfl
  exact hkeyword.append (hspace.append htext)

/-- Every encoded message is well-formed text. -/
theorem encode_isWellFormed {message : HelperMessage} (h : message.IsValid) :
    Utf8.IsWellFormed message.encode := by
  cases message with
  | version number appVersion plan =>
    have hkeyword : Utf8.IsWellFormed (QStringLiteral "version") := by decide
    rw [HelperMessage.encode, encodeVersionLine_eq]
    exact hkeyword.append
      (spaced_isWellFormed (versionFields_isWellFormed (announcedApp_isWellFormed h.2.1)))
  | step done total message =>
    have hslash : Utf8.IsWellFormed [QChar.ofChar '/'] := by decide
    have hcounts : Utf8.IsWellFormed (stepCounts done total) :=
      (numberInt_isWellFormed done).append (hslash.append (numberInt_isWellFormed total))
    rw [HelperMessage.encode, encodeStepLine_eq]
    exact textLine_isWellFormed (textLine_isWellFormed (by decide) hcounts)
      (sanitizeProtocolText_isWellFormed h.2.2)
  | detail message =>
    rw [HelperMessage.encode, encodeDetailLine_eq]
    exact textLine_isWellFormed (by decide) (sanitizeProtocolText_isWellFormed h)
  | failure message =>
    rw [HelperMessage.encode, encodeFailureLine_eq]
    exact textLine_isWellFormed (by decide) (sanitizeProtocolText_isWellFormed h)
  | result location =>
    rw [HelperMessage.encode, encodeResultLine_eq]
    exact textLine_isWellFormed (by decide) (sanitizeProtocolText_isWellFormed h)

end UsbRestore
