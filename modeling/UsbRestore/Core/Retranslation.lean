-- SUMMARY: Messages as the expressions that build them, and what they say in another language.
import UsbRestore.Core.RestoreMessage

/-!
# Retranslation

A message is built while one catalog is installed and may be shown again while another one is. The
expression that built it says what it should read in each language; the message keeps closures.
-/

namespace UsbRestore

mutual

/-- How a message is built. -/
inductive MessageExpr where
  | restoreText (source : QString)
  | ofText (text : QString)
  | arg (format : MessageExpr) (args : MessageArgs)
  | trimmed (message : MessageExpr)

/-- The arguments of `RestoreMessage::arg`, of the types it is called with. -/
inductive MessageArgs where
  | nil
  | message (first : MessageExpr) (rest : MessageArgs)
  | string (first : QString) (rest : MessageArgs)
  | integer (first : Int) (rest : MessageArgs)

end

mutual

/-- The message, built while `installed` is installed. -/
def MessageExpr.build (installed : Catalog) : MessageExpr → RestoreMessage
  | .restoreText source => UsbRestore.restoreText installed source
  | .ofText text => RestoreMessage.ofText text
  | .arg format args => (format.build installed).arg (args.build installed)
  | .trimmed message => (message.build installed).trimmed

def MessageArgs.build (installed : Catalog) : MessageArgs → List RestoreMessage
  | .nil => []
  | .message first rest => first.build installed :: rest.build installed
  | .string first rest => .ofText first :: rest.build installed
  | .integer first rest => .ofText (.numberInt first) :: rest.build installed

end

mutual

/-- What the expression says in the language of a catalog. -/
def MessageExpr.eval (catalog : Catalog) : MessageExpr → QString
  | .restoreText source => catalog .backend source
  | .ofText text => text
  | .arg format args => (format.eval catalog).arg (args.eval catalog)
  | .trimmed message => (message.eval catalog).trimmed

def MessageArgs.eval (catalog : Catalog) : MessageArgs → List QString
  | .nil => []
  | .message first rest => first.eval catalog :: rest.eval catalog
  | .string first rest => first :: rest.eval catalog
  | .integer first rest => .numberInt first :: rest.eval catalog

end

/-- A message that says `meaning` in every language. -/
structure Means (meaning : Catalog → QString) (installed : Catalog) (message : RestoreMessage) :
    Prop where
  english : message.english = meaning .english
  display : message.display = meaning installed
  translated : ∀ now, message.translated now = meaning now

namespace RestoreMessage

variable {meaning : Catalog → QString} {installed : Catalog} {message : RestoreMessage}

/-- A message that has no source stays as it is. -/
theorem translated_of_not_isTranslatable (h : message.isTranslatable = false) (now : Catalog) :
    message.translated now = message.display := by
  rw [isTranslatable, Option.isSome_eq_false_iff, Option.isNone_iff_eq_none] at h
  rw [translated, h]

theorem means_ofText (text : QString) : Means (fun _ => text) installed (.ofText text) where
  english := rfl
  display := rfl
  translated _ := rfl

/-- A source text means its translation in every catalog. -/
theorem means_restoreText (source : QString) :
    Means (fun catalog => catalog .backend source) installed (restoreText installed source) where
  english := rfl
  display := rfl
  translated _ := rfl

theorem means_trimmed (h : Means meaning installed message) :
    Means (fun catalog => (meaning catalog).trimmed) installed message.trimmed where
  english := congrArg QString.trimmed h.english
  display := congrArg QString.trimmed h.display
  translated now := by
    cases htracked : message.isTranslatable with
    | true =>
      rw [← h.translated now]
      simp [trimmed, htracked, translated]
    | false =>
      -- Nothing in it is translated, so it says now what it said when it was built.
      rw [← h.translated now, translated_of_not_isTranslatable htracked]
      simp [trimmed, htracked, translated]

/-- Each argument says its part of `meanings`. -/
def MeanEach (meanings : Catalog → List QString) (installed : Catalog)
    (args : List RestoreMessage) : Prop :=
  args.map english = meanings .english ∧ args.map display = meanings installed ∧
    ∀ now, (args.map fun arg => arg.translated now) = meanings now

theorem meanEach_nil : MeanEach (fun _ => []) installed [] := ⟨rfl, rfl, fun _ => rfl⟩

theorem meanEach_cons {meanings : Catalog → List QString} {args : List RestoreMessage}
    (h : Means meaning installed message) (hargs : MeanEach meanings installed args) :
    MeanEach (fun catalog => meaning catalog :: meanings catalog) installed (message :: args) := by
  obtain ⟨henglish, hdisplay, htranslated⟩ := hargs
  refine ⟨?_, ?_, fun now => ?_⟩
  · rw [List.map_cons, h.english, henglish]
  · rw [List.map_cons, h.display, hdisplay]
  · rw [List.map_cons, h.translated, htranslated]

/-- The arguments are translated with the message. -/
theorem means_arg {meanings : Catalog → List QString} {args : List RestoreMessage}
    (h : Means meaning installed message) (hargs : MeanEach meanings installed args) :
    Means (fun catalog => (meaning catalog).arg (meanings catalog)) installed (message.arg args) := by
  obtain ⟨henglish, hdisplay, htranslated⟩ := hargs
  refine ⟨?_, ?_, fun now => ?_⟩
  · show message.english.arg (args.map english) = _
    rw [h.english, henglish]
  · show message.display.arg (args.map display) = _
    rw [h.display, hdisplay]
  · rw [← h.translated now, ← htranslated now]
    cases htracked : message.isTranslatable || args.any isTranslatable with
    | true => simp [arg, htracked, translated]
    | false =>
      obtain ⟨hformat, hany⟩ := Bool.or_eq_false_iff.mp htracked
      have hkept : (args.map fun arg => arg.translated now) = args.map display := by
        refine List.map_congr_left fun arg harg => ?_
        exact translated_of_not_isTranslatable (by simpa using List.any_eq_false.mp hany arg harg) now
      rw [translated_of_not_isTranslatable hformat, hkept]
      simp [arg, htracked, translated]

end RestoreMessage

mutual

/-- Every expression means its translation in every catalog. -/
theorem MessageExpr.means (expr : MessageExpr) (installed : Catalog) :
    Means (fun catalog => expr.eval catalog) installed (expr.build installed) := by
  cases expr with
  | restoreText source => exact RestoreMessage.means_restoreText source
  | ofText text => exact RestoreMessage.means_ofText text
  | arg format args => exact RestoreMessage.means_arg (format.means installed) (args.means installed)
  | trimmed message => exact RestoreMessage.means_trimmed (message.means installed)

theorem MessageArgs.means (args : MessageArgs) (installed : Catalog) :
    RestoreMessage.MeanEach (fun catalog => args.eval catalog) installed (args.build installed) := by
  cases args with
  | nil => exact RestoreMessage.meanEach_nil
  | message first rest =>
    exact RestoreMessage.meanEach_cons (first.means installed) (rest.means installed)
  | string first rest =>
    exact RestoreMessage.meanEach_cons (RestoreMessage.means_ofText first) (rest.means installed)
  | integer first rest =>
    exact RestoreMessage.meanEach_cons (RestoreMessage.means_ofText _) (rest.means installed)

end

/-- A message says what its expression says: in English, in the language it was built in, and in
any language that is installed later. -/
theorem restoreMessage_retranslates (expr : MessageExpr) (built now : Catalog) :
    (expr.build built).english = expr.eval .english ∧
      (expr.build built).display = expr.eval built ∧
      (expr.build built).translated now = expr.eval now ∧
      (expr.build built).translated built = (expr.build built).display := by
  have hmeans := expr.means built
  exact ⟨hmeans.english, hmeans.display, hmeans.translated now,
    (hmeans.translated built).trans hmeans.display.symm⟩

end UsbRestore
