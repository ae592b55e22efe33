-- SUMMARY: English texts of the source are never empty, so an English refusal always has a reason.
import UsbRestore.Core.Geometry
import UsbRestore.Core.RestoreMessage

/-!
# Reasons

A refusal is a text, and its being empty has a meaning of its own. Every English text of the source
has a blank in it, and a blank survives the filling of place markers.
-/

namespace UsbRestore

-- A literal is long for the elaborator, which compares it with its list of characters.
set_option maxRecDepth 10000

/-- A literal of the source with a blank in it. -/
theorem space_mem_literal {characters : List Char} (h : ' ' ∈ characters) :
    (32 : QChar) ∈ QStringLiteral (String.ofList characters) := by
  rw [QStringLiteral, String.toList_ofList]
  exact List.mem_flatMap.mpr ⟨_, h, by decide⟩

section

variable {installed : Catalog} {characters : List Char} {args : List RestoreMessage}

theorem restoreText_ne_nil (h : ' ' ∈ characters) :
    (restoreText installed (QStringLiteral (String.ofList characters))).english ≠ [] :=
  List.ne_nil_of_mem (space_mem_literal h)

theorem restoreText_arg_ne_nil (h : ' ' ∈ characters) :
    ((restoreText installed (QStringLiteral (String.ofList characters))).arg args).english ≠ [] :=
  arg_ne_nil_of_space (space_mem_literal h) _

end

/-! ## Texts of the core -/

section

variable {characters : List Char} {args : List QString}

theorem coreText_ne_nil (h : ' ' ∈ characters) :
    coreText (QStringLiteral (String.ofList characters)) .english ≠ [] :=
  List.ne_nil_of_mem (space_mem_literal h)

theorem coreText_arg_ne_nil (h : ' ' ∈ characters) :
    (coreText (QStringLiteral (String.ofList characters)) .english).arg args ≠ [] :=
  arg_ne_nil_of_space (space_mem_literal h) _

end

/-! ## Verdicts -/

/-- A verdict that does not refuse without a reason. -/
def HasReason (verdict : Except QString Unit) : Prop :=
  ∀ reason, verdict = .error reason → reason ≠ []

namespace HasReason

theorem ok : HasReason (.ok ()) := fun _ h => nomatch h

theorem error {reason : QString} (h : reason ≠ []) : HasReason (.error reason) := by
  rintro _ ⟨⟩
  exact h

theorem text {characters : List Char} (h : ' ' ∈ characters) :
    HasReason (.error (coreText (QStringLiteral (String.ofList characters)) .english)) :=
  error (coreText_ne_nil h)

theorem arg {characters : List Char} {args : List QString} (h : ' ' ∈ characters) :
    HasReason
      (.error ((coreText (QStringLiteral (String.ofList characters)) .english).arg args)) :=
  error (coreText_arg_ne_nil h)

theorem ite {c : Prop} [Decidable c] {a b : Except QString Unit} (ha : HasReason a)
    (hb : HasReason b) : HasReason (if c then a else b) := by
  split
  · exact ha
  · exact hb

section

variable {c : Prop} [Decidable c] {characters : List Char} {args : List QString}
  {rest : Except QString Unit}

/-- A check that refuses with a text, before the remaining checks. -/
theorem unless_text (h : ' ' ∈ characters) (hrest : HasReason rest) :
    HasReason
      (if c then .error (coreText (QStringLiteral (String.ofList characters)) .english)
        else rest) :=
  .ite (.text h) hrest

/-- A check that refuses with a filled text, before the remaining checks. -/
theorem unless_arg (h : ' ' ∈ characters) (hrest : HasReason rest) :
    HasReason
      (if c then .error ((coreText (QStringLiteral (String.ofList characters)) .english).arg args)
        else rest) :=
  .ite (.arg h) hrest

end

end HasReason

end UsbRestore
