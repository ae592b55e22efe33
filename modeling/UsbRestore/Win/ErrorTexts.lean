-- SUMMARY: The texts that Windows has for an error code stand unaltered in what is reported.
import UsbRestore.Base.Snapshot
import UsbRestore.Win.WindowsUtil

/-!
# Error texts

The text of a code comes from Windows and may hold anything, place markers included. It is put into a
report by substitution, and what is substituted at once with everything else is never searched again.
Only the code is put behind the text in a second substitution.
-/

namespace UsbRestore

open Prog QString

variable {ε : Type} {snapshot : (o : WinI.Op) → WinI.Ans o} {error : Dword}

/-- The text with the code behind it. -/
def withCode (text : QString) (error : Dword) : QString :=
  text ++ (QStringLiteral " (error " ++ (.number error.toNat ++ QStringLiteral ")"))

theorem arg_errorFormat (text : QString) :
    (QStringLiteral "%1 (error %2)").arg [text] = text ++ QStringLiteral " (error %2)" := by rfl

/-- A text that has no marker up to the one of the code is not changed when the code is put in. -/
theorem arg_code {text : QString} (hmarkers : ∀ n ∈ markers (scan .text text), 2 < n) :
    (text ++ QStringLiteral " (error %2)").arg [.number error.toNat] = withCode text error := by
  have hblank : isInk (QChar.ofChar ' ') = true := by decide
  have hcode : markers (scan .text (QStringLiteral "(error %2)")) = [2] := by decide
  refine (arg_append_ink hblank (t := QStringLiteral "(error %2)") _ ?_ ?_).trans ?_
  · rw [hcode]
    exact List.cons_ne_nil _ _
  · intro n hn k hk
    rw [hcode] at hk
    obtain rfl := List.mem_singleton.mp hk
    exact hmarkers n hn
  · rfl

theorem windowsErrorMessage_eval {text : QString}
    (htext : QString.trimmed (snapshot (WinOp.formatMessage error)) = text) (hsome : text ≠ [])
    (hmarkers : ∀ n ∈ markers (scan .text text), 2 < n) :
    (windowsErrorMessage error : Prog WinI ε _).eval snapshot =
      some (.ok (withCode text error)) := by
  show Prog.eval snapshot (if (QString.trimmed (snapshot (WinOp.formatMessage error))).isEmpty = true
    then .ret _ else .ret _) = _
  rw [htext, if_neg (by simpa using hsome), arg_errorFormat, arg_code hmarkers]
  rfl

/-! ## Reports -/

/-- Each half of the report holds the half of the part, unaltered. -/
def Contains (report part : RestoreMessage) : Prop :=
  part.english <:+: report.english ∧ part.display <:+: report.display

/-- The translation of a format has the markers of the format. -/
def KeepsMarkers (installed : Catalog) (format : QString) : Prop :=
  ∀ n, n ∈ markers (scan .text (installed .backend format)) ↔ n ∈ markers (scan .text format)

/-- The arguments of a format whose markers are 1, 2 and so on, in the place of these. -/
theorem infix_arg_of_markers {format : QString} {count : Nat}
    (hmarkers : ∀ n, n ∈ markers (scan .text format) ↔ n ∈ List.range' 1 count)
    {args : List QString} {i : Nat} {value : QString} (hi : i < count)
    (hvalue : args[i]? = some value) : value <:+: format.arg args := by
  have hmem : 1 + i ∈ List.range' 1 count := List.mem_range'_1.mpr (by omega)
  have hrank : rank (List.range' 1 count) (1 + i) = i := by
    unfold rank
    have hfilter : (List.range (1 + i)).filter (fun k => decide (k ∈ List.range' 1 count)) =
        List.range' 1 i := by
      rw [Nat.add_comm, List.range_succ_eq_map, List.filter_cons_of_neg (by simp)]
      rw [List.filter_eq_self.mpr]
      · rw [List.range'_eq_map_range]
        exact List.map_congr_left fun k _ => Nat.add_comm k 1
      · intro k hk
        obtain ⟨j, hj, rfl⟩ := List.mem_map.mp hk
        have hj := List.mem_range.mp hj
        exact decide_eq_true (List.mem_range'_1.mpr (by omega))
    rw [hfilter, List.length_range']
  apply infix_arg ((hmarkers _).mpr hmem)
  rw [rank_congr hmarkers, hrank]
  exact hvalue

/-- An argument of a message stands in both halves of it. -/
theorem contains_arg {format : RestoreMessage} {count : Nat}
    (henglish : ∀ n, n ∈ markers (scan .text format.english) ↔ n ∈ List.range' 1 count)
    (hdisplay : ∀ n, n ∈ markers (scan .text format.display) ↔ n ∈ List.range' 1 count)
    {args : List RestoreMessage} {i : Nat} {part : RestoreMessage} (hi : i < count)
    (hpart : args[i]? = some part) : Contains (format.arg args) part := by
  constructor
  · apply infix_arg_of_markers henglish hi
    rw [List.getElem?_map, hpart]
    rfl
  · apply infix_arg_of_markers hdisplay hi
    rw [List.getElem?_map, hpart]
    rfl

/-- The markers of a format text that is written down. -/
theorem mem_markers_iff (count : Nat) {format : QString}
    (h : markers (scan .text format) = List.range' 1 count) (n : Nat) :
    n ∈ markers (scan .text format) ↔ n ∈ List.range' 1 count := by
  rw [h]

/-- What is reported of a code that Windows words by `text`. -/
structure ReportedVerbatim (ε : Type) (snapshot : (o : WinI.Op) → WinI.Ans o) (installed : Catalog)
    (context : RestoreMessage) (error : Dword) (text : QString) : Prop where
  message : (windowsErrorMessage error : Prog WinI ε _).eval snapshot =
    some (.ok (withCode text error))
  details : ∃ report,
    (windowsErrorDetails context error : Prog WinI ε _).eval snapshot = some (.ok report) ∧
      Contains report context ∧ Contains report (.ofText (withCode text error))
  /-- Where the program has no words of its own for the code. -/
  device : deviceErrorWording error = none → ∃ report,
    (windowsDeviceErrorMessage installed context error : Prog WinI ε _).eval snapshot =
        some (.ok report) ∧
      Contains report context ∧ Contains report (.ofText (withCode text error))
  /-- Where it has, the report is built from these and the code. -/
  worded : deviceErrorWording error ≠ none → ∃ report,
    (windowsDeviceErrorMessage installed context error : Prog WinI ε _).eval snapshot =
        some (.ok report) ∧
      context.english <:+: report.english ∧ QString.number error.toNat <:+: report.english ∧
      (KeepsMarkers installed DeviceErrorFormat →
        Contains report context ∧ Contains report (numberMessage error.toNat))

theorem markers_deviceErrorFormat :
    markers (scan .text DeviceErrorFormat) = List.range' 1 4 := by decide

theorem windowsErrorTexts_verbatim {installed : Catalog} {context : RestoreMessage}
    {text : QString} (htext : QString.trimmed (snapshot (WinOp.formatMessage error)) = text)
    (hsome : text ≠ []) (hmarkers : ∀ n ∈ markers (scan .text text), 2 < n) :
    ReportedVerbatim ε snapshot installed context error text := by
  have hmessage := windowsErrorMessage_eval (ε := ε) htext hsome hmarkers
  refine ⟨hmessage, ?details, ?device, ?worded⟩
  case details =>
    refine ⟨_, eval_bind hmessage _, ?_, ?_⟩
    · exact contains_arg (i := 0) (mem_markers_iff 2 (by decide))
        (mem_markers_iff _ (by decide)) (by decide) rfl
    · exact contains_arg (i := 1) (mem_markers_iff 2 (by decide))
        (mem_markers_iff _ (by decide)) (by decide) rfl
  case device =>
    intro hwording
    unfold windowsDeviceErrorMessage
    rw [hwording]
    refine ⟨_, eval_bind hmessage _, ?_, ?_⟩
    · exact contains_arg (i := 0) (mem_markers_iff 3 (by decide))
        (mem_markers_iff _ (by decide)) (by decide) rfl
    · exact contains_arg (i := 1) (mem_markers_iff 3 (by decide))
        (mem_markers_iff _ (by decide)) (by decide) rfl
  case worded =>
    intro hwording
    obtain ⟨wording, hwording⟩ := Option.ne_none_iff_exists'.mp hwording
    unfold windowsDeviceErrorMessage
    rw [hwording]
    have henglish := mem_markers_iff 4 markers_deviceErrorFormat
    refine ⟨_, rfl, ?_, ?_, fun hkeeps => ?_⟩
    · exact infix_arg_of_markers (i := 0) henglish (by decide) rfl
    · exact infix_arg_of_markers (i := 2) henglish (by decide) rfl
    · have hdisplay := fun n => (hkeeps n).trans (henglish n)
      constructor
      · exact contains_arg (i := 0) henglish hdisplay (by decide) rfl
      · exact contains_arg (i := 2) henglish hdisplay (by decide) rfl

/-- A Windows where nothing succeeds, and every code is worded by `text`. -/
def wordingWindows (text : QString) : (o : WinI.Op) → WinI.Ans o
  | .formatMessage _ => text
  | .createFile _ _ => Except.error 0
  | .closeHandle _ => ()
  | .volumeDiskExtents _ _ => Except.error 0
  | .volumeIsOffline _ => false
  | .lockVolume _ => Except.error 0
  | .dismountVolume _ => Except.error 0
  | .deleteVolumeMountPoint _ => Except.error 0
  | .logicalDrives => (0 : Dword)
  | .findFirstVolume => none
  | .findNextVolume _ => none
  | .findVolumeClose _ => ()
  | .volumePathNames _ => none
  | .reporter (.step _ _) => ()
  | .reporter (.detail _) => ()
  | .reporter .cancelRequested => false

theorem windowsErrorTexts_verbatim_notFound :
    ReportedVerbatim Unit (wordingWindows (QStringLiteral "Element %3 not found.\x0d\x0a"))
      Catalog.english (.ofText (QStringLiteral "Could not open the drive")) 1168
      (QStringLiteral "Element %3 not found.") :=
  windowsErrorTexts_verbatim (by decide) (by decide) (by decide)

/-- The text of `ERROR_BAD_EXE_FORMAT` has a marker of its own, which takes the code. That of
`ERROR_WRITE_PROTECT` has none, and is not asked for where a drive is concerned. -/
theorem windowsErrorTexts_altered :
    ((windowsErrorMessage 193 : Prog WinI Unit _).eval
        (wordingWindows (QStringLiteral "%1 is not a valid Win32 application.")) =
      some (.ok (QStringLiteral "193 is not a valid Win32 application. (error %2)")) ∧
    QStringLiteral "193 is not a valid Win32 application. (error %2)" ≠
      withCode (QStringLiteral "%1 is not a valid Win32 application.") 193) ∧
    ∃ report, (windowsDeviceErrorMessage Catalog.english
        (.ofText (QStringLiteral "Could not open the drive")) 19 : Prog WinI Unit _).eval
        (wordingWindows (QStringLiteral "The media is write protected.")) = some (.ok report) ∧
      ¬QStringLiteral "The media is write protected." <:+: report.english := by
  refine ⟨⟨rfl, by decide⟩, _, rfl, fun hpart => ?_⟩
  have hletter : QChar.ofChar 'T' ∈ QStringLiteral "The media is write protected." := by decide
  exact absurd (hpart.subset hletter) (by decide +kernel)

end UsbRestore
