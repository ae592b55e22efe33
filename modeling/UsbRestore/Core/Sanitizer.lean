-- SUMMARY: The sanitizer returns the longest text of one line that a prefix of its input collapses to.
import UsbRestore.Base.Words
import UsbRestore.Core.ProtocolLine

/-!
# The sanitizer

The loop builds up the collapsed text and stops before the character that would carry it past the
limit. What it leaves out of the collapsed text is no text of one line, and neither is what the two
repairs at the end take away.
-/

namespace UsbRestore

/-- The text without the separators at its ends, and one space for each inner run of them. -/
def collapse (text : QString) : QString := Words.collapse isProtocolSeparator space text

/-- Text of one line that survives the trip through UTF-8. -/
structure IsOneLine (text : QString) : Prop extends IsLineText text where
  wellFormed : Utf8.IsWellFormed text

/-! ## The loop -/

/-- The space that goes before the next word, if one is pending. -/
def gap (pendingSpace : Bool) : QString := if pendingSpace then [space] else []

/-- The loop ends with all of the collapsed text, or before the character that does not fit. -/
def StopsWithin (full r : QString) : Prop :=
  r = full ∨ ∃ pendingSpace c, r ++ gap pendingSpace ++ [c] <+: full ∧
    MaxProtocolTextLength < (r ++ gap pendingSpace ++ [c]).length

theorem collapse_concat (read : QString) {c : QChar} (hc : isProtocolSeparator c = false) :
    collapse (read ++ [c]) =
      collapse read ++ gap (read.getLast?.any isProtocolSeparator && !(collapse read).isEmpty) ++
        [c] :=
  Words.collapse_concat read hc

/-- What was read so far is collapsed; a space is pending after a separator behind a word. -/
theorem sanitizeFrom_stopsWithin {sanitized : QString} {pendingSpace : Bool} (text read : QString)
    (hread : sanitized = collapse read)
    (hpending : pendingSpace = (read.getLast?.any isProtocolSeparator && !sanitized.isEmpty)) :
    StopsWithin (collapse (read ++ text)) (sanitizeFrom sanitized pendingSpace text) := by
  fun_induction sanitizeFrom sanitized pendingSpace text generalizing read with
  | case1 sanitized pendingSpace =>
    rw [List.append_nil]
    exact .inl hread
  | case2 sanitized pendingSpace c text hc ih =>
    rw [← List.singleton_append, ← List.append_assoc]
    refine ih (read ++ [c]) ?_ ?_
    · exact hread.trans (Words.collapse_concat_sep read hc).symm
    · simp [hc]
  | case3 sanitized pendingSpace c text hc hlong =>
    rw [Bool.not_eq_true] at hc
    refine .inr ⟨pendingSpace, c, ?_, ?_⟩
    · have hnext : collapse (read ++ [c]) = sanitized ++ gap pendingSpace ++ [c] := by
        rw [collapse_concat read hc, ← hread, ← hpending]
      rw [← hnext]
      exact Words.collapse_isPrefix ⟨text, by simp⟩
    · cases pendingSpace <;> simpa [gap] using hlong
  | case4 sanitized pendingSpace c text hc hshort ih =>
    rw [Bool.not_eq_true] at hc
    rw [← List.singleton_append, ← List.append_assoc]
    refine ih (read ++ [c]) ?_ ?_
    · rw [collapse_concat read hc, ← hread, ← hpending]
      cases pendingSpace <;> simp [gap]
    · simp [hc]

theorem StopsWithin.isPrefix {full r : QString} (h : StopsWithin full r) : r <+: full := by
  rcases h with rfl | ⟨pendingSpace, c, hprefix, _⟩
  · exact List.prefix_rfl
  · rw [List.append_assoc] at hprefix
    exact (List.prefix_append _ _).trans hprefix

/-! ## Nothing longer -/

theorem IsLineText.not_concat_space {t : QString} (h : IsLineText t) (s : QString) :
    t ≠ s ++ [space] := by
  rintro rfl
  have hlast := h.last space (by simp)
  rw [isProtocolSeparator_space] at hlast
  exact Bool.noConfusion hlast

/-- A text of one line within the collapsed text is within what the loop returns. -/
theorem StopsWithin.isPrefix_of_isLineText {full r t : QString} (h : StopsWithin full r)
    (hfull : t <+: full) (ht : IsLineText t) : t <+: r := by
  rcases h with rfl | ⟨pendingSpace, c, hprefix, hlong⟩
  · exact hfull
  · have hshort : t.length ≤ (r ++ gap pendingSpace ++ [c]).length :=
      ht.bounded.trans (Nat.le_of_lt hlong)
    have hwithin := List.prefix_of_prefix_length_le hfull hprefix hshort
    rcases List.prefix_concat_iff.mp hwithin with heq | hwithin
    · rw [← heq] at hlong
      exact absurd ht.bounded (Nat.not_le.mpr hlong)
    · cases pendingSpace with
      | false => simpa [gap] using hwithin
      | true =>
        exact (List.prefix_concat_iff.mp hwithin).resolve_left (ht.not_concat_space r)

/-- The repairs take away nothing of it. -/
theorem prefix_chopHalfPair {r t : QString} (h : t <+: r) (ht : Utf8.IsWellFormed t) :
    t <+: chopHalfPair r := by
  unfold chopHalfPair
  split
  next hhigh =>
    rcases List.eq_nil_or_concat r with rfl | ⟨s, c, rfl⟩
    · exact h
    · rw [List.concat_eq_append] at h hhigh ⊢
      rw [List.getLast?_concat] at hhigh
      rw [List.dropLast_concat]
      refine (List.prefix_concat_iff.mp h).resolve_left ?_
      rintro rfl
      -- a text that is closed does not end inside a pair
      have hclosed := Utf8.pairing_concat_false ht
      rw [Option.any_some, hclosed] at hhigh
      exact Bool.noConfusion hhigh
  · exact h

theorem prefix_chopSpace {r t : QString} (h : t <+: r) (ht : IsLineText t) : t <+: chopSpace r := by
  unfold chopSpace
  split
  next hspace =>
    obtain ⟨s, rfl⟩ := List.getLast?_eq_some_iff.mp hspace
    rw [List.dropLast_concat]
    exact (List.prefix_concat_iff.mp h).resolve_left (ht.not_concat_space s)
  · exact h

theorem sanitizeFrom_nil_stopsWithin (text : QString) :
    StopsWithin (collapse text) (sanitizeFrom [] false text) :=
  sanitizeFrom_stopsWithin text [] Words.collapse_nil.symm rfl

theorem sanitizeProtocolText_isPrefix (text : QString) :
    sanitizeProtocolText text <+: collapse text :=
  ((chopSpace_isPrefix _).trans (chopHalfPair_isPrefix _)).trans
    (sanitizeFrom_nil_stopsWithin text).isPrefix

theorem prefix_sanitizeProtocolText {text t : QString} (h : t <+: collapse text)
    (ht : IsOneLine t) : t <+: sanitizeProtocolText text :=
  prefix_chopSpace (prefix_chopHalfPair
    ((sanitizeFrom_nil_stopsWithin text).isPrefix_of_isLineText h ht.toIsLineText) ht.wellFormed)
    ht.toIsLineText

/-! ## Texts of one line -/

theorem chopSpace_concat_space (s : QString) : chopSpace (s ++ [space]) = s := by
  simp [chopSpace]

theorem chopSpace_of_last {s : QString} (h : ∀ c ∈ s.getLast?, c ≠ space) : chopSpace s = s :=
  if_neg fun hspace => h space hspace rfl

/-- A space that worded text ends in is the one that is pending. -/
theorem IsWorded.chopSpace_append_gap {s : QString} (h : IsWorded s) :
    chopSpace s ++ gap (s.getLast?.any isProtocolSeparator && !(chopSpace s).isEmpty) = s := by
  rcases List.eq_nil_or_concat s with rfl | ⟨t, d, rfl⟩
  · rfl
  · rw [List.concat_eq_append] at h ⊢
    rw [List.getLast?_concat, Option.any_some]
    rcases h.separators d (by simp) with rfl | hd
    · have hne : t ≠ [] := by
        rintro rfl
        have hhead := h.head space rfl
        rw [isProtocolSeparator_space] at hhead
        exact Bool.noConfusion hhead
      rw [chopSpace_concat_space]
      simp [gap, isProtocolSeparator_space, hne]
    · have hlast : ∀ c ∈ (t ++ [d]).getLast?, c ≠ space := by
        rw [List.getLast?_concat]
        rintro c hc rfl
        rw [Option.some.inj hc, isProtocolSeparator_space] at hd
        exact Bool.noConfusion hd
      rw [chopSpace_of_last hlast, hd]
      simp [gap]

/-- Worded text collapses to itself, but for a space at its end. -/
theorem collapse_of_isWorded {text : QString} (h : IsWorded text) :
    collapse text = chopSpace text := by
  induction text using List.reverseRecOn with
  | nil => exact Words.collapse_nil
  | append_singleton s c ih =>
    have hs : IsWorded s := h.of_prefix (List.prefix_append s [c])
    cases hc : isProtocolSeparator c with
    | true =>
      have hspace : c = space := (h.separators c (by simp)).resolve_right (by simp [hc])
      have hlast : ∀ d ∈ s.getLast?, d ≠ space := by
        rintro d hd rfl
        have hword : isProtocolSeparator c = false :=
          (List.isChain_append.mp h.words).2.2 space hd c rfl rfl
        rw [hc] at hword
        exact Bool.noConfusion hword
      have hskip : collapse (s ++ [c]) = collapse s := Words.collapse_concat_sep s hc
      rw [hskip, ih hs, chopSpace_of_last hlast, hspace, chopSpace_concat_space]
    | false =>
      have hlast : ∀ d ∈ (s ++ [c]).getLast?, d ≠ space := by
        rw [List.getLast?_concat]
        rintro d hd rfl
        rw [Option.some.inj hd, isProtocolSeparator_space] at hc
        exact Bool.noConfusion hc
      rw [collapse_concat s hc, ih hs, hs.chopSpace_append_gap, chopSpace_of_last hlast]

theorem collapse_of_isOneLine {text : QString} (h : IsOneLine text) : collapse text = text := by
  rw [collapse_of_isWorded h.toIsWorded, chopSpace_of_last]
  rintro c hc rfl
  have hlast := h.last space hc
  rw [isProtocolSeparator_space] at hlast
  exact Bool.noConfusion hlast

/-- Text of one line is returned as it is. -/
theorem sanitizeProtocolText_of_isOneLine {text : QString} (h : IsOneLine text) :
    sanitizeProtocolText text = text := by
  have hcollapse := collapse_of_isOneLine h
  have hbelow := sanitizeProtocolText_isPrefix text
  have habove : text <+: sanitizeProtocolText text :=
    prefix_sanitizeProtocolText (by rw [hcollapse]) h
  rw [hcollapse] at hbelow
  exact hbelow.eq_of_length_le habove.length_le

theorem sanitizeProtocolText_isOneLine {text : QString} (h : Utf8.IsWellFormed text) :
    IsOneLine (sanitizeProtocolText text) :=
  ⟨sanitizeProtocolText_isLineText text, sanitizeProtocolText_isWellFormed h⟩

/-- What the sanitizer makes of a text. -/
structure IsLongestOneLine (text sanitized : QString) : Prop where
  fits : IsOneLine sanitized
  fromPrefix : ∃ read, read <+: text ∧ sanitized = collapse read
  /-- Every other such text, of this or any other prefix, is a part of it. -/
  longest : ∀ read, read <+: text → ∀ t, t <+: collapse read → IsOneLine t → t <+: sanitized

/-- For every well-formed text. -/
theorem sanitizeProtocolText_isLongestOneLine (text : QString) (h : Utf8.IsWellFormed text) :
    IsLongestOneLine text (sanitizeProtocolText text) ∧
      sanitizeProtocolText (sanitizeProtocolText text) = sanitizeProtocolText text ∧
      (IsOneLine text → sanitizeProtocolText text = text) := by
  have hfits := sanitizeProtocolText_isOneLine h
  refine ⟨⟨hfits, ?_, ?_⟩, sanitizeProtocolText_of_isOneLine hfits,
    sanitizeProtocolText_of_isOneLine⟩
  · exact Words.exists_prefix_of_prefix_collapse isProtocolSeparator_space
      (sanitizeProtocolText_isPrefix text) hfits.last
  · intro read hread t ht hone
    exact prefix_sanitizeProtocolText (ht.trans (Words.collapse_isPrefix hread)) hone

/-- Two words between separators. -/
theorem sanitizeProtocolText_isLongestOneLine_words :
    IsLongestOneLine (QStringLiteral " \t a\n b ") (QStringLiteral "a b") :=
  (sanitizeProtocolText_isLongestOneLine (QStringLiteral " \t a\n b ") (by decide)).1

end UsbRestore
