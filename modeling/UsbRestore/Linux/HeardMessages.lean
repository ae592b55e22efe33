-- SUMMARY: What the client makes of the helper's messages, whatever texts are in them.
import UsbRestore.Core.Sanitizer
import UsbRestore.Helper.History
import UsbRestore.Linux.HelperStream
import UsbRestore.Qt.Repair

/-!
# Messages as they are heard

A text that is not well formed is repaired on its way. But for that the client hears what the helper
says, and a message of one kind is never taken for one of another.
-/

namespace UsbRestore

/-! ## Repaired texts -/

section

variable {c : QChar} {s : QString}

theorem isProtocolSeparator_scrubbed (c : QChar) :
    isProtocolSeparator (Utf8.scrubbed c) = isProtocolSeparator c := by
  unfold Utf8.scrubbed
  split
  · next h =>
    -- no surrogate is a separator
    rw [Bool.or_eq_true, Utf8.isHighSurrogate_iff, Utf8.isLowSurrogate_iff] at h
    have hreplaced : isProtocolSeparator (UInt16.ofNat Utf8.Replacement) = false := by decide
    rw [hreplaced]
    symm
    simp only [isProtocolSeparator, QChar.isSpace, QChar.isControl, Bool.or_eq_false_iff,
      Bool.and_eq_false_iff, decide_eq_false_iff_not, beq_eq_false_iff_ne, ne_eq,
      UInt16.le_iff_toNat_le, ← UInt16.toNat_inj, UInt16.reduceToNat]
    omega
  · rfl

/-- Repairing an unpaired surrogate makes no space and removes none. -/
theorem scrubbed_eq_space_iff : Utf8.scrubbed c = space ↔ c = space := by
  unfold Utf8.scrubbed
  split
  · next h =>
    rw [Bool.or_eq_true, Utf8.isHighSurrogate_iff, Utf8.isLowSurrogate_iff] at h
    refine iff_of_false (by decide) ?_
    rintro rfl
    exact absurd h (by decide)
  · exact Iff.rfl

/-- Whether a text can stand in a line is no matter of its surrogates. -/
theorem isLineText_map_scrubbed_iff : IsLineText (s.map Utf8.scrubbed) ↔ IsLineText s := by
  have hseparator := isProtocolSeparator_scrubbed
  have hspace := @scrubbed_eq_space_iff
  constructor
  · rintro ⟨⟨hseparators, hhead, hwords, hbounded⟩, hlast⟩
    refine ⟨⟨fun c hc => ?_, fun c hc => ?_, ?_, ?_⟩, fun c hc => ?_⟩
    · have h := hseparators _ (List.mem_map_of_mem hc)
      rwa [hspace, hseparator] at h
    · have h := hhead (Utf8.scrubbed c) (by simp [Option.mem_def.mp hc])
      rwa [hseparator] at h
    · rw [List.isChain_map] at hwords
      simpa only [hspace, hseparator] using hwords
    · rwa [List.length_map] at hbounded
    · have h := hlast (Utf8.scrubbed c) (by simp [Option.mem_def.mp hc])
      rwa [hseparator] at h
  · rintro ⟨⟨hseparators, hhead, hwords, hbounded⟩, hlast⟩
    refine ⟨⟨fun c hc => ?_, fun c hc => ?_, ?_, ?_⟩, fun c hc => ?_⟩
    · obtain ⟨d, hd, rfl⟩ := List.mem_map.mp hc
      rw [hspace, hseparator]
      exact hseparators d hd
    · rw [List.head?_map] at hc
      obtain ⟨d, hd, rfl⟩ := Option.map_eq_some_iff.mp hc
      rw [hseparator]
      exact hhead d hd
    · rw [List.isChain_map]
      simpa only [hspace, hseparator] using hwords
    · rwa [List.length_map]
    · rw [List.getLast?_map] at hc
      obtain ⟨d, hd, rfl⟩ := Option.map_eq_some_iff.mp hc
      rw [hseparator]
      exact hlast d hd

theorem IsLineText.repaired (h : IsLineText s) : IsLineText (Utf8.repaired s) := by
  rw [← isLineText_map_scrubbed_iff, Utf8.map_scrubbed_repaired, isLineText_map_scrubbed_iff]
  exact h

end

/-- A text as it is heard. -/
def heardText (text : QString) : QString := Utf8.repaired (sanitizeProtocolText text)

/-- What is heard of a text is one line, whatever the text was. -/
theorem heardText_isOneLine (text : QString) : IsOneLine (heardText text) :=
  ⟨(sanitizeProtocolText_isLineText text).repaired, Utf8.repaired_isWellFormed _⟩

/-- A text that was heard once is heard unchanged. -/
theorem sanitizeProtocolText_heardText (text : QString) :
    sanitizeProtocolText (heardText text) = heardText text :=
  sanitizeProtocolText_of_isOneLine (heardText_isOneLine text)

/-! ## Messages -/

namespace HelperMessage

/-- The message with its text as it is heard. -/
def repaired : HelperMessage → HelperMessage
  | .version number appVersion plan => .version number appVersion plan
  | .step done total message => .step done total (heardText message)
  | .detail message => .detail (heardText message)
  | .failure message => .failure (heardText message)
  | .result location => .result (heardText location)

/-- What the client makes of the message. -/
def heard (message : HelperMessage) : ProtocolLine := message.repaired.expected

/-- A message of the helper: its numbers are those of an `int`, its text may be any. -/
def IsSayable : HelperMessage → Prop
  | .version number appVersion plan =>
    QString.FitsInt number ∧ Utf8.IsWellFormed appVersion ∧ plan.length < 2147483647
  | .step done total _ => QString.FitsInt done ∧ QString.FitsInt total
  | .detail _ | .failure _ | .result _ => True

/-- A message that can be said is valid after the repair of its texts. -/
theorem IsSayable.repaired {message : HelperMessage} (h : message.IsSayable) :
    message.repaired.IsValid := by
  cases message with
  | version number appVersion plan => exact h
  | step done total message => exact ⟨h.1, h.2, Utf8.repaired_isWellFormed _⟩
  | detail message => exact Utf8.repaired_isWellFormed _
  | failure message => exact Utf8.repaired_isWellFormed _
  | result location => exact Utf8.repaired_isWellFormed _

/-- A line that ends in a text has the bytes of the line that ends in the repaired text. -/
theorem toUtf8_heardText {word : QString} (hword : ∀ c ∈ word, c.toNat < 0x80) (text : QString) :
    QString.toUtf8 (word ++ space :: sanitizeProtocolText (heardText text)) =
      QString.toUtf8 (word ++ space :: sanitizeProtocolText text) := by
  have hspaced : ∀ c ∈ word ++ [space], c.toNat < 0x80 := by
    intro c hc
    rcases List.mem_append.mp hc with hc | hc
    · exact hword c hc
    · rw [List.mem_singleton.mp hc]
      decide
  have hsplit : ∀ tail : QString,
      QString.toUtf8 (word ++ space :: tail) = QString.toUtf8 (word ++ [space]) ++ QString.toUtf8 tail := by
    intro tail
    rw [← Utf8.toUtf8_append hspaced, List.append_assoc, List.singleton_append]
  rw [hsplit (sanitizeProtocolText (heardText text)), hsplit (sanitizeProtocolText text),
    sanitizeProtocolText_heardText, heardText, QString.toUtf8_repaired]

theorem stepFields_ascii (done total : Int) :
    ∀ c ∈ QStringLiteral "step" ++ space :: stepCounts done total, c.toNat < 0x80 := by
  have hnumber : ∀ i, ∀ c ∈ QString.numberInt i, c.toNat < 0x80 := by
    intro i c hc
    rcases mem_numberInt hc with rfl | hdigit
    · decide
    · exact toNat_lt_of_isDigit hdigit
  unfold stepCounts
  simp only [List.forall_mem_append, List.forall_mem_cons]
  exact ⟨by decide, by decide, hnumber done, by decide, hnumber total⟩

/-- The bytes of a message are those of the repaired one. -/
theorem toUtf8_repaired (message : HelperMessage) :
    QString.toUtf8 message.repaired.encode = QString.toUtf8 message.encode := by
  cases message with
  | version number appVersion plan => rfl
  | step done total message =>
    unfold repaired encode
    dsimp only
    rw [encodeStepLine_eq, encodeStepLine_eq]
    exact toUtf8_heardText (stepFields_ascii done total) message
  | detail message =>
    unfold repaired encode
    dsimp only
    rw [encodeDetailLine_eq, encodeDetailLine_eq]
    exact toUtf8_heardText (by decide) message
  | failure message =>
    unfold repaired encode
    dsimp only
    rw [encodeFailureLine_eq, encodeFailureLine_eq]
    exact toUtf8_heardText (by decide) message
  | result location =>
    unfold repaired encode
    dsimp only
    rw [encodeResultLine_eq, encodeResultLine_eq]
    exact toUtf8_heardText (by decide) location

end HelperMessage

/-! ## Streams -/

/-- For any messages and any way of cutting their bytes into reads. -/
theorem readHelperLines_heard (messages : List HelperMessage) (reads : List (List UInt8))
    (hsayable : ∀ message ∈ messages, message.IsSayable)
    (hreads : reads.flatten = messages.flatMap fun message => lineBytes message.encode) :
    (readHelperLines [] reads).map parseProtocolLine = messages.map HelperMessage.heard := by
  have hstream : [] ++ reads.flatten =
      streamOf (messages.map fun message => messageBytes message.repaired) := by
    rw [List.nil_append, hreads, streamOf, List.flatMap_map]
    refine congrArg (List.flatMap · messages) (funext fun message => ?_)
    exact congrArg (· ++ [newline]) message.toUtf8_repaired.symm
  have hlines : ∀ line ∈ messages.map fun message => messageBytes message.repaired,
      IsBufferedLine line := by
    intro line hline
    obtain ⟨message, hmessage, rfl⟩ := List.mem_map.mp hline
    exact messageBytes_isBufferedLine (hsayable message hmessage).repaired
  rw [readHelperLines_stream hlines List.not_mem_nil hstream, List.map_map, List.map_map,
    List.map_inj_left]
  intro message hmessage
  rw [Function.comp_apply, Function.comp_apply]
  exact parseProtocolLine_messageBytes (hsayable message hmessage).repaired

/-- The first line of a stream is read, whatever comes after it. -/
theorem readHelperLines_first {line more : List UInt8} (hline : IsBufferedLine line)
    {buffer : List UInt8} {reads : List (List UInt8)} (hopen : newline ∉ buffer)
    (h : buffer ++ reads.flatten = line ++ newline :: more) :
    ∃ rest, readHelperLines buffer reads = readLine line :: rest := by
  induction reads generalizing buffer with
  | nil =>
    rw [List.flatten_nil, List.append_nil] at h
    refine absurd ?_ hopen
    rw [h]
    simp
  | cons read reads ih =>
    rw [List.flatten_cons, ← List.append_assoc] at h
    have hstream : buffer ++ read <+: (line ++ [newline]) ++ more :=
      ⟨reads.flatten, h.trans (by simp)⟩
    have hcomplete : ∀ after, buffer ++ read = line ++ newline :: after →
        ∃ rest, readHelperLines buffer (read :: reads) = readLine line :: rest := by
      intro after hafter
      unfold readHelperLines takeCompleteLines
      rw [hafter, Lines.split_line hline.newline]
      dsimp only
      split
      · exact ⟨_, rfl⟩
      · exact ⟨_, rfl⟩
    rcases List.prefix_or_prefix_of_prefix hstream (List.prefix_append _ more) with hshort | ⟨after, hafter⟩
    · rcases List.prefix_concat_iff.mp hshort with hwhole | hpart
      · exact hcomplete [] hwhole
      · -- The line is not complete yet.
        have hclosed : newline ∉ buffer ++ read := fun hmem => hline.newline (hpart.subset hmem)
        have hbuffered : ¬(buffer ++ read).length > MaxBufferedBytes :=
          Nat.not_lt.mpr (hpart.length_le.trans hline.short)
        unfold readHelperLines takeCompleteLines
        rw [Lines.split_of_not_mem hclosed]
        dsimp only
        rw [if_neg hbuffered]
        exact ih hclosed h
    · exact hcomplete after (by rw [← hafter, List.append_assoc]; rfl)

end UsbRestore
