-- SUMMARY: The helper's messages through the byte pipe, read back in full however the stream is cut.
import UsbRestore.Base.Lines
import UsbRestore.Core.ProtocolRoundTrip

/-!
# The helper's output stream

The client reads whatever has arrived, takes the complete lines and keeps the rest. No line of
the helper comes near the size at which the client gives a line up, so no read ever splits one.
-/

namespace UsbRestore

def MaxBufferedBytes : Nat := 64 * 1024

/-- A line as text. -/
def readLine (line : List UInt8) : QString := (QString.fromLocal8Bit line).trimmed

/-- The complete lines of the buffer, and the buffer without them. -/
def takeCompleteLines (buffer : List UInt8) : List QString × List UInt8 :=
  let (lines, rest) := Lines.split newline buffer
  if rest.length > MaxBufferedBytes then
    (lines.map readLine ++ [QString.fromLocal8Bit rest], [])
  else (lines.map readLine, rest)

/-- What is left when the helper has ended is its last line. -/
def flushBuffer (buffer : List UInt8) : List QString :=
  if buffer.isEmpty then [] else [readLine buffer]

/-- The lines that a sequence of reads finds, the buffer carried from one to the next. -/
def readHelperLines (buffer : List UInt8) : List (List UInt8) → List QString
  | [] => flushBuffer buffer
  | read :: reads =>
    let (lines, buffer) := takeCompleteLines (buffer ++ read)
    lines ++ readHelperLines buffer reads

/-! ## Any lines -/

/-- Bytes of a line that the client waits for. -/
structure IsBufferedLine (line : List UInt8) : Prop where
  newline : newline ∉ line
  short : line.length ≤ MaxBufferedBytes

/-- Lines as they stand in the stream. -/
def streamOf (lines : List (List UInt8)) : List UInt8 :=
  lines.flatMap fun line => line ++ [newline]

/-- One read of a stream takes some of its lines and leaves the stream of the others. -/
theorem takeCompleteLines_stream {lines : List (List UInt8)} {buffer later : List UInt8}
    (hlines : ∀ line ∈ lines, IsBufferedLine line) (h : buffer ++ later = streamOf lines) :
    ∃ taken left rest, lines = taken ++ left ∧ newline ∉ rest ∧
      rest ++ later = streamOf left ∧
      takeCompleteLines buffer = (taken.map readLine, rest) := by
  have hopen := Lines.not_mem_split_rest newline buffer
  have hpart := Lines.split_of_prefix (fun line hline => (hlines line hline).newline)
    (List.prefix_iff_exists_append_eq.mpr ⟨later, h⟩)
  have hflat := Lines.split_flatten newline buffer
  cases hsplit : Lines.split newline buffer with
  | mk taken rest =>
    rw [hsplit] at hpart hflat hopen
    obtain ⟨⟨left, hleft⟩, hrest⟩ := hpart
    refine ⟨taken, left, rest, hleft.symm, hopen, ?_, ?_⟩
    · -- the lines taken are the same at both ends of the equation
      have hboth : streamOf taken ++ (rest ++ later) = streamOf taken ++ streamOf left := by
        have hjoin : streamOf lines = streamOf taken ++ streamOf left := by
          rw [streamOf, ← hleft, List.flatMap_append]
          rfl
        rw [← List.append_assoc, ← hjoin, ← h]
        exact congrArg (· ++ later) hflat
      exact List.append_cancel_left hboth
    · have hshort : ¬rest.length > MaxBufferedBytes := by
        rcases hrest with hnil | ⟨line, hline, hfront⟩
        · rw [show rest = [] from hnil]
          exact Nat.not_lt_zero _
        · exact Nat.not_lt.mpr (hfront.length_le.trans (hlines line hline).short)
      unfold takeCompleteLines
      rw [hsplit]
      dsimp only
      rw [if_neg hshort]

/-- However the stream is cut into reads, its lines are what is read. -/
theorem readHelperLines_stream {lines : List (List UInt8)} {buffer : List UInt8}
    {reads : List (List UInt8)} (hlines : ∀ line ∈ lines, IsBufferedLine line)
    (hopen : newline ∉ buffer) (h : buffer ++ reads.flatten = streamOf lines) :
    readHelperLines buffer reads = lines.map readLine := by
  induction reads generalizing buffer lines with
  | nil =>
    rw [List.flatten_nil, List.append_nil] at h
    cases lines with
    | nil =>
      rw [streamOf, List.flatMap_nil] at h
      rw [h]
      rfl
    | cons line lines =>
      refine absurd ?_ hopen
      rw [h, streamOf, List.flatMap_cons]
      simp
  | cons read reads ih =>
    rw [List.flatten_cons, ← List.append_assoc] at h
    obtain ⟨taken, left, rest, hsplit, hclosed, hrest, htake⟩ := takeCompleteLines_stream hlines h
    have hleft : ∀ line ∈ left, IsBufferedLine line :=
      fun line hline => hlines line (by simp [hsplit, hline])
    rw [readHelperLines, htake]
    dsimp only
    rw [ih hleft hclosed hrest, hsplit, List.map_append]

/-! ## The helper's lines -/

/-- The bytes of a message's line, without the newline. -/
def messageBytes (message : HelperMessage) : List UInt8 := QString.toUtf8 message.encode

/-- The line of a message fits the buffer of the client and ends where it should. -/
theorem messageBytes_isBufferedLine {message : HelperMessage} (h : message.IsValid) :
    IsBufferedLine (messageBytes message) where
  newline := by
    refine QString.not_mem_toUtf8 (by decide) fun hmem => ?_
    rcases (encode_isPipeLine h).separators _ hmem with hspace | hsep
    · exact absurd hspace (by decide)
    · exact absurd hsep (by decide)
  short := by
    have hlen := QString.length_toUtf8_le message.encode
    have hshort := (encode_isPipeLine h).short
    unfold messageBytes MaxBufferedBytes
    omega

/-- A message's line parses as the message. -/
theorem parseProtocolLine_messageBytes {message : HelperMessage} (h : message.IsValid) :
    parseProtocolLine (readLine (messageBytes message)) = message.expected := by
  obtain ⟨c, rest, hline, hc⟩ := (encode_isPipeLine h).head
  have hwell := encode_isWellFormed h
  have hread : QString.fromLocal8Bit (messageBytes message) = message.encode := by
    rw [hline] at hwell
    rw [messageBytes, hline]
    exact QString.fromLocal8Bit_toUtf8 hc hwell
  rw [readLine, hread, parseProtocolLine_trimmed, parseProtocolLine_encode h]

/-- For any messages and any way of cutting their bytes into reads, the client reads exactly
these messages. -/
theorem readHelperLines_encoded (messages : List HelperMessage) (reads : List (List UInt8))
    (hvalid : ∀ message ∈ messages, message.IsValid)
    (hreads : reads.flatten = messages.flatMap (fun message => lineBytes message.encode)) :
    (readHelperLines [] reads).map parseProtocolLine = messages.map HelperMessage.expected := by
  have hstream : [] ++ reads.flatten = streamOf (messages.map messageBytes) := by
    rw [List.nil_append, hreads, streamOf, List.flatMap_map]
    rfl
  have hlines : ∀ line ∈ messages.map messageBytes, IsBufferedLine line := by
    intro line hline
    obtain ⟨message, hmessage, rfl⟩ := List.mem_map.mp hline
    exact messageBytes_isBufferedLine (hvalid message hmessage)
  rw [readHelperLines_stream hlines List.not_mem_nil hstream, List.map_map, List.map_map,
    List.map_inj_left]
  intro message hmessage
  rw [Function.comp_apply, Function.comp_apply]
  exact parseProtocolLine_messageBytes (hvalid message hmessage)

/-- Two lines, the second of which arrives in two halves of its only letter. -/
theorem readHelperLines_encoded_cut :
    (readHelperLines []
      [lineBytes (HelperMessage.version 5 [] linuxRestorePlan).encode ++
        [0x64, 0x65, 0x74, 0x61, 0x69, 0x6C, 0x20, 0xC3], [0xBC, 0x0A]]).map parseProtocolLine
      = [(HelperMessage.version 5 [] linuxRestorePlan).expected,
          (HelperMessage.detail [0xFC]).expected] := by
  refine readHelperLines_encoded [.version 5 [] linuxRestorePlan, .detail [0xFC]] _ ?_ ?_
  · intro message hmessage
    simp only [List.mem_cons, List.not_mem_nil, or_false] at hmessage
    rcases hmessage with rfl | rfl
    · exact ⟨by decide, by decide, by decide⟩
    · exact show Utf8.IsWellFormed [0xFC] by decide
  · have hletter : lineBytes (HelperMessage.detail [0xFC]).encode
        = [0x64, 0x65, 0x74, 0x61, 0x69, 0x6C, 0x20, 0xC3] ++ [0xBC, 0x0A] := by
      decide +kernel
    rw [List.flatMap_cons, List.flatMap_cons, hletter]
    simp

end UsbRestore
