-- SUMMARY: What the client's line buffer takes out of a stream, whatever the reads it arrives in.
import UsbRestore.Linux.HelperSessionRun

/-!
# Cutting the helper's output

Every byte of the stream goes into one piece: a line with its newline, a buffer that has grown too
long, or what is still buffered. Only a line that is too long can be cut differently by other reads.
-/

namespace UsbRestore

/-- The bytes that one returned text was read from. -/
inductive Piece where
  /-- A complete line, without its newline. -/
  | line (bytes : List UInt8)
  /-- A buffer that was given up at this length. -/
  | overflow (bytes : List UInt8)

namespace Piece

def text : Piece → QString
  | line bytes => readLine bytes
  | overflow bytes => QString.fromLocal8Bit bytes

/-- The bytes without the newline. -/
def bytes : Piece → List UInt8
  | line bytes => bytes
  | overflow bytes => bytes

/-- As the piece stands in the stream. -/
def inStream : Piece → List UInt8
  | line bytes => bytes ++ [newline]
  | overflow bytes => bytes

/-- No newline is inside a piece, and no buffer is given up early. -/
def IsWhole : Piece → Prop
  | line bytes => newline ∉ bytes
  | overflow bytes => newline ∉ bytes ∧ MaxBufferedBytes < bytes.length

end Piece

/-- A text is that of its bytes but for white space around it. -/
theorem Piece.text_trims (piece : Piece) :
    ∃ before after, QString.fromLocal8Bit piece.bytes = before ++ piece.text ++ after ∧
      ∀ c ∈ before ++ after, QChar.isSpace c = true := by
  cases piece with
  | overflow bytes => exact ⟨[], [], (List.append_nil _).symm, fun _ h => absurd h List.not_mem_nil⟩
  | line bytes =>
    let text := QString.fromLocal8Bit bytes
    let body := text.dropWhile QChar.isSpace
    refine ⟨text.takeWhile QChar.isSpace, body.rtakeWhile QChar.isSpace, ?_, ?_⟩
    · show text = text.takeWhile QChar.isSpace ++ body.rdropWhile QChar.isSpace ++ _
      rw [List.append_assoc, List.rdropWhile_append_rtakeWhile, List.takeWhile_append_dropWhile]
    · intro c hc
      rcases List.mem_append.mp hc with hbefore | hafter
      · exact List.mem_takeWhile_imp hbefore
      · exact List.mem_rtakeWhile_imp hafter

/-! ## One call -/

/-- A call takes whole pieces and leaves an open buffer of bounded length. -/
theorem takeCompleteLines_pieces (buffer : List UInt8) :
    ∃ pieces : List Piece, (takeCompleteLines buffer).1 = pieces.map Piece.text ∧
      (∀ piece ∈ pieces, piece.IsWhole) ∧
      pieces.flatMap Piece.inStream ++ (takeCompleteLines buffer).2 = buffer ∧
      newline ∉ (takeCompleteLines buffer).2 ∧
      (takeCompleteLines buffer).2.length ≤ MaxBufferedBytes := by
  have hopen := Lines.not_mem_split_rest newline buffer
  have hlines := Lines.not_mem_split_lines newline buffer
  have hflat := Lines.split_flatten newline buffer
  unfold takeCompleteLines
  generalize Lines.split newline buffer = split at hopen hlines hflat
  obtain ⟨lines, rest⟩ := split
  have hwhole : ∀ piece ∈ lines.map Piece.line, piece.IsWhole := by
    intro piece hpiece
    obtain ⟨line, hline, rfl⟩ := List.mem_map.mp hpiece
    exact hlines line hline
  have hstream : (lines.map Piece.line).flatMap Piece.inStream ++ rest = buffer := by
    rw [List.flatMap_map]
    exact hflat
  have htexts : (lines.map Piece.line).map Piece.text = lines.map readLine := by
    rw [List.map_map]
    rfl
  dsimp only
  split
  · next hlong =>
    refine ⟨lines.map Piece.line ++ [.overflow rest], ?_, ?_, ?_, List.not_mem_nil, Nat.zero_le _⟩
    · rw [List.map_append, htexts]
      rfl
    · intro piece hpiece
      rcases List.mem_append.mp hpiece with hline | hover
      · exact hwhole piece hline
      · obtain rfl := List.mem_singleton.mp hover
        exact ⟨hopen, hlong⟩
    · rw [List.append_nil, List.flatMap_append]
      simpa [Piece.inStream] using hstream
  · next hshort =>
    exact ⟨lines.map Piece.line, htexts.symm, hwhole, hstream, hopen, Nat.le_of_not_lt hshort⟩

/-- Where the buffer is not given up, a call takes the lines. -/
theorem takeCompleteLines_of_short {buffer : List UInt8}
    (h : (Lines.split newline buffer).2.length ≤ MaxBufferedBytes) :
    takeCompleteLines buffer =
      ((Lines.split newline buffer).1.map readLine, (Lines.split newline buffer).2) :=
  if_neg (Nat.not_lt.mpr h)

/-! ## Every run -/

/-- The pieces of the stream so far, and what is still buffered. -/
structure Accounted (stream : List UInt8) (texts : List QString) (buffer : List UInt8)
    (pieces : List Piece) : Prop where
  texts : texts = pieces.map Piece.text
  whole : ∀ piece ∈ pieces, piece.IsWhole
  trims : ∀ piece ∈ pieces, ∃ before after,
    QString.fromLocal8Bit piece.bytes = before ++ piece.text ++ after ∧
      ∀ c ∈ before ++ after, QChar.isSpace c = true
  stream : pieces.flatMap Piece.inStream ++ buffer = stream

/-- Every byte that was read is in one piece or still buffered, in order. -/
theorem takeReads_accounted (reads : List (List UInt8)) :
    (∃ pieces, Accounted reads.flatten (takeReads reads).1 (takeReads reads).2 pieces) ∧
      newline ∉ (takeReads reads).2 ∧ (takeReads reads).2.length ≤ MaxBufferedBytes := by
  induction reads using List.reverseRecOn with
  | nil => exact ⟨⟨[], rfl, by simp, by simp, rfl⟩, List.not_mem_nil, Nat.zero_le _⟩
  | append_singleton reads read ih =>
    obtain ⟨⟨pieces, htexts, hwhole, _, hstream⟩, _⟩ := ih
    obtain ⟨more, hmore, hmoreWhole, hmoreStream, hopen, hshort⟩ :=
      takeCompleteLines_pieces ((takeReads reads).2 ++ read)
    rw [takeReads_concat]
    refine ⟨⟨pieces ++ more, ?_, ?_, fun piece _ => piece.text_trims, ?_⟩, hopen, hshort⟩
    · rw [htexts, hmore, List.map_append]
    · exact List.forall_mem_append.mpr ⟨hwhole, hmoreWhole⟩
    · rw [List.flatMap_append, List.append_assoc, hmoreStream, ← List.append_assoc, hstream,
        List.flatten_append, List.flatten_singleton]

/-- No line of the stream is given up, finished or not. -/
structure HasShortLines (stream : List UInt8) : Prop where
  lines : ∀ line ∈ (Lines.split newline stream).1, line.length ≤ MaxBufferedBytes
  rest : (Lines.split newline stream).2.length ≤ MaxBufferedBytes

/-- What has been read of such a stream ends in a short line. -/
theorem HasShortLines.rest_short {stream more : List UInt8} (h : HasShortLines (stream ++ more)) :
    (Lines.split newline stream).2.length ≤ MaxBufferedBytes := by
  have hlines := h.lines
  have hrest := h.rest
  rw [Lines.split_append] at hlines hrest
  have hopen := Lines.split_open (Lines.not_mem_split_rest newline stream) more
  rw [hopen] at hlines hrest
  cases hmore : Lines.split newline more with
  | mk later tail =>
    rw [hmore] at hlines hrest
    cases later with
    | nil => exact Nat.le_trans (by simp) hrest
    | cons line later =>
      have hline := hlines ((Lines.split newline stream).2 ++ line) (by simp)
      exact Nat.le_trans (by simp) hline

/-- The lines found in such a stream are its lines. -/
theorem takeReads_of_short {reads : List (List UInt8)} {more : List UInt8}
    (h : HasShortLines (reads.flatten ++ more)) :
    takeReads reads =
      ((Lines.split newline reads.flatten).1.map readLine, (Lines.split newline reads.flatten).2) := by
  induction reads using List.reverseRecOn generalizing more with
  | nil => rfl
  | append_singleton reads read ih =>
    rw [List.flatten_append, List.flatten_singleton, List.append_assoc] at h
    have hshort := (List.append_assoc reads.flatten read more ▸ h).rest_short
    rw [takeReads_concat, ih h, List.flatten_append, List.flatten_singleton]
    rw [Lines.split_append] at hshort ⊢
    rw [takeCompleteLines_of_short hshort, List.map_append]

/-- However the stream is cut into reads, no byte of it is lost, doubled or moved, the buffer stays
open and bounded, and the lines of a stream without an overlong line are read. -/
theorem takeCompleteLines_chunking (reads : List (List UInt8)) :
    ((∃ pieces, Accounted reads.flatten (takeReads reads).1 (takeReads reads).2 pieces) ∧
      newline ∉ (takeReads reads).2 ∧ (takeReads reads).2.length ≤ MaxBufferedBytes) ∧
      (HasShortLines reads.flatten → (takeReads reads).1 ++ flushBuffer (takeReads reads).2 =
        (Lines.split newline reads.flatten).1.map readLine ++
          flushBuffer (Lines.split newline reads.flatten).2) := by
  refine ⟨takeReads_accounted reads, fun hshort => ?_⟩
  have hall : HasShortLines (reads.flatten ++ []) := by rwa [List.append_nil]
  rw [takeReads_of_short hall]

end UsbRestore
