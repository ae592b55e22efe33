-- SUMMARY: Cutting a stream into lines as it arrives in pieces.
import Mathlib.Data.List.Basic

/-!
# Lines

A stream over any alphabet, a separator that ends a line, and a reader that is given the stream
in pieces and keeps the unfinished line between them. Where the stream is cut does not matter.
-/

namespace UsbRestore

namespace Lines

variable {α : Type} [DecidableEq α]

/-- The complete lines of a stream, without their separators, and what follows the last one. -/
def split (sep : α) : List α → List (List α) × List α
  | [] => ([], [])
  | b :: stream =>
    if b = sep then ([] :: (split sep stream).1, (split sep stream).2)
    else
      match split sep stream with
      | ([], rest) => ([], b :: rest)
      | (line :: lines, rest) => ((b :: line) :: lines, rest)

theorem split_of_not_mem {sep : α} {stream : List α} (h : sep ∉ stream) :
    split sep stream = ([], stream) := by
  induction stream with
  | nil => rfl
  | cons b stream ih =>
    rw [List.mem_cons, not_or] at h
    rw [split, if_neg (Ne.symm h.1), ih h.2]

/-- The first separator ends the first line. -/
theorem split_line {sep : α} {line : List α} (h : sep ∉ line) (stream : List α) :
    split sep (line ++ sep :: stream) = (line :: (split sep stream).1, (split sep stream).2) := by
  induction line with
  | nil => rw [List.nil_append, split, if_pos rfl]
  | cons b line ih =>
    rw [List.mem_cons, not_or] at h
    rw [List.cons_append, split, if_neg (Ne.symm h.1), ih h.2]

theorem not_mem_split_rest (sep : α) (stream : List α) : sep ∉ (split sep stream).2 := by
  induction stream with
  | nil => exact List.not_mem_nil
  | cons b stream ih =>
    rw [split]
    split_ifs with hb
    · exact ih
    · split
      · next rest heq =>
        rw [heq] at ih
        exact fun hmem => (List.mem_cons.mp hmem).elim (fun h => hb h.symm) ih
      · next heq =>
        rw [heq] at ih
        exact ih

theorem not_mem_split_lines (sep : α) (stream : List α) :
    ∀ line ∈ (split sep stream).1, sep ∉ line := by
  induction stream with
  | nil => exact fun _ hline => absurd hline List.not_mem_nil
  | cons b stream ih =>
    rw [split]
    split_ifs with hb
    · exact List.forall_mem_cons.mpr ⟨List.not_mem_nil, ih⟩
    · split
      · exact fun _ hline => absurd hline List.not_mem_nil
      · next heq =>
        rw [heq] at ih
        obtain ⟨hfirst, hlater⟩ := List.forall_mem_cons.mp ih
        refine List.forall_mem_cons.mpr ⟨?_, hlater⟩
        exact fun hmem => (List.mem_cons.mp hmem).elim (fun h => hb h.symm) hfirst

/-- The beginning of a line belongs to the first line after it, or to the rest where there is
none. -/
theorem split_open {sep : α} {front : List α} (h : sep ∉ front) (stream : List α) :
    split sep (front ++ stream) =
      match split sep stream with
      | ([], rest) => ([], front ++ rest)
      | (line :: lines, rest) => ((front ++ line) :: lines, rest) := by
  induction front with
  | nil =>
    rw [List.nil_append]
    cases split sep stream with
    | mk lines rest => cases lines <;> rfl
  | cons b front ih =>
    rw [List.mem_cons, not_or] at h
    rw [List.cons_append, split, if_neg (Ne.symm h.1), ih h.2]
    cases split sep stream with
    | mk lines rest => cases lines <;> rfl

/-- A stream is its lines, each with its separator, and the rest. -/
theorem split_flatten (sep : α) (stream : List α) :
    (split sep stream).1.flatMap (fun line => line ++ [sep]) ++ (split sep stream).2 = stream := by
  induction stream with
  | nil => rfl
  | cons b stream ih =>
    rw [split]
    split_ifs with hb
    · simp only [List.flatMap_cons, List.nil_append, List.cons_append, ih, hb]
    · split
      · next rest heq =>
        rw [heq] at ih
        simpa using ih
      · next line lines rest heq =>
        rw [heq] at ih
        simpa using ih

/-- Reading on from the unfinished line reads the stream on. -/
theorem split_append {sep : α} (stream more : List α) :
    split sep (stream ++ more) =
      ((split sep stream).1 ++ (split sep ((split sep stream).2 ++ more)).1,
        (split sep ((split sep stream).2 ++ more)).2) := by
  induction stream with
  | nil => rfl
  | cons b stream ih =>
    rw [List.cons_append, split, split]
    split_ifs with hb
    · rw [ih]
      rfl
    · cases heq : split sep stream with
      | mk lines rest =>
        rw [heq] at ih
        cases lines with
        | nil =>
          simp only [List.nil_append] at ih ⊢
          rw [List.cons_append, split, if_neg hb, ih]
        | cons line lines =>
          simp only [List.cons_append] at ih ⊢
          rw [ih]

/-- Lines written one after the other are read back, whatever unfinished line follows. -/
theorem split_lines {sep : α} {lines : List (List α)} {tail : List α}
    (hlines : ∀ line ∈ lines, sep ∉ line) (htail : sep ∉ tail) :
    split sep (lines.flatMap (fun line => line ++ [sep]) ++ tail) = (lines, tail) := by
  induction lines with
  | nil => exact split_of_not_mem htail
  | cons line lines ih =>
    rw [List.flatMap_cons, List.append_assoc, List.append_assoc, List.singleton_append,
      split_line (hlines line (by simp)), ih (fun other hother => hlines other (by simp [hother]))]

/-- A beginning of a written stream has some of the lines in full and, after them, at most a
beginning of another one. -/
theorem split_of_prefix {sep : α} {lines : List (List α)} {stream : List α}
    (hlines : ∀ line ∈ lines, sep ∉ line)
    (h : stream <+: lines.flatMap (fun line => line ++ [sep])) :
    (split sep stream).1 <+: lines ∧
      ((split sep stream).2 = [] ∨ ∃ line ∈ lines, (split sep stream).2 <+: line) := by
  obtain ⟨more, hmore⟩ := h
  have hall : split sep (stream ++ more) = (lines, []) := by
    rw [hmore]
    have hread := split_lines hlines (List.not_mem_nil : sep ∉ ([] : List α))
    rwa [List.append_nil] at hread
  rw [split_append, Prod.mk.injEq] at hall
  refine ⟨⟨_, hall.1⟩, ?_⟩
  have hflat := split_flatten sep ((split sep stream).2 ++ more)
  rw [hall.2, List.append_nil] at hflat
  cases hlater : (split sep ((split sep stream).2 ++ more)).1 with
  | nil =>
    rw [hlater] at hflat
    exact .inl (List.append_eq_nil_iff.mp hflat.symm).1
  | cons next later =>
    rw [hlater] at hflat hall
    have hnext : next ∈ lines := by simp [← hall.1]
    refine .inr ⟨next, hnext, ?_⟩
    rw [List.flatMap_cons, List.append_assoc, List.singleton_append] at hflat
    rcases List.append_eq_append_iff.mp hflat with ⟨extra, hrest, hover⟩ | ⟨extra, hnext, _⟩
    · -- a rest longer than the next line would hold its separator
      cases extra with
      | nil => exact hrest.trans (List.append_nil next) ▸ List.prefix_rfl
      | cons b extra =>
        rw [List.cons_append, List.cons.injEq] at hover
        refine absurd ?_ (not_mem_split_rest sep stream)
        rw [hrest, ← hover.1]
        simp
    · exact ⟨extra, hnext.symm⟩

end Lines

end UsbRestore
