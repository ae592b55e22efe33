-- SUMMARY: `QString::arg`: place markers, and text that survives their substitution.
import UsbRestore.Qt.QString

/-!
# Place markers

`QString::arg` with `n` arguments replaces the lowest-numbered place marker by the first
argument, the next lowest by the second, and so on, all at once: text that an argument
brings in is not searched again. A single argument is the case `n = 1`.
-/

namespace UsbRestore

namespace QString

/-- A format text cut into ordinary code units and place markers. -/
inductive Piece where
  | unit (c : QChar)
  | marker (number : Nat) (raw : QString)
  deriving DecidableEq

/-- What has been read of a possible place marker. -/
inductive Pending where
  | text
  | percent
  | percentL
  | digit (number : Nat) (raw : QString)

def digitValue (c : QChar) : Nat := c.toNat - 48

/-- Read the place markers of a text: a percent sign, an optional `L`, one or two digits. -/
def scan : Pending → QString → List Piece
  | .text, [] => []
  | .percent, [] => [.unit (QChar.ofChar '%')]
  | .percentL, [] => [.unit (QChar.ofChar '%'), .unit (QChar.ofChar 'L')]
  | .digit n raw, [] => [.marker n raw]
  | .text, c :: s =>
    if c = QChar.ofChar '%' then scan .percent s else .unit c :: scan .text s
  | .percent, c :: s =>
    if QChar.isDigit c then scan (.digit (digitValue c) [QChar.ofChar '%', c]) s
    else if c = QChar.ofChar 'L' then scan .percentL s
    else if c = QChar.ofChar '%' then .unit c :: scan .percent s
    else .unit (QChar.ofChar '%') :: .unit c :: scan .text s
  | .percentL, c :: s =>
    if QChar.isDigit c then
      scan (.digit (digitValue c) [QChar.ofChar '%', QChar.ofChar 'L', c]) s
    else if c = QChar.ofChar '%' then
      .unit (QChar.ofChar '%') :: .unit (QChar.ofChar 'L') :: scan .percent s
    else
      .unit (QChar.ofChar '%') :: .unit (QChar.ofChar 'L') :: .unit c :: scan .text s
  | .digit n raw, c :: s =>
    if QChar.isDigit c then .marker (10 * n + digitValue c) (raw ++ [c]) :: scan .text s
    else if c = QChar.ofChar '%' then .marker n raw :: scan .percent s
    else .marker n raw :: .unit c :: scan .text s

/-- The numbers of the place markers of a text. -/
def markers (pieces : List Piece) : List Nat :=
  pieces.filterMap fun
    | .unit _ => none
    | .marker n _ => some n

/-- How many of the text's marker numbers lie below `n`. -/
def rank (numbers : List Nat) (n : Nat) : Nat :=
  ((List.range n).filter (fun k => decide (k ∈ numbers))).length

/-- Put the arguments in the place of the markers; a marker without one stays. -/
def fill (numbers : List Nat) (args : List QString) : Piece → QString
  | .unit c => [c]
  | .marker n raw => (args[rank numbers n]?).getD raw

/-- `QString::arg(a1, ..., an)`. -/
def arg (s : QString) (args : List QString) : QString :=
  (scan .text s).flatMap (fill (markers (scan .text s)) args)

/-- A code unit that no place marker is made of. -/
def isInk (c : QChar) : Bool :=
  !(QChar.isDigit c || c == QChar.ofChar 'L' || c == QChar.ofChar '%')

theorem unit_mem_scan {c : QChar} (hc : isInk c = true) {s : QString} (hs : c ∈ s)
    (pending : Pending) : Piece.unit c ∈ scan pending s := by
  simp only [isInk, Bool.not_eq_true', Bool.or_eq_false_iff, beq_eq_false_iff_ne, ne_eq] at hc
  obtain ⟨⟨hdigit, hL⟩, hpercent⟩ := hc
  induction s generalizing pending with
  | nil => cases hs
  | cons d s ih =>
    by_cases hd : c = d
    · subst hd
      cases pending <;> simp [scan, hdigit, hL, hpercent]
    · have hs' : c ∈ s := by simpa [hd] using hs
      cases pending <;> simp only [scan] <;> split_ifs <;> simp [ih hs']

/-- Ordinary text of the format is still there after the substitution. -/
theorem mem_arg {c : QChar} (hc : isInk c = true) {s : QString} (hs : c ∈ s)
    (args : List QString) : c ∈ arg s args :=
  List.mem_flatMap.mpr ⟨.unit c, unit_mem_scan hc hs .text, by simp [fill]⟩

/-- Text without a percent sign has no place marker. -/
theorem scan_text_append {s t : QString} (hs : QChar.ofChar '%' ∉ s) :
    scan .text (s ++ t) = s.map Piece.unit ++ scan .text t := by
  induction s with
  | nil => rfl
  | cons c s ih =>
    simp only [List.mem_cons, not_or] at hs
    simp [scan, Ne.symm hs.1, ih hs.2]

theorem markers_append_units (s : QString) (pieces : List Piece) :
    markers (s.map Piece.unit ++ pieces) = markers pieces := by
  induction s with
  | nil => rfl
  | cons c s ih => simp [markers]

theorem flatMap_fill_units (numbers : List Nat) (args : List QString) (s : QString) :
    (s.map Piece.unit).flatMap (fill numbers args) = s := by
  induction s with
  | nil => rfl
  | cons c s ih => simpa [fill] using ih

/-- Text before the first percent sign is copied. -/
theorem arg_append {s t : QString} (hs : QChar.ofChar '%' ∉ s) (args : List QString) :
    arg (s ++ t) args = s ++ arg t args := by
  simp only [arg, scan_text_append hs, markers_append_units, List.flatMap_append,
    flatMap_fill_units]

/-! ## Pieces as text -/

/-- A piece as it stands in the text. -/
def Piece.raw : Piece → QString
  | .unit c => [c]
  | .marker _ raw => raw

def Pending.raw : Pending → QString
  | .text => []
  | .percent => [QChar.ofChar '%']
  | .percentL => [QChar.ofChar '%', QChar.ofChar 'L']
  | .digit _ raw => raw

/-- The pieces of a text are the text. -/
theorem flatMap_raw_scan (pending : Pending) (s : QString) :
    (scan pending s).flatMap Piece.raw = pending.raw ++ s := by
  induction s generalizing pending with
  | nil => cases pending <;> simp [scan, Piece.raw, Pending.raw]
  | cons c s ih =>
    cases pending with
    | text =>
      simp only [scan]
      split_ifs with hpercent
      · simp [ih, Pending.raw, hpercent]
      · simp [ih, Piece.raw, Pending.raw]
    | percent =>
      simp only [scan]
      split_ifs with hdigit hL hpercent
      · simp [ih, Pending.raw]
      · simp [ih, Pending.raw, hL]
      · simp [ih, Piece.raw, Pending.raw, hpercent]
      · simp [ih, Piece.raw, Pending.raw]
    | percentL =>
      simp only [scan]
      split_ifs with hdigit hpercent
      · simp [ih, Pending.raw]
      · simp [ih, Piece.raw, Pending.raw, hpercent]
      · simp [ih, Piece.raw, Pending.raw]
    | digit n raw =>
      simp only [scan]
      split_ifs with hdigit hpercent
      · simp [ih, Piece.raw, Pending.raw]
      · simp [ih, Piece.raw, Pending.raw, hpercent]
      · simp [ih, Piece.raw, Pending.raw]

/-- What can be read of a marker before its end is not empty. -/
def Pending.IsOpen : Pending → Prop
  | .digit _ raw => raw ≠ []
  | _ => True

theorem raw_ne_nil_of_mem_scan {pending : Pending} (hpending : pending.IsOpen) {s : QString}
    {piece : Piece} (h : piece ∈ scan pending s) : piece.raw ≠ [] := by
  induction s generalizing pending with
  | nil =>
    cases pending with
    | text => cases h
    | percent =>
      obtain rfl := List.mem_singleton.mp h
      exact List.cons_ne_nil _ _
    | percentL =>
      rcases List.mem_pair.mp h with rfl | rfl
      · exact List.cons_ne_nil _ _
      · exact List.cons_ne_nil _ _
    | digit n raw =>
      obtain rfl := List.mem_singleton.mp h
      exact hpending
  | cons c s ih =>
    have hunit : ∀ d : QChar, (Piece.unit d).raw ≠ [] := fun d => List.cons_ne_nil _ _
    have hread : ∀ {pending : Pending}, pending.IsOpen → piece ∈ scan pending s → piece.raw ≠ [] := ih
    cases pending with
    | text =>
      simp only [scan] at h
      split_ifs at h with hpercent
      · exact hread (by simp [Pending.IsOpen]) h
      · rcases List.mem_cons.mp h with rfl | h
        · exact hunit c
        · exact hread (by simp [Pending.IsOpen]) h
    | percent =>
      simp only [scan] at h
      split_ifs at h with hdigit hL hpercent
      · exact hread (by simp [Pending.IsOpen]) h
      · exact hread (by simp [Pending.IsOpen]) h
      · rcases List.mem_cons.mp h with rfl | h
        · exact hunit c
        · exact hread (by simp [Pending.IsOpen]) h
      · rcases List.mem_cons.mp h with rfl | h
        · exact hunit _
        · rcases List.mem_cons.mp h with rfl | h
          · exact hunit c
          · exact hread (by simp [Pending.IsOpen]) h
    | percentL =>
      simp only [scan] at h
      split_ifs at h with hdigit hpercent
      · exact hread (by simp [Pending.IsOpen]) h
      · rcases List.mem_cons.mp h with rfl | h
        · exact hunit _
        · rcases List.mem_cons.mp h with rfl | h
          · exact hunit _
          · exact hread (by simp [Pending.IsOpen]) h
      · simp only [List.mem_cons] at h
        rcases h with rfl | rfl | rfl | h
        · exact hunit _
        · exact hunit _
        · exact hunit c
        · exact hread (by simp [Pending.IsOpen]) h
    | digit n raw =>
      simp only [scan] at h
      split_ifs at h with hdigit hpercent
      · rcases List.mem_cons.mp h with rfl | h
        · exact List.append_ne_nil_of_left_ne_nil hpending _
        · exact hread (by simp [Pending.IsOpen]) h
      · rcases List.mem_cons.mp h with rfl | h
        · exact hpending
        · exact hread (by simp [Pending.IsOpen]) h
      · rcases List.mem_cons.mp h with rfl | h
        · exact hpending
        · rcases List.mem_cons.mp h with rfl | h
          · exact hunit c
          · exact hread (by simp [Pending.IsOpen]) h

/-- A text that is not empty is not emptied by arguments that are not. -/
theorem arg_ne_nil {s : QString} (h : s ≠ []) {args : List QString}
    (hargs : ∀ value ∈ args, value ≠ []) : s.arg args ≠ [] := by
  have hpieces : scan .text s ≠ [] := by
    intro hnil
    have hraw := flatMap_raw_scan .text s
    rw [hnil] at hraw
    exact h hraw.symm
  obtain ⟨piece, rest, hscan⟩ := List.exists_cons_of_ne_nil hpieces
  have hraw : piece.raw ≠ [] := by
    refine raw_ne_nil_of_mem_scan (s := s) ?_ (hscan ▸ List.mem_cons_self)
    exact True.intro
  have hfill : ∀ numbers, fill numbers args piece ≠ [] := by
    intro numbers
    cases piece with
    | unit c => exact List.cons_ne_nil _ _
    | marker n raw =>
      show (args[rank numbers n]?).getD raw ≠ []
      cases hvalue : args[rank numbers n]? with
      | none => exact hraw
      | some value => exact hargs value (List.mem_of_getElem? hvalue)
  rw [arg, hscan, List.flatMap_cons]
  exact List.append_ne_nil_of_left_ne_nil (hfill _) _

/-- Where a unit stands that no marker is made of, the text before it and the text after it are read
apart. -/
theorem scan_append_ink {c : QChar} (hc : isInk c = true) (s t : QString) (pending : Pending) :
    scan pending (s ++ c :: t) = scan pending s ++ .unit c :: scan .text t := by
  simp only [isInk, Bool.not_eq_true', Bool.or_eq_false_iff, beq_eq_false_iff_ne, ne_eq] at hc
  obtain ⟨⟨hdigit, hL⟩, hpercent⟩ := hc
  induction s generalizing pending with
  | nil => cases pending <;> simp [scan, hdigit, hL, hpercent]
  | cons d s ih =>
    cases pending <;> simp only [List.cons_append, scan] <;> split_ifs <;> simp [ih]

/-! ## Where an argument goes -/

theorem markers_append (pieces rest : List Piece) :
    markers (pieces ++ rest) = markers pieces ++ markers rest :=
  List.filterMap_append

theorem mem_markers {pieces : List Piece} {n : Nat} :
    n ∈ markers pieces ↔ ∃ raw, Piece.marker n raw ∈ pieces := by
  unfold markers
  rw [List.mem_filterMap]
  constructor
  · rintro ⟨piece, hpiece, hnumber⟩
    cases piece with
    | unit c => cases hnumber
    | marker number raw =>
      obtain rfl := Option.some.inj hnumber
      exact ⟨raw, hpiece⟩
  · rintro ⟨raw, hpiece⟩
    exact ⟨_, hpiece, rfl⟩

theorem rank_congr {numbers numbers' : List Nat} (h : ∀ k, k ∈ numbers ↔ k ∈ numbers') (n : Nat) :
    rank numbers n = rank numbers' n := by
  simp only [rank, h]

theorem rank_pos {numbers : List Nat} {k n : Nat} (hk : k ∈ numbers) (hlt : k < n) :
    0 < rank numbers n := by
  refine List.length_pos_of_mem (a := k) (List.mem_filter.mpr ⟨List.mem_range.mpr hlt, ?_⟩)
  exact decide_eq_true hk

/-- Numbers that are not below do not count. -/
theorem rank_append_of_le {numbers rest : List Nat} {n : Nat} (h : ∀ k ∈ numbers, n ≤ k) :
    rank (numbers ++ rest) n = rank rest n := by
  unfold rank
  congr 1
  refine List.filter_congr fun k hk => decide_eq_decide.mpr ?_
  rw [List.mem_append, or_iff_right]
  exact fun hmem => absurd (List.mem_range.mp hk) (Nat.not_lt.mpr (h k hmem))

/-- One argument goes past a text whose markers all have higher numbers than those after it. -/
theorem arg_append_ink {c : QChar} (hc : isInk c = true) {s t : QString} (value : QString)
    (hsome : markers (scan .text t) ≠ [])
    (hbelow : ∀ n ∈ markers (scan .text s), ∀ k ∈ markers (scan .text t), k < n) :
    arg (s ++ c :: t) [value] = s ++ c :: arg t [value] := by
  have hscan := scan_append_ink hc s t .text
  obtain ⟨numbers, hnumbers⟩ : ∃ numbers, markers (scan .text (s ++ c :: t)) = numbers := ⟨_, rfl⟩
  have hsplit : numbers = markers (scan .text s) ++ markers (scan .text t) := by
    rw [← hnumbers, hscan, markers_append]
    rfl
  -- A marker of the text before has one of the text after below it, so it is not the lowest.
  have hbefore : (scan .text s).flatMap (fill numbers [value]) = s := by
    have hraw : (scan .text s).flatMap Piece.raw = s := flatMap_raw_scan .text s
    conv_rhs => rw [← hraw]
    refine List.flatMap_congr fun piece hpiece => ?_
    cases piece with
    | unit c => rfl
    | marker n raw =>
      obtain ⟨k, hk⟩ := List.exists_mem_of_ne_nil _ hsome
      have hrank : 0 < rank numbers n := by
        apply rank_pos (k := k)
        · rw [hsplit]
          exact List.mem_append_right _ hk
        · exact hbelow n (mem_markers.mpr ⟨raw, hpiece⟩) k hk
      have hnone : [value][rank numbers n]? = none := List.getElem?_eq_none hrank
      simp only [fill, hnone, Option.getD_none, Piece.raw]
  have hafter : (scan .text t).flatMap (fill numbers [value]) = arg t [value] := by
    refine List.flatMap_congr fun piece hpiece => ?_
    cases piece with
    | unit c => rfl
    | marker k raw =>
      simp only [fill]
      rw [hsplit, rank_append_of_le]
      exact fun n hn => Nat.le_of_lt (hbelow n hn k (mem_markers.mpr ⟨raw, hpiece⟩))
  rw [arg, hnumbers, hscan, List.flatMap_append, List.flatMap_cons, hbefore, hafter]
  rfl

/-- An argument stands unaltered in the place of its marker. -/
theorem infix_arg {s : QString} {args : List QString} {n : Nat} {value : QString}
    (h : n ∈ markers (scan .text s))
    (hvalue : args[rank (markers (scan .text s)) n]? = some value) : value <:+: s.arg args := by
  obtain ⟨raw, hpiece⟩ := mem_markers.mp h
  obtain ⟨before, after, hscan⟩ := List.append_of_mem hpiece
  have hfill : fill (markers (scan .text s)) args (.marker n raw) = value := by
    simp only [fill, hvalue, Option.getD_some]
  refine ⟨before.flatMap (fill (markers (scan .text s)) args),
    after.flatMap (fill (markers (scan .text s)) args), ?_⟩
  rw [arg]
  conv_rhs => rw [hscan]
  rw [List.flatMap_append, List.flatMap_cons, ← hscan, hfill, List.append_assoc]

end QString

end UsbRestore
