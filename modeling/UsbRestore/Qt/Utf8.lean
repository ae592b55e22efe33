-- SUMMARY: UTF-8 as Qt writes and reads it, and its round trip on well-formed text.
import UsbRestore.Qt.QString

/-!
# UTF-8

Text goes through its code points: UTF-16 to points and back, points to bytes and back. What
is not well formed becomes U+FFFD on the way in either direction. The decoder is a machine that
takes one byte at a time.
-/

namespace UsbRestore

namespace Utf8

def Replacement : Nat := 0xFFFD

/-- A code point that is not half of a surrogate pair. -/
def IsScalar (point : Nat) : Prop := point < 0x110000 ∧ ¬(0xD800 ≤ point ∧ point ≤ 0xDFFF)

instance (point : Nat) : Decidable (IsScalar point) := inferInstanceAs (Decidable (_ ∧ _))

/-! ## UTF-16 -/

/-- The code point of a unit on its own; half a pair is replaced. -/
def single (c : QChar) : Nat :=
  if c.isHighSurrogate || c.isLowSurrogate then Replacement else c.toNat

/-- The code point of a surrogate pair. -/
def paired (c d : QChar) : Nat := 0x10000 + (c.toNat - 0xD800) * 0x400 + (d.toNat - 0xDC00)

/-- The code points of a text. -/
def points : QString → List Nat
  | [] => []
  | [c] => [single c]
  | c :: d :: s =>
    if c.isHighSurrogate && d.isLowSurrogate then paired c d :: points s
    else single c :: points (d :: s)

/-- The code units of a code point. -/
def units (point : Nat) : QString :=
  if point < 0x10000 then [UInt16.ofNat point]
  else
    [UInt16.ofNat (0xD800 + (point - 0x10000) / 0x400),
      UInt16.ofNat (0xDC00 + (point - 0x10000) % 0x400)]

/-- Reads units one after the other: whether the first half of a pair is open at the end, and
nothing once a half has stood on its own. -/
def pairing : Bool → QString → Option Bool
  | halfOpen, [] => some halfOpen
  | false, c :: s =>
    if c.isHighSurrogate then pairing true s
    else if c.isLowSurrogate then none
    else pairing false s
  | true, c :: s => if c.isLowSurrogate then pairing false s else none

/-- Every surrogate is half of a pair. -/
def IsWellFormed (s : QString) : Prop := pairing false s = some false

instance (s : QString) : Decidable (IsWellFormed s) := inferInstanceAs (Decidable (_ = _))

/-! ## Bytes -/

def encodePoint (point : Nat) : List UInt8 :=
  if point < 0x80 then [UInt8.ofNat point]
  else if point < 0x800 then
    [UInt8.ofNat (0xC0 + point / 0x40), UInt8.ofNat (0x80 + point % 0x40)]
  else if point < 0x10000 then
    [UInt8.ofNat (0xE0 + point / 0x1000), UInt8.ofNat (0x80 + point / 0x40 % 0x40),
      UInt8.ofNat (0x80 + point % 0x40)]
  else
    [UInt8.ofNat (0xF0 + point / 0x40000), UInt8.ofNat (0x80 + point / 0x1000 % 0x40),
      UInt8.ofNat (0x80 + point / 0x40 % 0x40), UInt8.ofNat (0x80 + point % 0x40)]

/-- Where the decoder stands: `owed` more bytes of a character that has `value` so far and is
too short for its form below `least`. -/
inductive State where
  | start
  | more (value owed least : Nat)

/-- The first byte of a character, with what it says at once. -/
def first (byte : UInt8) : State × List Nat :=
  let b := byte.toNat
  if b < 0x80 then (.start, [b])
  else if 0xC0 ≤ b ∧ b < 0xE0 then (.more (b - 0xC0) 1 0x80, [])
  else if 0xE0 ≤ b ∧ b < 0xF0 then (.more (b - 0xE0) 2 0x800, [])
  else if 0xF0 ≤ b ∧ b < 0xF8 then (.more (b - 0xF0) 3 0x10000, [])
  else (.start, [Replacement])

def step : State → UInt8 → State × List Nat
  | .start, byte => first byte
  | .more value owed least, byte =>
    let b := byte.toNat
    if 0x80 ≤ b ∧ b < 0xC0 then
      let value := 0x40 * value + (b - 0x80)
      if owed = 1 then
        (.start, [if least ≤ value ∧ IsScalar value then value else Replacement])
      else (.more value (owed - 1) least, [])
    else
      let (state, found) := first byte
      (state, Replacement :: found)

/-- The code points of a byte string. -/
def decode : State → List UInt8 → List Nat
  | .start, [] => []
  | .more _ _ _, [] => [Replacement]
  | state, byte :: bytes => (step state byte).2 ++ decode (step state byte).1 bytes

/-- A byte order mark at the start is skipped. -/
def dropMark : List UInt8 → List UInt8
  | 0xEF :: 0xBB :: 0xBF :: bytes => bytes
  | bytes => bytes

end Utf8

/-- `toUtf8`, and what a `QTextStream` writes. -/
def QString.toUtf8 (text : QString) : List UInt8 := (Utf8.points text).flatMap Utf8.encodePoint

/-- `QString::fromLocal8Bit` in a UTF-8 locale. -/
def QString.fromLocal8Bit (bytes : List UInt8) : QString :=
  (Utf8.decode .start (Utf8.dropMark bytes)).flatMap Utf8.units

namespace Utf8

/-! ## Points round trip -/

theorem isHighSurrogate_iff {c : QChar} :
    QChar.isHighSurrogate c = true ↔ 0xD800 ≤ c.toNat ∧ c.toNat ≤ 0xDBFF := by
  simp only [QChar.isHighSurrogate, Bool.and_eq_true, decide_eq_true_eq, UInt16.le_iff_toNat_le]
  exact Iff.rfl

theorem isLowSurrogate_iff {c : QChar} :
    QChar.isLowSurrogate c = true ↔ 0xDC00 ≤ c.toNat ∧ c.toNat ≤ 0xDFFF := by
  simp only [QChar.isLowSurrogate, Bool.and_eq_true, decide_eq_true_eq, UInt16.le_iff_toNat_le]
  exact Iff.rfl

theorem units_of_bmp (c : QChar) : units c.toNat = [c] := by
  have hlt : c.toNat < 0x10000 := c.toNat_lt
  rw [units, if_pos hlt, UInt16.ofNat_toNat]

theorem paired_bounds {c d : QChar} (hc : QChar.isHighSurrogate c = true)
    (hd : QChar.isLowSurrogate d = true) : 0x10000 ≤ paired c d ∧ paired c d < 0x110000 := by
  rw [isHighSurrogate_iff] at hc
  rw [isLowSurrogate_iff] at hd
  unfold paired
  omega

theorem units_of_pair {c d : QChar} (hc : QChar.isHighSurrogate c = true)
    (hd : QChar.isLowSurrogate d = true) : units (paired c d) = [c, d] := by
  have hlarge := (paired_bounds hc hd).1
  rw [isHighSurrogate_iff] at hc
  rw [isLowSurrogate_iff] at hd
  have hhigh : 0xD800 + (paired c d - 0x10000) / 0x400 = c.toNat := by
    unfold paired
    omega
  have hlow : 0xDC00 + (paired c d - 0x10000) % 0x400 = d.toNat := by
    unfold paired
    omega
  rw [units, if_neg (by omega), hhigh, hlow, UInt16.ofNat_toNat, UInt16.ofNat_toNat]

theorem units_single {c : QChar} (hhigh : ¬c.isHighSurrogate = true)
    (hlow : ¬c.isLowSurrogate = true) : units (single c) = [c] := by
  simp only [single, hhigh, hlow, Bool.or_self, Bool.false_eq_true, if_false, units_of_bmp]

theorem not_isLowSurrogate {c : QChar} (h : c.isHighSurrogate = true) :
    c.isLowSurrogate = false := by
  rw [isHighSurrogate_iff] at h
  rw [Bool.eq_false_iff, ne_eq, isLowSurrogate_iff]
  omega

/-- Well-formed text is its code points. -/
theorem flatMap_units_points {s : QString} (h : IsWellFormed s) :
    (points s).flatMap units = s := by
  unfold IsWellFormed at h
  fun_induction points s with
  | case1 => rfl
  | case2 c =>
    have hhigh : ¬c.isHighSurrogate = true := fun hc => by simp [pairing, hc] at h
    have hlow : ¬c.isLowSurrogate = true := fun hc => by simp [pairing, hhigh, hc] at h
    rw [List.flatMap_cons, units_single hhigh hlow]
    rfl
  | case3 c d s hpair ih =>
    rw [Bool.and_eq_true] at hpair
    simp only [pairing, hpair.1, hpair.2, if_true] at h
    rw [List.flatMap_cons, ih h, units_of_pair hpair.1 hpair.2]
    rfl
  | case4 c d s hpair ih =>
    have hhigh : ¬c.isHighSurrogate = true := by
      intro hc
      have hd : ¬d.isLowSurrogate = true := fun hd => hpair (by simp [hc, hd])
      simp [pairing, hc, hd] at h
    have hlow : ¬c.isLowSurrogate = true := fun hc => by simp [pairing, hhigh, hc] at h
    rw [pairing, if_neg hhigh, if_neg hlow] at h
    rw [List.flatMap_cons, ih h, units_single hhigh hlow]
    rfl

/-- Whether a surrogate is open at the end of the first text is carried over to the second. -/
theorem pairing_append (halfOpen : Bool) (s t : QString) :
    pairing halfOpen (s ++ t) = (pairing halfOpen s).bind (fun now => pairing now t) := by
  induction s generalizing halfOpen with
  | nil => rfl
  | cons c s ih =>
    cases halfOpen with
    | false =>
      simp only [List.cons_append, pairing, ih]
      split_ifs <;> rfl
    | true =>
      simp only [List.cons_append, pairing, ih]
      split_ifs <;> rfl

/-- A text with an open pair ends in its first half. -/
theorem pairing_concat_true {s : QString} {c : QChar} (h : pairing false (s ++ [c]) = some true) :
    c.isHighSurrogate = true ∧ IsWellFormed s := by
  rw [pairing_append] at h
  obtain ⟨now, hs, hc⟩ := Option.bind_eq_some_iff.mp h
  cases now with
  | true =>
    simp only [pairing] at hc
    split_ifs at hc
    simp at hc
  | false =>
    simp only [pairing] at hc
    split_ifs at hc with hhigh
    · exact ⟨hhigh, hs⟩
    · simp at hc

/-- Well-formed text does not end in the first half of a pair. -/
theorem pairing_concat_false {s : QString} {c : QChar} (h : IsWellFormed (s ++ [c])) :
    c.isHighSurrogate = false := by
  unfold IsWellFormed at h
  rw [pairing_append] at h
  obtain ⟨now, hs, hc⟩ := Option.bind_eq_some_iff.mp h
  rw [Bool.eq_false_iff]
  intro hhigh
  cases now with
  | true => simp [pairing, not_isLowSurrogate hhigh] at hc
  | false => simp [pairing, hhigh] at hc

/-- Two texts with all their surrogates paired make such a text. -/
theorem IsWellFormed.append {s t : QString} (hs : IsWellFormed s) (ht : IsWellFormed t) :
    IsWellFormed (s ++ t) := by
  unfold IsWellFormed at *
  rw [pairing_append, hs]
  exact ht

theorem single_isScalar (c : QChar) : IsScalar (single c) := by
  have hlt := c.toNat_lt
  unfold single
  split
  · unfold IsScalar Replacement
    omega
  · next h =>
    rw [Bool.or_eq_true, isHighSurrogate_iff, isLowSurrogate_iff] at h
    unfold IsScalar
    omega

/-- What is encoded are scalar values alone. -/
theorem points_isScalar (s : QString) : ∀ point ∈ points s, IsScalar point := by
  fun_induction points s with
  | case1 => simp
  | case2 c =>
    intro point hpoint
    rw [List.mem_singleton.mp hpoint]
    exact single_isScalar c
  | case3 c d s hpair ih =>
    rw [Bool.and_eq_true] at hpair
    have hbounds := paired_bounds hpair.1 hpair.2
    intro point hpoint
    rcases List.mem_cons.mp hpoint with heq | hpoint
    · unfold IsScalar
      omega
    · exact ih point hpoint
  | case4 c d s hpair ih =>
    intro point hpoint
    rcases List.mem_cons.mp hpoint with rfl | hpoint
    · exact single_isScalar c
    · exact ih point hpoint

/-! ## Bytes round trip -/

theorem toNat_ofNat_of_lt {n : Nat} (h : n < 256) : (UInt8.ofNat n).toNat = n := by
  rw [UInt8.toNat_ofNat']
  exact Nat.mod_eq_of_lt h

/-- A byte that continues a character feeds it six bits. -/
theorem decode_continues {n value owed least : Nat} (h : n < 0x40) (howed : owed ≠ 1)
    (rest : List UInt8) :
    decode (.more value owed least) (UInt8.ofNat (0x80 + n) :: rest)
      = decode (.more (0x40 * value + n) (owed - 1) least) rest := by
  have hb : (UInt8.ofNat (0x80 + n)).toNat = 0x80 + n := toNat_ofNat_of_lt (by omega)
  have hin : 0x80 ≤ 0x80 + n ∧ 0x80 + n < 0xC0 := by omega
  simp only [decode, step, hb, if_pos hin, if_neg howed, List.nil_append, Nat.add_sub_cancel_left]

/-- The last byte of a character ends it. -/
theorem decode_ends {n value least : Nat} (h : n < 0x40) (hleast : least ≤ 0x40 * value + n)
    (hscalar : IsScalar (0x40 * value + n)) (rest : List UInt8) :
    decode (.more value 1 least) (UInt8.ofNat (0x80 + n) :: rest)
      = (0x40 * value + n) :: decode .start rest := by
  have hb : (UInt8.ofNat (0x80 + n)).toNat = 0x80 + n := toNat_ofNat_of_lt (by omega)
  have hin : 0x80 ≤ 0x80 + n ∧ 0x80 + n < 0xC0 := by omega
  have hgood : least ≤ 0x40 * value + n ∧ IsScalar (0x40 * value + n) := ⟨hleast, hscalar⟩
  simp only [decode, step, hb, if_pos hin, Nat.add_sub_cancel_left, if_pos hgood, if_true,
    List.cons_append, List.nil_append]

/-- The first byte of a longer character only moves the decoder on. -/
theorem decode_first {byte : UInt8} {state : State} (h : first byte = (state, []))
    (rest : List UInt8) : decode .start (byte :: rest) = decode state rest := by
  rw [decode, step, h, List.nil_append]

theorem first_two {n : Nat} (h : n < 0x20) :
    first (UInt8.ofNat (0xC0 + n)) = (.more n 1 0x80, []) := by
  have hb : (UInt8.ofNat (0xC0 + n)).toNat = 0xC0 + n := toNat_ofNat_of_lt (by omega)
  unfold first
  dsimp only
  rw [hb, if_neg (by omega), if_pos (by omega), Nat.add_sub_cancel_left]

theorem first_three {n : Nat} (h : n < 0x10) :
    first (UInt8.ofNat (0xE0 + n)) = (.more n 2 0x800, []) := by
  have hb : (UInt8.ofNat (0xE0 + n)).toNat = 0xE0 + n := toNat_ofNat_of_lt (by omega)
  unfold first
  dsimp only
  rw [hb, if_neg (by omega), if_neg (by omega), if_pos (by omega), Nat.add_sub_cancel_left]

theorem first_four {n : Nat} (h : n < 0x8) :
    first (UInt8.ofNat (0xF0 + n)) = (.more n 3 0x10000, []) := by
  have hb : (UInt8.ofNat (0xF0 + n)).toNat = 0xF0 + n := toNat_ofNat_of_lt (by omega)
  unfold first
  dsimp only
  rw [hb, if_neg (by omega), if_neg (by omega), if_neg (by omega), if_pos (by omega),
    Nat.add_sub_cancel_left]

/-- The decoder reads a code point back and stands at the start again. -/
theorem decode_encodePoint {point : Nat} (h : IsScalar point) (rest : List UInt8) :
    decode .start (encodePoint point ++ rest) = point :: decode .start rest := by
  have hmax := h.1
  have hlow : point % 0x40 < 0x40 := Nat.mod_lt _ (by decide)
  have hmid : point / 0x40 % 0x40 < 0x40 := Nat.mod_lt _ (by decide)
  have hhigh : point / 0x1000 % 0x40 < 0x40 := Nat.mod_lt _ (by decide)
  -- each byte adds six bits to the value of those before it
  have h40 : 0x40 * (point / 0x40) + point % 0x40 = point := Nat.div_add_mod _ _
  have h1000 : 0x40 * (point / 0x1000) + point / 0x40 % 0x40 = point / 0x40 := by omega
  have h40000 : 0x40 * (point / 0x40000) + point / 0x1000 % 0x40 = point / 0x1000 := by omega
  unfold encodePoint
  split
  · next h1 =>
    have hb : (UInt8.ofNat point).toNat = point := toNat_ofNat_of_lt (by omega)
    simp only [List.cons_append, List.nil_append, decode, step, first, hb, if_pos h1]
  · split
    · simp only [List.cons_append, List.nil_append]
      rw [decode_first (first_two (by omega)), decode_ends hlow (by omega) (by rwa [h40]), h40]
    · split
      · simp only [List.cons_append, List.nil_append]
        rw [decode_first (first_three (by omega)), decode_continues hmid (by decide), h1000,
          decode_ends hlow (by omega) (by rwa [h40]), h40]
      · simp only [List.cons_append, List.nil_append]
        rw [decode_first (first_four (by omega)), decode_continues hhigh (by decide), h40000,
          decode_continues hmid (by decide), h1000,
          decode_ends hlow (by omega) (by rwa [h40]), h40]

/-- The decoder reads back what the encoder wrote, for any list of scalar values. -/
theorem decode_flatMap_encodePoint {text : List Nat} (h : ∀ point ∈ text, IsScalar point) :
    decode .start (text.flatMap encodePoint) = text := by
  induction text with
  | nil => rfl
  | cons point text ih =>
    rw [List.flatMap_cons, decode_encodePoint (h point (by simp)),
      ih (fun other hother => h other (by simp [hother]))]

/-! ## The bytes of a text -/

/-- A byte below 0x80 stands only for the character it is. -/
theorem mem_encodePoint {point : Nat} {byte : UInt8} (hbyte : byte.toNat < 0x80)
    (h : byte ∈ encodePoint point) (hpoint : IsScalar point) : point = byte.toNat := by
  have hmax := hpoint.1
  have hlarge : ∀ n, 0x80 ≤ n → n < 256 → byte ≠ UInt8.ofNat n := by
    rintro n hn hlt rfl
    rw [toNat_ofNat_of_lt hlt] at hbyte
    omega
  unfold encodePoint at h
  split at h
  · rw [List.mem_singleton.mp h, toNat_ofNat_of_lt (by omega)]
  · split at h
    · simp only [List.mem_cons, List.not_mem_nil, or_false] at h
      rcases h with h | h <;> exact absurd h (hlarge _ (by omega) (by omega))
    · split at h
      · simp only [List.mem_cons, List.not_mem_nil, or_false] at h
        rcases h with h | h | h <;> exact absurd h (hlarge _ (by omega) (by omega))
      · simp only [List.mem_cons, List.not_mem_nil, or_false] at h
        rcases h with h | h | h | h <;> exact absurd h (hlarge _ (by omega) (by omega))

theorem mem_points {s : QString} {point : Nat} (h : point ∈ points s) (hpoint : point < 0x80) :
    UInt16.ofNat point ∈ s := by
  have hsingle : ∀ c : QChar, point = single c → UInt16.ofNat point = c := by
    rintro c rfl
    unfold single at hpoint ⊢
    split at hpoint
    · exact absurd hpoint (by decide)
    · next hc => rw [if_neg hc, UInt16.ofNat_toNat]
  fun_induction points s with
  | case1 => cases h
  | case2 c => rw [hsingle c (List.mem_singleton.mp h)]; simp
  | case3 c d s hpair ih =>
    rw [Bool.and_eq_true] at hpair
    have hbounds := paired_bounds hpair.1 hpair.2
    rcases List.mem_cons.mp h with heq | h
    · omega
    · exact List.mem_cons_of_mem _ (List.mem_cons_of_mem _ (ih h))
  | case4 c d s hpair ih =>
    rcases List.mem_cons.mp h with h | h
    · rw [hsingle c h]; simp
    · exact List.mem_cons_of_mem _ (ih h)

/-- A point takes at most four bytes, and at most three where it is one unit. -/
theorem length_encodePoint_le (point : Nat) :
    (encodePoint point).length ≤ 4 ∧ (point < 0x10000 → (encodePoint point).length ≤ 3) := by
  unfold encodePoint
  split
  · simp
  · split
    · simp
    · split <;> simp_all

theorem length_points_le (s : QString) :
    ((points s).flatMap encodePoint).length ≤ 3 * s.length := by
  have hsingle : ∀ c : QChar, (encodePoint (single c)).length ≤ 3 := by
    intro c
    refine (length_encodePoint_le _).2 ?_
    have hlt := c.toNat_lt
    unfold single
    split
    · decide
    · exact hlt
  fun_induction points s with
  | case1 => exact Nat.zero_le _
  | case2 c => simpa using hsingle c
  | case3 c d s hpair ih =>
    have hfour := (length_encodePoint_le (paired c d)).1
    simp only [List.flatMap_cons, List.length_append, List.length_cons]
    omega
  | case4 c d s hpair ih =>
    have hthree := hsingle c
    simp only [List.flatMap_cons, List.length_append, List.length_cons] at ih ⊢
    omega

/-- An ASCII character is one byte. -/
theorem toUtf8_cons {c : QChar} (hc : c.toNat < 0x80) (s : QString) :
    QString.toUtf8 (c :: s) = UInt8.ofNat c.toNat :: QString.toUtf8 s := by
  have hhigh : ¬QChar.isHighSurrogate c = true := by rw [isHighSurrogate_iff]; omega
  have hlow : ¬QChar.isLowSurrogate c = true := by rw [isLowSurrogate_iff]; omega
  have hsingle : single c = c.toNat := by simp [single, hhigh, hlow]
  have hencode : encodePoint c.toNat = [UInt8.ofNat c.toNat] := by rw [encodePoint, if_pos hc]
  cases s with
  | nil => simp [QString.toUtf8, points, hsingle, hencode]
  | cons d s => simp [QString.toUtf8, points, hhigh, hsingle, hencode]

theorem head_toUtf8 {c : QChar} (hc : c.toNat < 0x80) (s : QString) :
    ∃ bytes, QString.toUtf8 (c :: s) = UInt8.ofNat c.toNat :: bytes :=
  ⟨_, toUtf8_cons hc s⟩

/-- What follows ASCII text is encoded on its own. -/
theorem toUtf8_append {s : QString} (hs : ∀ c ∈ s, c.toNat < 0x80) (text : QString) :
    QString.toUtf8 (s ++ text) = QString.toUtf8 s ++ QString.toUtf8 text := by
  induction s with
  | nil => rfl
  | cons c s ih =>
    have hc := hs c List.mem_cons_self
    rw [List.cons_append, toUtf8_cons hc, toUtf8_cons hc,
      ih fun d hd => hs d (List.mem_cons_of_mem c hd)]
    rfl

end Utf8

namespace QString

/-- A character that the text lacks does not appear among its bytes. -/
theorem not_mem_toUtf8 {s : QString} {byte : UInt8} (hbyte : byte.toNat < 0x80)
    (h : UInt16.ofNat byte.toNat ∉ s) : byte ∉ toUtf8 s := by
  intro hmem
  obtain ⟨point, hpoint, hbytes⟩ := List.mem_flatMap.mp hmem
  have heq := Utf8.mem_encodePoint hbyte hbytes (Utf8.points_isScalar s point hpoint)
  rw [heq] at hpoint
  exact h (Utf8.mem_points hpoint hbyte)

/-- A unit takes at most three bytes. -/
theorem length_toUtf8_le (s : QString) : (toUtf8 s).length ≤ 3 * s.length :=
  Utf8.length_points_le s

/-- Well-formed text that starts with an ASCII character reads back from its bytes. -/
theorem fromLocal8Bit_toUtf8 {c : QChar} {s : QString} (hc : c.toNat < 0x80)
    (h : Utf8.IsWellFormed (c :: s)) : fromLocal8Bit (toUtf8 (c :: s)) = c :: s := by
  have hmark : Utf8.dropMark (toUtf8 (c :: s)) = toUtf8 (c :: s) := by
    obtain ⟨bytes, hbytes⟩ := Utf8.head_toUtf8 hc s
    have hne : (UInt8.ofNat c.toNat) ≠ 0xEF := by
      intro heq
      have hn := congrArg UInt8.toNat heq
      rw [Utf8.toNat_ofNat_of_lt (by omega)] at hn
      exact absurd hn (by simp; omega)
    rw [hbytes]
    unfold Utf8.dropMark
    split
    · next heq => exact absurd (List.cons.inj heq).1 hne
    · rfl
  rw [fromLocal8Bit, hmark, toUtf8, Utf8.decode_flatMap_encodePoint (Utf8.points_isScalar _),
    Utf8.flatMap_units_points h]

end QString

end UsbRestore
