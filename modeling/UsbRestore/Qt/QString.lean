-- SUMMARY: Qt strings as UTF-16 code units: trimming, splitting, decimal numbers and place markers.
import Mathlib.Algebra.Group.Nat.Defs
import Mathlib.Data.List.DropRight
import Mathlib.Data.List.Infix

/-!
# Qt strings

A `QString` is the list of its UTF-16 code units, so that a surrogate pair is two
elements and a cut can fall between its halves, as it can in Qt. The functions keep
Qt's names and follow its documentation for the C locale.
-/

namespace UsbRestore

abbrev QChar := UInt16

abbrev QString := List QChar

instance : LawfulBEq QString := inferInstance

section

variable {p : QChar → Prop} [DecidablePred p]

-- A property of every character of a text is decided on that text, never on all 65536 characters.
instance (priority := high) decidableForallMem (text : QString) : Decidable (∀ c ∈ text, p c) :=
  List.decidableBAll p text

instance (priority := high) decidableForallMemOption (c? : Option QChar) :
    Decidable (∀ c ∈ c?, p c) :=
  Option.decidableForallMem c?

end

namespace QChar

/-- The code unit of a character of the Basic Multilingual Plane. -/
def ofChar (c : Char) : QChar := UInt16.ofNat c.toNat

/-- `QChar::isSpace`: the ASCII blanks, NEL, NBSP and the Unicode separators. -/
def isSpace (c : QChar) : Bool :=
  (9 ≤ c && c ≤ 13) || c == 32 || c == 0x85 || c == 0xA0 || c == 0x1680 ||
    (0x2000 ≤ c && c ≤ 0x200A) || c == 0x2028 || c == 0x2029 || c == 0x202F ||
    c == 0x205F || c == 0x3000

/-- `category() == QChar::Other_Control`. -/
def isControl (c : QChar) : Bool := c ≤ 0x1F || (0x7F ≤ c && c ≤ 0x9F)

def isHighSurrogate (c : QChar) : Bool := 0xD800 ≤ c && c ≤ 0xDBFF

def isLowSurrogate (c : QChar) : Bool := 0xDC00 ≤ c && c ≤ 0xDFFF

def isDigit (c : QChar) : Bool := 48 ≤ c && c ≤ 57

/-- `isLetterOrNumber()` below U+0080, the only place the program asks. -/
def isAsciiLetterOrNumber (c : QChar) : Bool :=
  isDigit c || (65 ≤ c && c ≤ 90) || (97 ≤ c && c ≤ 122)

end QChar

/-- The UTF-16 code units of one character. -/
def utf16 (c : Char) : List QChar :=
  if c.toNat < 0x10000 then [UInt16.ofNat c.toNat]
  else
    [UInt16.ofNat (0xD800 + (c.toNat - 0x10000) / 0x400),
      UInt16.ofNat (0xDC00 + (c.toNat - 0x10000) % 0x400)]

/-- `QStringLiteral(s)`, and `QString::fromUtf8` of a literal of the source. -/
def QStringLiteral (s : String) : QString := s.toList.flatMap utf16

namespace QString

/-! ## Trimming -/

/-- `QString::trimmed`. -/
def trimmed (s : QString) : QString := (s.dropWhile QChar.isSpace).rdropWhile QChar.isSpace

@[simp] theorem trimmed_nil : trimmed [] = [] := rfl

/-- Text that neither starts nor ends with white space is left alone. -/
theorem trimmed_eq_self {s : QString} (hhead : ∀ c ∈ s.head?, QChar.isSpace c = false)
    (hlast : ∀ c ∈ s.getLast?, QChar.isSpace c = false) : s.trimmed = s := by
  have hdrop : s.dropWhile QChar.isSpace = s := by
    cases s with
    | nil => rfl
    | cons c s => simp [hhead c (by simp)]
  rw [trimmed, hdrop, List.rdropWhile_eq_self_iff]
  intro hne
  simp [hlast _ (List.getLast?_eq_some_getLast hne)]

/-- Trimmed text starts with something to print. -/
theorem head_trimmed (s : QString) : ∀ c ∈ s.trimmed.head?, QChar.isSpace c = false := by
  intro c hc
  have hfront : s.trimmed <+: s.dropWhile QChar.isSpace := List.rdropWhile_prefix _ _
  obtain ⟨more, hmore⟩ := hfront
  have hhead : (s.dropWhile QChar.isSpace).head? = some c := by
    rw [← hmore, List.head?_append, hc, Option.some_or]
  cases hdrop : s.dropWhile QChar.isSpace with
  | nil => rw [hdrop] at hhead; cases hhead
  | cons d rest =>
    rw [hdrop] at hhead
    obtain rfl := Option.some.inj hhead
    have hne : s.dropWhile QChar.isSpace ≠ [] := by simp [hdrop]
    have hfirst := List.head_dropWhile_not QChar.isSpace hne
    simpa [hdrop] using hfirst

/-- Trimmed text ends in something to print. -/
theorem last_trimmed (s : QString) : ∀ c ∈ s.trimmed.getLast?, QChar.isSpace c = false := by
  intro c hc
  have hne : s.trimmed ≠ [] := fun h => by rw [h] at hc; cases hc
  have hlast := List.rdropWhile_last_not QChar.isSpace (s.dropWhile QChar.isSpace) hne
  have hc' : s.trimmed.getLast hne = c := by
    rw [List.getLast?_eq_some_getLast hne] at hc
    exact Option.some.inj hc
  rw [Bool.not_eq_true] at hlast
  rw [← hc']
  exact hlast

/-- What is no blank is not trimmed away. -/
theorem trimmed_ne_nil {s : QString} {c : QChar} (hc : QChar.isSpace c = false) (h : c ∈ s) :
    s.trimmed ≠ [] := by
  intro hempty
  have hblank : ∀ d ∈ s.dropWhile QChar.isSpace, QChar.isSpace d = true :=
    List.rdropWhile_eq_nil_iff.mp hempty
  rw [← List.takeWhile_append_dropWhile (p := QChar.isSpace) (l := s)] at h
  have hspace : QChar.isSpace c = true := by
    rcases List.mem_append.mp h with h | h
    · exact List.mem_takeWhile_imp h
    · exact hblank c h
  rw [hc] at hspace
  cases hspace

theorem trimmed_trimmed (s : QString) : s.trimmed.trimmed = s.trimmed :=
  trimmed_eq_self (head_trimmed s) (last_trimmed s)

/-- White space at the end is all that trimming removes from text with a printing head. -/
theorem trimmed_append_space {s : QString} {c : QChar} (hc : QChar.isSpace c = true)
    (hhead : ∀ c ∈ s.head?, QChar.isSpace c = false)
    (hlast : ∀ c ∈ s.getLast?, QChar.isSpace c = false) : (s ++ [c]).trimmed = s := by
  cases s with
  | nil => simp [trimmed, hc, List.rdropWhile]
  | cons d s =>
    have hd : QChar.isSpace d = false := hhead d (by simp)
    have hself : (d :: s).rdropWhile QChar.isSpace = d :: s := by
      rw [List.rdropWhile_eq_self_iff]
      intro hne
      simp [hlast _ (List.getLast?_eq_some_getLast hne)]
    rw [trimmed, List.cons_append, List.dropWhile_cons_of_neg (by simp [hd]),
      ← List.cons_append, List.rdropWhile_concat_pos _ _ _ hc, hself]

/-! ## Splitting -/

/-- `split(sep)`, empty parts kept. -/
def split (sep : QChar) : QString → List QString
  | [] => [[]]
  | c :: s =>
    if c = sep then [] :: split sep s
    else
      match split sep s with
      | [] => [[c]]
      | part :: parts => (c :: part) :: parts

/-- `split(sep, Qt::SkipEmptyParts)`. -/
def splitSkipEmpty (sep : QChar) (s : QString) : List QString :=
  (split sep s).filter (fun part => !part.isEmpty)

/-- The text before the first `sep` and the text after it, when there is one. -/
def cut (sep : QChar) : QString → Option (QString × QString)
  | [] => none
  | c :: s =>
    if c = sep then some ([], s)
    else (cut sep s).map (fun p => (c :: p.1, p.2))

/-- Splitting at a separator that a prefix lacks closes the prefix as one part. -/
theorem split_append_sep {sep : QChar} {s t : QString} (h : sep ∉ s) :
    split sep (s ++ sep :: t) = s :: split sep t := by
  induction s with
  | nil => simp [split]
  | cons c s ih =>
    simp only [List.mem_cons, not_or] at h
    simp [split, ih h.2, Ne.symm h.1]

theorem split_eq_singleton {sep : QChar} {s : QString} (h : sep ∉ s) : split sep s = [s] := by
  induction s with
  | nil => rfl
  | cons c s ih =>
    simp only [List.mem_cons, not_or] at h
    simp [split, ih h.2, Ne.symm h.1]

/-- The first field ends at the first separator. -/
theorem splitSkipEmpty_append_sep {sep : QChar} {s t : QString} (h : sep ∉ s) (hne : s ≠ []) :
    splitSkipEmpty sep (s ++ sep :: t) = s :: splitSkipEmpty sep t := by
  simp [splitSkipEmpty, split_append_sep h, hne]

theorem splitSkipEmpty_eq_singleton {sep : QChar} {s : QString} (h : sep ∉ s) (hne : s ≠ []) :
    splitSkipEmpty sep s = [s] := by
  simp [splitSkipEmpty, split_eq_singleton h, hne]

/-- A text is cut at its first separator. -/
theorem cut_append_sep {sep : QChar} {s t : QString} (h : sep ∉ s) :
    cut sep (s ++ sep :: t) = some (s, t) := by
  induction s with
  | nil => simp [cut]
  | cons c s ih =>
    simp only [List.mem_cons, not_or] at h
    simp [cut, ih h.2, Ne.symm h.1]

theorem cut_eq_none {sep : QChar} {s : QString} (h : sep ∉ s) : cut sep s = none := by
  induction s with
  | nil => rfl
  | cons c s ih =>
    simp only [List.mem_cons, not_or] at h
    simp [cut, ih h.2, Ne.symm h.1]

/-- `QFileInfo(path).fileName()`: the text after the last slash. -/
def fileName (path : QString) : QString :=
  path.rtakeWhile (fun c => c != QChar.ofChar '/')

theorem fileName_append {dir name : QString} (h : QChar.ofChar '/' ∉ name) :
    fileName (dir ++ QChar.ofChar '/' :: name) = name := by
  have hall : ∀ c ∈ name, (c != QChar.ofChar '/') = true := by
    intro c hc
    simp only [bne_iff_ne, ne_eq]
    exact fun heq => h (heq ▸ hc)
  simp only [fileName, List.rtakeWhile, List.reverse_append, List.reverse_cons, List.append_assoc]
  rw [List.takeWhile_append_of_pos (by simpa using hall)]
  simp

/-! ## Decimal numbers -/

/-- `QString::number` of a natural number. -/
def number (n : Nat) : QString := (Nat.toDigits 10 n).map QChar.ofChar

/-- `QString::number` of a signed number. -/
def numberInt : Int → QString
  | .ofNat n => number n
  | .negSucc n => QChar.ofChar '-' :: number (n + 1)

/-- The value of a nonempty run of ASCII digits. -/
def digits (s : QString) : Option Nat :=
  if s.isEmpty || !s.all QChar.isDigit then none
  else some (s.foldl (fun value c => 10 * value + (c.toNat - 48)) 0)

/-- `toULongLong(&ok)`: none where Qt sets `ok` to false. White space around the number and
a plus sign are allowed. -/
def toULongLong (s : QString) : Option UInt64 :=
  let text := match s.trimmed with
    | c :: rest => if c = QChar.ofChar '+' then rest else c :: rest
    | [] => []
  match digits text with
  | some n => if n < 2 ^ 64 then some (UInt64.ofNat n) else none
  | none => none

/-- `toUInt(&ok)`. -/
def toUInt (s : QString) : Option UInt32 :=
  match s.toULongLong with
  | some n => if n < 0x100000000 then some n.toUInt32 else none
  | none => none

/-- A number that fits a 32-bit `int`. -/
def FitsInt (i : Int) : Prop := -2147483648 ≤ i ∧ i ≤ 2147483647

instance (i : Int) : Decidable (FitsInt i) := inferInstanceAs (Decidable (_ ∧ _))

def asInt (i : Int) : Option Int := if FitsInt i then some i else none

/-- `toInt(&ok)`. -/
def toInt (s : QString) : Option Int :=
  match s.trimmed with
  | c :: rest =>
    if c = QChar.ofChar '-' then (digits rest).bind (fun n : Nat => asInt (-n))
    else if c = QChar.ofChar '+' then (digits rest).bind (fun n : Nat => asInt n)
    else (digits (c :: rest)).bind (fun n : Nat => asInt n)
  | [] => none

theorem ofChar_isDigit {c : Char} (h : c.isDigit = true) :
    QChar.isDigit (QChar.ofChar c) = true ∧ (QChar.ofChar c).toNat = c.toNat := by
  have hc : 48 ≤ c.toNat ∧ c.toNat ≤ 57 := by
    simp only [Char.isDigit, Bool.and_eq_true, decide_eq_true_eq] at h
    exact ⟨h.1, h.2⟩
  have hn : (QChar.ofChar c).toNat = c.toNat := by
    simp only [QChar.ofChar, UInt16.toNat_ofNat']
    omega
  refine ⟨?_, hn⟩
  simp only [QChar.isDigit, Bool.and_eq_true, decide_eq_true_eq, UInt16.le_iff_toNat_le, hn]
  exact hc

/-- Every unit of a printed number is a digit. -/
theorem isDigit_of_mem_number {n : Nat} {c : QChar} (h : c ∈ number n) :
    QChar.isDigit c = true := by
  simp only [number, List.mem_map] at h
  obtain ⟨d, hd, rfl⟩ := h
  exact (ofChar_isDigit (Nat.isDigit_of_mem_toDigits (by decide) (by decide) hd)).1

theorem number_ne_nil (n : Nat) : number n ≠ [] := by
  simp [number, Nat.toDigits_ne_nil]

/-- A printed number reads back as itself. -/
theorem digits_number (n : Nat) : digits (number n) = some n := by
  have hall : (number n).all QChar.isDigit = true := by
    rw [List.all_eq_true]
    exact fun c hc => isDigit_of_mem_number hc
  have hfold : ∀ (l : List Char) (init : Nat), (∀ c ∈ l, c.isDigit = true) →
      (l.map QChar.ofChar).foldl (fun value c => 10 * value + (c.toNat - 48)) init
        = Nat.ofDigitChars 10 l init := by
    intro l
    induction l with
    | nil => intro init _; rfl
    | cons c l ih =>
      intro init hl
      have hc := (ofChar_isDigit (hl c (by simp))).2
      simp only [List.map_cons, List.foldl_cons, Nat.ofDigitChars_cons, hc]
      exact ih _ (fun d hd => hl d (by simp [hd]))
  have hvalue := hfold (Nat.toDigits 10 n) 0
    (fun c hc => Nat.isDigit_of_mem_toDigits (by decide) (by decide) hc)
  rw [Nat.ofDigitChars_toDigits (by decide) (by decide)] at hvalue
  have hne : (number n).isEmpty = false := by simp [number_ne_nil]
  simp only [digits, hall, hne, Bool.not_true, Bool.or_self, Bool.false_eq_true, if_false]
  exact congrArg some hvalue

/-- Digits print without a blank, a sign or a place marker. -/
theorem not_mem_number {n : Nat} {c : QChar} (hc : QChar.isDigit c = false) : c ∉ number n := by
  intro h
  rw [isDigit_of_mem_number h] at hc
  cases hc

theorem isSpace_of_isDigit {c : QChar} (h : QChar.isDigit c = true) : QChar.isSpace c = false := by
  simp only [QChar.isDigit, Bool.and_eq_true, decide_eq_true_eq, UInt16.le_iff_toNat_le] at h
  have h1 : 48 ≤ c.toNat := h.1
  have h2 : c.toNat ≤ 57 := h.2
  simp only [QChar.isSpace, Bool.or_eq_false_iff, Bool.and_eq_false_iff, decide_eq_false_iff_not,
    UInt16.le_iff_toNat_le, beq_eq_false_iff_ne, ne_eq, ← UInt16.toNat_inj]
  simp only [UInt16.reduceToNat]
  omega

theorem trimmed_number (n : Nat) : (number n).trimmed = number n := by
  apply trimmed_eq_self
  · intro c hc
    exact isSpace_of_isDigit (isDigit_of_mem_number (List.mem_of_mem_head? hc))
  · intro c hc
    exact isSpace_of_isDigit (isDigit_of_mem_number (List.mem_of_getLast? hc))

/-- A number is read back where it fits an int. -/
theorem toInt_number {n : Nat} : toInt (number n) = asInt n := by
  have hsign : ∀ c ∈ (number n).head?, c ≠ QChar.ofChar '-' ∧ c ≠ QChar.ofChar '+' := by
    intro c hc
    have := isDigit_of_mem_number (List.mem_of_mem_head? hc)
    constructor <;> (rintro rfl; revert this; decide)
  cases hnum : number n with
  | nil => exact absurd hnum (number_ne_nil n)
  | cons c rest =>
    have hc := hsign c (by simp [hnum])
    have hdigits : digits (c :: rest) = some n := by rw [← hnum]; exact digits_number n
    have htrim : trimmed (c :: rest) = c :: rest := by rw [← hnum]; exact trimmed_number n
    simp only [toInt, htrim, hc.1, hc.2, if_false, hdigits, Option.bind_some]

theorem toInt_neg_number {n : Nat} : toInt (QChar.ofChar '-' :: number n) = asInt (-n) := by
  have htrim : trimmed (QChar.ofChar '-' :: number n) = QChar.ofChar '-' :: number n := by
    apply trimmed_eq_self
    · intro c hc
      simp only [List.head?_cons, Option.mem_def, Option.some.injEq] at hc
      subst hc
      decide
    · intro c hc
      rw [List.getLast?_cons_of_ne_nil (number_ne_nil _)] at hc
      exact isSpace_of_isDigit (isDigit_of_mem_number (List.mem_of_getLast? hc))
  simp only [toInt, htrim, if_true, digits_number, Option.bind_some]

/-- `toInt` inverts the printing of a 32-bit signed number. -/
theorem toInt_numberInt {i : Int} (hi : FitsInt i) : toInt (numberInt i) = some i := by
  have hfits : asInt i = some i := by simp [asInt, hi]
  cases i with
  | ofNat n => rw [numberInt, toInt_number]; exact hfits
  | negSucc n => rw [numberInt, toInt_neg_number]; exact hfits

end QString

end UsbRestore
