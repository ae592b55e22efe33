-- SUMMARY: The helper accepts exactly the argument lists of a grammar over the map from flags to values.
import Mathlib.Algebra.Group.Nat.Even
import UsbRestore.Core.RestoreProtocol

/-!
# The argument grammar

The loop of `parseRestoreArguments` keeps a draft. The draft is a function of the pairs read so
far, seen as a map from flags to values, so neither their order nor their number matters to the
checks that follow.
-/

namespace UsbRestore

/-! ## Decimal numbers -/

/-- The value of the digits of `text` behind those that make up `value`. -/
def digitsFrom (value : Nat) (text : QString) : Nat :=
  text.foldl (fun value c => 10 * value + (c.toNat - 48)) value

theorem le_digitsFrom (value : Nat) (text : QString) : value ≤ digitsFrom value text := by
  induction text generalizing value with
  | nil => exact Nat.le_refl _
  | cons c text ih =>
    have hrest := ih (10 * value + (c.toNat - 48))
    rw [digitsFrom, List.foldl_cons]
    exact Nat.le_trans (by omega) hrest

theorem QChar.toNat_of_isDigit {c : QChar} (h : QChar.isDigit c = true) :
    48 ≤ c.toNat ∧ c.toNat ≤ 57 := by
  rw [QChar.isDigit, Bool.and_eq_true, decide_eq_true_eq, decide_eq_true_eq,
    UInt16.le_iff_toNat_le, UInt16.le_iff_toNat_le] at h
  exact h

/-- The division keeps the loop from passing `maximum`, and nothing else. -/
theorem parseDecimalFrom_eq_some {maximum result n : Nat} {text : QString} (hmax : 9 ≤ maximum) :
    parseDecimalFrom maximum result text = some n ↔
      text.all QChar.isDigit = true ∧ n = digitsFrom result text ∧
        (text = [] ∨ digitsFrom result text ≤ maximum) := by
  induction text generalizing result with
  | nil => simp [parseDecimalFrom, digitsFrom, eq_comm]
  | cons c text ih =>
    unfold parseDecimalFrom
    dsimp only
    by_cases hdigit : QChar.isDigit c = true
    · obtain ⟨hlow, hhigh⟩ := QChar.toNat_of_isDigit hdigit
      have hvalue : digitsFrom result (c :: text) = digitsFrom (result * 10 + (c.toNat - 48)) text := by
        rw [digitsFrom, List.foldl_cons, digitsFrom, Nat.mul_comm 10 result]
      have hgrow := le_digitsFrom (result * 10 + (c.toNat - 48)) text
      simp only [hdigit, Bool.not_true, Bool.false_eq_true, if_false, List.all_cons, Bool.true_and,
        reduceCtorEq, false_or, hvalue]
      by_cases hlarge : result > (maximum - (c.toNat - 48)) / 10
      · rw [if_pos hlarge]
        refine iff_of_false (by simp) ?_
        rintro ⟨-, -, hle⟩
        omega
      · rw [if_neg hlarge, ih]
        refine and_congr_right fun _ => and_congr_right fun _ => ⟨?_, Or.inr⟩
        rintro (rfl | hle)
        · change result * 10 + (c.toNat - 48) ≤ maximum
          omega
        · exact hle
    · simp [hdigit]

/-- `parseDecimal` reads the nonempty runs of digits up to `maximum`. -/
theorem parseDecimal_eq_some {maximum n : Nat} {text : QString} (hmax : 9 ≤ maximum) :
    parseDecimal text maximum = some n ↔ text.digits = some n ∧ n ≤ maximum := by
  unfold parseDecimal QString.digits
  cases text with
  | nil => simp
  | cons c text =>
    simp only [List.isEmpty_cons, Bool.false_eq_true, if_false, Bool.false_or,
      parseDecimalFrom_eq_some hmax, reduceCtorEq, false_or]
    by_cases hall : (c :: text).all QChar.isDigit = true
    · simp only [hall, Bool.not_true, Bool.false_eq_true, if_false, true_and, Option.some.injEq]
      change n = digitsFrom 0 _ ∧ digitsFrom 0 _ ≤ maximum ↔ digitsFrom 0 _ = n ∧ n ≤ maximum
      constructor
      · rintro ⟨rfl, hle⟩
        exact ⟨rfl, hle⟩
      · rintro ⟨rfl, hle⟩
        exact ⟨rfl, hle⟩
    · simp [hall]

/-- `text` is a number from 1 to `maximum`, in digits alone. -/
def DenotesPositive (maximum : Nat) (text : QString) (n : Nat) : Prop :=
  text.digits = some n ∧ 1 ≤ n ∧ n ≤ maximum

/-- A positive number is read exactly where the text denotes it within the limit. -/
theorem parsePositive_eq_some {maximum n : Nat} {text : QString} (hmax : 9 ≤ maximum) :
    parsePositive text maximum = some n ↔ DenotesPositive maximum text n := by
  unfold parsePositive DenotesPositive
  rw [Option.filter_eq_some_iff, parseDecimal_eq_some hmax, decide_eq_true_eq]
  constructor
  · rintro ⟨⟨hdigits, hle⟩, hne⟩
    exact ⟨hdigits, Nat.one_le_iff_ne_zero.mpr hne, hle⟩
  · rintro ⟨hdigits, hpos, hle⟩
    exact ⟨⟨hdigits, hle⟩, Nat.one_le_iff_ne_zero.mp hpos⟩

/-! ## Pairs and the map -/

def KnownFlags : List QString :=
  [DeviceFlag, StyleFlag, FileSystemFlag, LabelFlag, ExpectSizeFlag, ExpectSectorSizeFlag,
    ExpectSequenceFlag, ExpectSerialFlag, ExpectUniqueIdFlag, ExpectPathFlag, ExpectNameFlag,
    LanguageFlag]

/-- The flags with their values; a last flag without a value makes no pair. -/
def argumentPairs : List QString → List (QString × QString)
  | flag :: value :: arguments => (flag, value) :: argumentPairs arguments
  | _ => []

/-- The argument list of some pairs. -/
def argumentsOf (pairs : List (QString × QString)) : List QString :=
  pairs.flatMap fun pair => [pair.1, pair.2]

/-- The strings at the even positions. -/
def argumentFlags : List QString → List QString
  | flag :: _ :: arguments => flag :: argumentFlags arguments
  | [flag] => [flag]
  | [] => []

/-- The map from flags to values. -/
def claimOf (pairs : List (QString × QString)) (flag : QString) : Option QString :=
  pairs.lookup flag

theorem argumentPairs_argumentsOf (pairs : List (QString × QString)) :
    argumentPairs (argumentsOf pairs) = pairs := by
  induction pairs with
  | nil => rfl
  | cons pair pairs ih => exact congrArg (pair :: ·) ih

theorem argumentFlags_eq_map {arguments : List QString} (heven : Even arguments.length) :
    argumentFlags arguments = (argumentPairs arguments).map Prod.fst := by
  induction arguments using argumentFlags.induct with
  | case1 flag value arguments ih =>
    have hrest : Even arguments.length := by
      simpa [Nat.even_add_one, Nat.even_add] using heven
    exact congrArg (flag :: ·) (ih hrest)
  | case2 flag => exact absurd heven (by simp)
  | case3 => rfl

theorem length_argumentsOf_even (pairs : List (QString × QString)) :
    Even (argumentsOf pairs).length := by
  induction pairs with
  | nil => exact ⟨0, rfl⟩
  | cons pair pairs ih =>
    have hlength : (argumentsOf (pair :: pairs)).length = (argumentsOf pairs).length + 2 := rfl
    rw [hlength]
    exact ih.add ⟨1, rfl⟩

/-- A flag behind `pairs` that do not name it. -/
theorem claimOf_append {pairs : List (QString × QString)} {flag value : QString}
    (hnew : flag ∉ pairs.map Prod.fst) (asked : QString) :
    claimOf (pairs ++ [(flag, value)]) asked =
      if asked = flag then some value else claimOf pairs asked := by
  unfold claimOf
  rw [List.lookup_append, List.lookup_cons, List.lookup_nil]
  by_cases hasked : asked = flag
  · subst hasked
    have hnone : pairs.lookup asked = none := by
      rw [List.lookup_eq_none_iff]
      intro pair hpair
      have hne : asked ≠ pair.1 := fun heq => hnew (heq ▸ List.mem_map_of_mem hpair)
      simpa using hne
    simp [hnone]
  · have hne : (asked == flag) = false := by simpa using hasked
    simp [hne, hasked]

/-- Where no option is given twice, the claims are the pairs, in whichever order they were given. -/
theorem claimOf_eq_some {pairs : List (QString × QString)} (hnodup : (pairs.map Prod.fst).Nodup)
    {flag value : QString} : claimOf pairs flag = some value ↔ (flag, value) ∈ pairs := by
  induction pairs with
  | nil => simp [claimOf]
  | cons pair pairs ih =>
    obtain ⟨first, given⟩ := pair
    obtain ⟨hfirst, hrest⟩ := List.nodup_cons.mp hnodup
    have ih := ih hrest
    unfold claimOf at ih ⊢
    rw [List.lookup_cons, List.mem_cons, Prod.ext_iff]
    by_cases hflag : flag = first
    · subst hflag
      have habsent : (flag, value) ∉ pairs := fun hmem =>
        hfirst (List.mem_map.mpr ⟨_, hmem, rfl⟩)
      simp [habsent, eq_comm]
    · have hne : (flag == first) = false := by simpa using hflag
      simp [hne, hflag, ih]

/-- The order of the pairs does not show in the map. -/
theorem claimOf_perm {pairs others : List (QString × QString)} (h : pairs.Perm others)
    (hnodup : (pairs.map Prod.fst).Nodup) : claimOf pairs = claimOf others := by
  funext flag
  apply Option.ext
  intro value
  rw [claimOf_eq_some hnodup, claimOf_eq_some ((h.map Prod.fst).nodup_iff.mp hnodup), h.mem_iff]

/-! ## What the loop gathers -/

/-- What the loop itself asks of a flag and its value. -/
structure TakesValue (flag value : QString) : Prop where
  known : flag ∈ KnownFlags
  sequence : flag = ExpectSequenceFlag → ∃ n, DenotesPositive (2 ^ 64 - 1) value n
  language : flag = LanguageFlag → value = QStringLiteral "en" ∨ value = QStringLiteral "de"

namespace ArgumentDraft

/-- The draft after the loop has read `pairs`. -/
def ofPairs (pairs : List (QString × QString)) : ArgumentDraft where
  result :=
    { expected :=
        { deviceSequence :=
            ((claimOf pairs ExpectSequenceFlag).bind fun text =>
              parsePositive text (2 ^ 64 - 1)).map UInt64.ofNat
          serialNumber := (claimOf pairs ExpectSerialFlag).getD []
          uniqueId := (claimOf pairs ExpectUniqueIdFlag).getD []
          path := (claimOf pairs ExpectPathFlag).getD []
          name := (claimOf pairs ExpectNameFlag).getD [] }
      volumeLabel := (claimOf pairs LabelFlag).getD []
      displayLanguage :=
        if claimOf pairs LanguageFlag = some (QStringLiteral "de") then .german else .english }
  device := (claimOf pairs DeviceFlag).getD []
  style := (claimOf pairs StyleFlag).getD []
  fileSystem := (claimOf pairs FileSystemFlag).getD []
  size := (claimOf pairs ExpectSizeFlag).getD []
  sectorSize := (claimOf pairs ExpectSectorSizeFlag).getD []
  seen := pairs.map Prod.fst
  sawLanguage := (claimOf pairs LanguageFlag).isSome

/-- The value of `--expect-sequence` is a positive number of 64 bits, or the arguments are
refused. -/
theorem take_sequence {draft : ArgumentDraft} {value : QString} :
    draft.take ExpectSequenceFlag value =
      match parsePositive value (2 ^ 64 - 1) with
      | none =>
        .error (QStringLiteral "--expect-sequence must be a positive disk sequence number.")
      | some sequence =>
        .ok (draft.expecting fun disk =>
          { disk with deviceSequence := some (UInt64.ofNat sequence) }) := by
  simp +decide only [take, if_true, if_false]
  unfold parsePositive
  cases parseDecimal value (2 ^ 64 - 1) with
  | none => rfl
  | some sequence => by_cases hzero : sequence = 0 <;> simp [hzero, Option.filter]

/-- One turn of the loop adds its pair to the map. -/
theorem take_ofPairs {pairs : List (QString × QString)} {flag value : QString}
    (hnew : flag ∉ pairs.map Prod.fst) (htakes : TakesValue flag value) :
    { ofPairs pairs with seen := (ofPairs pairs).seen ++ [flag] }.take flag value =
      .ok (ofPairs (pairs ++ [(flag, value)])) := by
  have hknown := htakes.known
  simp only [KnownFlags, List.mem_cons, List.not_mem_nil, or_false] at hknown
  have hmap : ∀ asked, claimOf (pairs ++ [(flag, value)]) asked =
      if asked = flag then some value else claimOf pairs asked := claimOf_append hnew
  have hseen : (pairs ++ [(flag, value)]).map Prod.fst = pairs.map Prod.fst ++ [flag] := by simp
  rcases hknown with rfl | rfl | rfl | rfl | rfl | rfl | rfl | rfl | rfl | rfl | rfl | rfl
  case inr.inr.inr.inr.inr.inr.inl =>
    obtain ⟨n, hn⟩ := htakes.sequence rfl
    have hparsed := (parsePositive_eq_some (by decide)).mpr hn
    rw [take_sequence, hparsed]
    simp +decide only [ofPairs, expecting, hmap, hseen, if_true, if_false, Option.bind_some,
      hparsed, Option.map_some]
  case inr.inr.inr.inr.inr.inr.inr.inr.inr.inr.inr =>
    rcases htakes.language rfl with rfl | rfl <;>
      simp +decide only [take, ofPairs, hmap, hseen, if_true, if_false, Option.isSome_some]
  all_goals
    simp +decide only [take, ofPairs, expecting, hmap, hseen, if_true, if_false, Option.getD_some]

/-- A turn that goes through had a flag and a value the loop takes. -/
theorem takesValue_of_take {draft next : ArgumentDraft} {flag value : QString}
    (h : draft.take flag value = .ok next) : TakesValue flag value := by
  by_cases hknown : flag ∈ KnownFlags
  · refine ⟨hknown, ?_, ?_⟩
    · rintro rfl
      rw [take_sequence] at h
      cases hparsed : parsePositive value (2 ^ 64 - 1) with
      | none => rw [hparsed] at h; cases h
      | some n => exact ⟨n, (parsePositive_eq_some (by decide)).mp hparsed⟩
    · rintro rfl
      simp +decide only [take, if_true, if_false] at h
      by_cases hen : value = QStringLiteral "en"
      · exact .inl hen
      · by_cases hde : value = QStringLiteral "de"
        · exact .inr hde
        · rw [if_neg hen, if_neg hde] at h
          cases h
  · simp only [KnownFlags, List.mem_cons, List.not_mem_nil, or_false, not_or] at hknown
    obtain ⟨h1, h2, h3, h4, h5, h6, h7, h8, h9, h10, h11, h12⟩ := hknown
    simp only [take, h1, h2, h3, h4, h5, h6, h7, h8, h9, h10, h11, h12, if_false] at h
    cases h

/-- The whole loop, from the draft of the pairs before it. The induction is on the list, two
strings at a time, as the source reads it. -/
theorem readArguments_ofPairs {arguments : List QString} {done : List (QString × QString)}
    {draft : ArgumentDraft} :
    (ofPairs done).readArguments arguments = .ok draft ↔
      Even arguments.length ∧ (argumentFlags arguments).Nodup ∧
        (∀ flag ∈ argumentFlags arguments, flag ∉ done.map Prod.fst) ∧
        (∀ pair ∈ argumentPairs arguments, TakesValue pair.1 pair.2) ∧
        draft = ofPairs (done ++ argumentPairs arguments) := by
  induction arguments using argumentFlags.induct generalizing done with
  | case1 flag value arguments ih =>
    have hlength : Even (flag :: value :: arguments).length ↔ Even arguments.length := by
      simp [Nat.even_add_one]
    unfold readArguments argumentFlags argumentPairs
    rw [hlength, List.nodup_cons, List.forall_mem_cons, List.forall_mem_cons]
    have hcontains : (ofPairs done).seen.contains flag = true ↔ flag ∈ done.map Prod.fst :=
      List.contains_iff_mem
    by_cases hseen : flag ∈ done.map Prod.fst
    · rw [if_pos (hcontains.mpr hseen)]
      refine iff_of_false (by simp) ?_
      rintro ⟨-, -, ⟨hnew, -⟩, -⟩
      exact hnew hseen
    · rw [if_neg (fun h => hseen (hcontains.mp h))]
      by_cases htakes : TakesValue flag value
      · rw [take_ofPairs hseen htakes]
        dsimp only
        rw [ih, List.append_assoc, List.singleton_append]
        have hmem : ∀ asked, asked ∉ (done ++ [(flag, value)]).map Prod.fst ↔
            asked ∉ done.map Prod.fst ∧ asked ≠ flag := by
          intro asked
          simp [not_or]
        refine and_congr_right fun _ => ⟨?_, ?_⟩
        · rintro ⟨hnodup, hfresh, hvalues, rfl⟩
          refine ⟨⟨fun h => ((hmem flag).mp (hfresh flag h)).2 rfl, hnodup⟩, ⟨hseen, ?_⟩,
            ⟨htakes, hvalues⟩, rfl⟩
          exact fun asked hasked => ((hmem asked).mp (hfresh asked hasked)).1
        · rintro ⟨⟨hother, hnodup⟩, ⟨-, hfresh⟩, ⟨-, hvalues⟩, rfl⟩
          refine ⟨hnodup, fun asked hasked => ?_, hvalues, rfl⟩
          exact (hmem asked).mpr ⟨hfresh asked hasked, fun heq => hother (heq ▸ hasked)⟩
      · refine iff_of_false (fun h => htakes ?_) (fun h => htakes h.2.2.2.1.1)
        split at h
        · cases h
        · next htake => exact takesValue_of_take htake
  | case2 flag =>
    refine iff_of_false (by simp [readArguments]) ?_
    rintro ⟨heven, -⟩
    exact absurd heven (by simp)
  | case3 =>
    simp [readArguments, argumentFlags, argumentPairs, eq_comm]

end ArgumentDraft

/-! ## The grammar -/

/-- What the map from flags to values must hold. -/
structure AcceptedClaims (value : QString → Option QString) : Prop where
  device : ∃ path, value DeviceFlag = some path ∧ isPlausibleDeviceNodePath path = true
  style : value StyleFlag = some (QStringLiteral "gpt") ∨
    value StyleFlag = some (QStringLiteral "mbr")
  fileSystem : ∃ type, value FileSystemFlag = some (fileSystemTypeToken type)
  label : ∃ label, value LabelFlag = some label ∧ isValidVolumeLabel label = true
  size : ∃ text n, value ExpectSizeFlag = some text ∧ DenotesPositive (2 ^ 64 - 1) text n
  sectorSize : ∃ text n,
    value ExpectSectorSizeFlag = some text ∧ DenotesPositive (2 ^ 32 - 1) text n
  language : value LanguageFlag = some (QStringLiteral "en") ∨
    value LanguageFlag = some (QStringLiteral "de")
  sequence : ∀ text, value ExpectSequenceFlag = some text →
    ∃ n, DenotesPositive (2 ^ 64 - 1) text n

/-- The number some claimed digits stand for. -/
def claimedNumber (text : Option QString) : Option Nat := text.bind QString.digits

/-- What accepted claims mean. -/
def argumentsMeant (value : QString → Option QString) : RestoreArguments where
  expected :=
    { deviceId := (value DeviceFlag).getD []
      displayId := (value DeviceFlag).getD []
      serialNumber := (value ExpectSerialFlag).getD []
      uniqueId := (value ExpectUniqueIdFlag).getD []
      path := (value ExpectPathFlag).getD []
      name := (value ExpectNameFlag).getD []
      deviceSequence := (claimedNumber (value ExpectSequenceFlag)).map UInt64.ofNat
      size := UInt64.ofNat ((claimedNumber (value ExpectSizeFlag)).getD 0)
      sectorSize := UInt32.ofNat ((claimedNumber (value ExpectSectorSizeFlag)).getD 0) }
  style := if value StyleFlag = some (QStringLiteral "mbr") then .mbr else .gpt
  fileSystem := ((value FileSystemFlag).bind parseFileSystemType).getD .exFat
  volumeLabel := (value LabelFlag).getD []
  displayLanguage :=
    if value LanguageFlag = some (QStringLiteral "de") then .german else .english

theorem parseFileSystemType_eq_some {token : QString} {type : FileSystemType} :
    parseFileSystemType token = some type ↔ token = fileSystemTypeToken type := by
  constructor
  · intro h
    obtain ⟨entry, hfind, rfl⟩ := Option.map_eq_some_iff.mp h
    have htoken := List.find?_some hfind
    have hmem := List.mem_of_find?_eq_some hfind
    rw [of_decide_eq_true htoken]
    simp only [FileSystemNamesTable, List.mem_cons, List.not_mem_nil, or_false] at hmem
    rcases hmem with rfl | rfl | rfl | rfl <;> decide
  · rintro rfl
    exact parseFileSystemType_token type

theorem parseStyle_eq_some {text : QString} {style : PartitionStyle} (h : parseStyle text = some style) :
    text = QStringLiteral "gpt" ∧ style = .gpt ∨ text = QStringLiteral "mbr" ∧ style = .mbr := by
  unfold parseStyle at h
  split_ifs at h with hgpt hmbr
  · exact .inl ⟨hgpt, (Option.some.inj h).symm⟩
  · exact .inr ⟨hmbr, (Option.some.inj h).symm⟩

/-- A claim that is missing reads as empty text. -/
theorem eq_some_of_getD {claim : Option QString} {text : QString} (h : claim.getD [] = text)
    (hne : text ≠ []) : claim = some text := by
  cases claim with
  | none => exact absurd h.symm hne
  | some given => exact congrArg some h

theorem claimedNumber_of_denotes {maximum n : Nat} {text : QString}
    (h : DenotesPositive maximum text n) : claimedNumber (some text) = some n := h.1

namespace ArgumentDraft

/-- The loop has seen to the sequence and the language. -/
structure LoopChecked (value : QString → Option QString) : Prop where
  sequence : ∀ text, value ExpectSequenceFlag = some text →
    ∃ n, DenotesPositive (2 ^ 64 - 1) text n
  language : ∀ text, value LanguageFlag = some text →
    text = QStringLiteral "en" ∨ text = QStringLiteral "de"

/-- What is accepted at the end has accepted claims. -/
theorem finish_accepts {pairs : List (QString × QString)} {parsed : RestoreArguments}
    (hloop : LoopChecked (claimOf pairs)) (h : (ofPairs pairs).finish = .ok parsed) :
    AcceptedClaims (claimOf pairs) := by
  unfold finish at h
  split at h
  · cases h
  next hdevice =>
  split at h
  · cases h
  · cases h
  next style fileSystem hstyle hfileSystem =>
  split at h
  · cases h
  next hlabel =>
  split at h
  · cases h
  · cases h
  next size sectorSize hsize hsectorSize =>
  split at h
  · cases h
  next hlanguage =>
  clear h
  rw [Bool.not_eq_true', Bool.not_eq_false] at hdevice hlabel hlanguage
  replace hsize := (parsePositive_eq_some (by decide)).mp hsize
  replace hsectorSize := (parsePositive_eq_some (by decide)).mp hsectorSize
  dsimp only [ofPairs] at hdevice hstyle hfileSystem hlabel hsize hsectorSize hlanguage
  obtain ⟨language, hgiven⟩ := Option.isSome_iff_exists.mp hlanguage
  refine ⟨⟨_, eq_some_of_getD rfl ?_, hdevice⟩, ?_,
    ⟨fileSystem, eq_some_of_getD (parseFileSystemType_eq_some.mp hfileSystem) ?_⟩,
    ⟨_, eq_some_of_getD rfl ?_, hlabel⟩, ⟨_, size, eq_some_of_getD rfl ?_, hsize⟩,
    ⟨_, sectorSize, eq_some_of_getD rfl ?_, hsectorSize⟩, ?_, hloop.sequence⟩
  · intro hnil
    rw [hnil] at hdevice
    exact absurd hdevice (by decide)
  · rcases parseStyle_eq_some hstyle with ⟨hgpt, -⟩ | ⟨hmbr, -⟩
    · exact .inl (eq_some_of_getD hgpt (by decide))
    · exact .inr (eq_some_of_getD hmbr (by decide))
  · cases fileSystem <;> decide
  · intro hnil
    rw [hnil] at hlabel
    exact absurd hlabel (by decide)
  · intro hnil
    rw [hnil] at hsize
    exact absurd hsize.1 (by simp [QString.digits])
  · intro hnil
    rw [hnil] at hsectorSize
    exact absurd hsectorSize.1 (by simp [QString.digits])
  · rcases hloop.language language hgiven with rfl | rfl
    · exact .inl hgiven
    · exact .inr hgiven

/-- Claims that are acceptable are accepted at the end, and what is returned is what they mean. -/
theorem finish_ofPairs {pairs : List (QString × QString)} (h : AcceptedClaims (claimOf pairs)) :
    (ofPairs pairs).finish = .ok (argumentsMeant (claimOf pairs)) := by
  obtain ⟨path, hpath, hnodePath⟩ := h.device
  obtain ⟨type, htype⟩ := h.fileSystem
  obtain ⟨label, hlabel, hvalid⟩ := h.label
  obtain ⟨size, sizeNumber, hsize, hsizeDenotes⟩ := h.size
  obtain ⟨sectorSize, sectorSizeNumber, hsectorSize, hsectorDenotes⟩ := h.sectorSize
  have hsizeParsed := (parsePositive_eq_some (by decide)).mpr hsizeDenotes
  have hsectorParsed := (parsePositive_eq_some (by decide)).mpr hsectorDenotes
  have hlanguage : (claimOf pairs LanguageFlag).isSome = true := by
    rcases h.language with hen | hde
    · rw [hen]; rfl
    · rw [hde]; rfl
  have hstyle : parseStyle ((claimOf pairs StyleFlag).getD []) =
      some (if claimOf pairs StyleFlag = some (QStringLiteral "mbr") then .mbr else .gpt) := by
    rcases h.style with hgpt | hmbr
    · rw [hgpt]; decide
    · rw [hmbr]; decide
  have hsequence : (claimOf pairs ExpectSequenceFlag).bind
      (fun text => parsePositive text (2 ^ 64 - 1)) =
        claimedNumber (claimOf pairs ExpectSequenceFlag) := by
    cases hclaim : claimOf pairs ExpectSequenceFlag with
    | none => rfl
    | some text =>
      obtain ⟨n, hn⟩ := h.sequence text hclaim
      rw [claimedNumber_of_denotes hn]
      exact (parsePositive_eq_some (by decide)).mpr hn
  unfold finish argumentsMeant ofPairs
  dsimp only
  rw [hstyle, hsequence, hpath, htype, hlabel, hsize, hsectorSize, hlanguage]
  simp only [Option.getD_some, hnodePath, parseFileSystemType_token, hvalid, hsizeParsed,
    hsectorParsed, claimedNumber_of_denotes hsizeDenotes, claimedNumber_of_denotes hsectorDenotes,
    Bool.not_true, Bool.false_eq_true, if_false, Option.bind_some]

end ArgumentDraft

/-- The list is made of pairs, every flag is known and comes once, and the map is accepted. -/
structure WellFormedArguments (arguments : List QString) : Prop where
  even : Even arguments.length
  distinct : (argumentFlags arguments).Nodup
  known : ∀ flag ∈ argumentFlags arguments, flag ∈ KnownFlags
  accepted : AcceptedClaims (claimOf (argumentPairs arguments))

/-- What is accepted are the well-formed arguments, and what is returned is the meaning of their
claims. -/
theorem parseRestoreArguments_eq_ok {arguments : List QString} {parsed : RestoreArguments} :
    parseRestoreArguments arguments = .ok parsed ↔
      WellFormedArguments arguments ∧
        parsed = argumentsMeant (claimOf (argumentPairs arguments)) := by
  have hempty : ({} : ArgumentDraft) = ArgumentDraft.ofPairs [] := rfl
  unfold parseRestoreArguments
  rw [hempty]
  constructor
  · intro h
    split at h
    · cases h
    next draft hread =>
    obtain ⟨heven, hdistinct, -, htakes, rfl⟩ := ArgumentDraft.readArguments_ofPairs.mp hread
    rw [List.nil_append] at h
    have hpairs : ((argumentPairs arguments).map Prod.fst).Nodup := by
      rw [← argumentFlags_eq_map heven]
      exact hdistinct
    have hloop : ArgumentDraft.LoopChecked (claimOf (argumentPairs arguments)) := by
      refine ⟨fun text htext => ?_, fun text htext => ?_⟩
      · exact (htakes _ ((claimOf_eq_some hpairs).mp htext)).sequence rfl
      · exact (htakes _ ((claimOf_eq_some hpairs).mp htext)).language rfl
    have haccepted := ArgumentDraft.finish_accepts hloop h
    rw [ArgumentDraft.finish_ofPairs haccepted] at h
    refine ⟨⟨heven, hdistinct, fun flag hflag => ?_, haccepted⟩, (Except.ok.inj h).symm⟩
    rw [argumentFlags_eq_map heven] at hflag
    obtain ⟨pair, hpair, rfl⟩ := List.mem_map.mp hflag
    exact (htakes pair hpair).known
  · rintro ⟨⟨heven, hdistinct, hknown, haccepted⟩, rfl⟩
    have hflags := argumentFlags_eq_map heven
    have hpairs : ((argumentPairs arguments).map Prod.fst).Nodup := hflags ▸ hdistinct
    have hread : (ArgumentDraft.ofPairs []).readArguments arguments =
        .ok (ArgumentDraft.ofPairs (argumentPairs arguments)) := by
      refine ArgumentDraft.readArguments_ofPairs.mpr ⟨heven, hdistinct, by simp, ?_, rfl⟩
      intro pair hpair
      have hclaim : claimOf (argumentPairs arguments) pair.1 = some pair.2 :=
        (claimOf_eq_some hpairs).mpr hpair
      refine ⟨hknown _ (hflags ▸ List.mem_map_of_mem hpair), fun hflag => ?_, fun hflag => ?_⟩
      · rw [hflag] at hclaim
        exact haccepted.sequence _ hclaim
      · rw [hflag] at hclaim
        rcases haccepted.language with hen | hde
        · exact .inl (Option.some.inj (hclaim.symm.trans hen))
        · exact .inr (Option.some.inj (hclaim.symm.trans hde))
    rw [hread]
    exact ArgumentDraft.finish_ofPairs haccepted

/-- The order of the options decides neither whether they are well formed nor what they claim. -/
theorem wellFormedArguments_of_perm {pairs others : List (QString × QString)}
    (hperm : pairs.Perm others) (h : WellFormedArguments (argumentsOf pairs)) :
    WellFormedArguments (argumentsOf others) ∧
      claimOf (argumentPairs (argumentsOf others)) = claimOf (argumentPairs (argumentsOf pairs)) := by
  obtain ⟨heven, hdistinct, hknown, haccepted⟩ := h
  have hflags : ∀ pairs : List (QString × QString),
      argumentFlags (argumentsOf pairs) = pairs.map Prod.fst := by
    intro pairs
    rw [argumentFlags_eq_map (length_argumentsOf_even pairs), argumentPairs_argumentsOf]
  rw [hflags] at hdistinct hknown
  rw [argumentPairs_argumentsOf] at haccepted
  have hmap : (pairs.map Prod.fst).Perm (others.map Prod.fst) := hperm.map Prod.fst
  have hclaim : claimOf others = claimOf pairs := (claimOf_perm hperm hdistinct).symm
  refine ⟨⟨length_argumentsOf_even others, ?_, ?_, ?_⟩, ?_⟩
  · rw [hflags]
    exact hmap.nodup_iff.mp hdistinct
  · rw [hflags]
    exact fun flag hflag => hknown flag (hmap.mem_iff.mpr hflag)
  · rw [argumentPairs_argumentsOf, hclaim]
    exact haccepted
  · rw [argumentPairs_argumentsOf, argumentPairs_argumentsOf, hclaim]

/-- Nor does it decide what is returned for them. -/
theorem parseRestoreArguments_perm {pairs others : List (QString × QString)}
    (hperm : pairs.Perm others) {parsed : RestoreArguments}
    (h : parseRestoreArguments (argumentsOf pairs) = .ok parsed) :
    parseRestoreArguments (argumentsOf others) = .ok parsed := by
  obtain ⟨hwell, rfl⟩ := parseRestoreArguments_eq_ok.mp h
  obtain ⟨hother, hclaim⟩ := wellFormedArguments_of_perm hperm hwell
  exact parseRestoreArguments_eq_ok.mpr ⟨hother, by rw [hclaim]⟩

/-- `parseRestoreArguments` with its out parameters: the result, the object of the caller and the
error text after the call. -/
def parseRestoreArgumentsInto (arguments : List QString) (parsed : RestoreArguments)
    (error : QString) : Bool × RestoreArguments × QString :=
  match parseRestoreArguments arguments with
  | .ok result => (true, result, error)
  | .error text => (false, parsed, text)

/-- The grammar of the arguments, what they mean, and what a refusal leaves behind. -/
theorem parseRestoreArgumentsInto_grammar (arguments : List QString) (object : RestoreArguments)
    (error : QString) :
    ((parseRestoreArgumentsInto arguments object error).1 = true ↔
      WellFormedArguments arguments) ∧
    ((parseRestoreArgumentsInto arguments object error).1 = true →
      (parseRestoreArgumentsInto arguments object error).2.1 =
        argumentsMeant (claimOf (argumentPairs arguments))) ∧
    ((parseRestoreArgumentsInto arguments object error).1 = false →
      (parseRestoreArgumentsInto arguments object error).2.1 = object) ∧
    ∀ pairs others : List (QString × QString), pairs.Perm others →
      (parseRestoreArguments (argumentsOf pairs)).toOption =
        (parseRestoreArguments (argumentsOf others)).toOption := by
  unfold parseRestoreArgumentsInto
  refine ⟨?_, ?_, ?_, ?_⟩
  · cases hparse : parseRestoreArguments arguments with
    | error text =>
      refine iff_of_false (by simp) fun hwell => ?_
      rw [parseRestoreArguments_eq_ok.mpr ⟨hwell, rfl⟩] at hparse
      cases hparse
    | ok parsed => exact iff_of_true rfl (parseRestoreArguments_eq_ok.mp hparse).1
  · intro haccepted
    cases hparse : parseRestoreArguments arguments with
    | error text => rw [hparse] at haccepted; cases haccepted
    | ok parsed => exact (parseRestoreArguments_eq_ok.mp hparse).2
  · intro hrefused
    cases hparse : parseRestoreArguments arguments with
    | error text => rfl
    | ok parsed => rw [hparse] at hrefused; cases hrefused
  · intro pairs others hperm
    cases hparse : parseRestoreArguments (argumentsOf pairs) with
    | ok parsed => rw [parseRestoreArguments_perm hperm hparse]
    | error text =>
      cases hother : parseRestoreArguments (argumentsOf others) with
      | error text => rfl
      | ok parsed =>
        rw [parseRestoreArguments_perm hperm.symm hother] at hparse
        cases hparse

end UsbRestore
