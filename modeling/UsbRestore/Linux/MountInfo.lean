-- SUMMARY: The mount table as the kernel formats it, and what the parser makes of it.
import UsbRestore.Core.ProtocolRoundTrip
import UsbRestore.Linux.Sysfs

/-!
# The lines of the mount table

Every field of a line ends at a space, so the kernel escapes what would end one early. The source
stands after the separator, which is the first field that is a dash: a path before it must not be
one.
-/

namespace UsbRestore

/-! ## What the kernel writes -/

/-- The code units that the kernel escapes, each with its escape. -/
def mountEscape (c : QChar) : QString :=
  if c = 32 then QStringLiteral "\\040"
  else if c = 9 then QStringLiteral "\\011"
  else if c = 10 then QStringLiteral "\\012"
  else if c = QChar.ofChar '\\' then QStringLiteral "\\134"
  else [c]

def escapeMountField (text : QString) : QString := text.flatMap mountEscape

/-- A mount, as `/proc/self/mountinfo` has it. -/
structure Mount where
  id : Nat
  parent : Nat
  device : DeviceNumber
  root : QString
  mountPoint : QString
  options : QString
  optional : List QString
  fileSystem : QString
  source : QString
  superOptions : QString
  deriving DecidableEq

namespace Mount

def deviceField (mount : Mount) : QString :=
  QString.number mount.device.major.toNat ++
    QChar.ofChar ':' :: QString.number mount.device.minor.toNat

/-- The fields up to the mount options. -/
def head (mount : Mount) : List QString :=
  [.number mount.id, .number mount.parent, mount.deviceField, escapeMountField mount.root,
    escapeMountField mount.mountPoint, mount.options]

/-- The separator and the fields after it. -/
def tail (mount : Mount) : List QString :=
  [QStringLiteral "-", mount.fileSystem, escapeMountField mount.source, mount.superOptions]

def fields (mount : Mount) : List QString := mount.head ++ mount.optional ++ mount.tail

/-- A line without its newline. -/
def line (mount : Mount) : QString := QString.number mount.id ++ spaced mount.fields.tail

/-- What the program keeps of a mount. -/
def entry (mount : Mount) : MountEntry := ⟨mount.device, mount.mountPoint, mount.source⟩

/-- A field that is written as it is. -/
def IsPlain (field : QString) : Prop := field ≠ [] ∧ space ∉ field ∧ 10 ∉ field

instance (field : QString) : Decidable (IsPlain field) :=
  inferInstanceAs (Decidable (field ≠ [] ∧ space ∉ field ∧ 10 ∉ field))

/-- No field is empty, and no optional field is the separator. -/
structure IsFormatted (mount : Mount) : Prop where
  root : mount.root ≠ []
  mountPoint : mount.mountPoint ≠ []
  source : mount.source ≠ []
  options : IsPlain mount.options
  optional : ∀ field ∈ mount.optional, IsPlain field ∧ field ≠ QStringLiteral "-"
  fileSystem : IsPlain mount.fileSystem
  superOptions : IsPlain mount.superOptions

/-- Nor is a path or the options before it. -/
structure IsSeparated (mount : Mount) : Prop where
  root : mount.root ≠ QStringLiteral "-"
  mountPoint : mount.mountPoint ≠ QStringLiteral "-"
  options : mount.options ≠ QStringLiteral "-"

end Mount

/-- The text of the whole table. -/
def mountInfo (mounts : List Mount) : QString := mounts.flatMap fun mount => mount.line ++ [10]

/-! ## Escapes -/

theorem unescapeMountField_four (c d1 d2 d3 : QChar) (rest : QString) :
    unescapeMountField (c :: d1 :: d2 :: d3 :: rest) =
      if c = QChar.ofChar '\\' then
        match toIntOctal [d1, d2, d3] with
        | some code => charOfCode code :: unescapeMountField rest
        | none => c :: unescapeMountField (d1 :: d2 :: d3 :: rest)
      else c :: unescapeMountField (d1 :: d2 :: d3 :: rest) := by
  rfl

/-- A character that is no backslash stands for itself. -/
theorem unescapeMountField_cons {c : QChar} (h : c ≠ QChar.ofChar '\\') (text : QString) :
    unescapeMountField (c :: text) = c :: unescapeMountField text := by
  match text with
  | [] => rfl
  | [_] => rfl
  | [_, _] => rfl
  | _ :: _ :: _ :: _ => exact (unescapeMountField_four ..).trans (if_neg h)

/-- An escape stands for the character of its code. -/
theorem unescapeMountField_escape {d1 d2 d3 : QChar} {code : Int}
    (h : toIntOctal [d1, d2, d3] = some code) (text : QString) :
    unescapeMountField (QChar.ofChar '\\' :: d1 :: d2 :: d3 :: text) =
      charOfCode code :: unescapeMountField text := by
  rw [unescapeMountField_four, if_pos rfl, h]

/-- An escaped unit reads back as itself, whatever follows. -/
theorem unescapeMountField_mountEscape (c : QChar) (text : QString) :
    unescapeMountField (mountEscape c ++ text) = c :: unescapeMountField text := by
  unfold mountEscape
  split_ifs with hspace htab hnewline hbackslash
  · subst hspace
    exact unescapeMountField_escape (show _ = some 32 by decide) text
  · subst htab
    exact unescapeMountField_escape (show _ = some 9 by decide) text
  · subst hnewline
    exact unescapeMountField_escape (show _ = some 10 by decide) text
  · subst hbackslash
    exact unescapeMountField_escape (show _ = some 92 by decide) text
  · exact unescapeMountField_cons hbackslash text

/-- Escaping a field and reading it back gives the field. -/
theorem unescapeMountField_escapeMountField (text : QString) :
    unescapeMountField (escapeMountField text) = text := by
  induction text with
  | nil => rfl
  | cons c text ih =>
    rw [escapeMountField, List.flatMap_cons, unescapeMountField_mountEscape, ← escapeMountField, ih]

/-- An escape is never empty, and neither a space nor a newline is in it. -/
theorem isPlain_mountEscape (c : QChar) : Mount.IsPlain (mountEscape c) := by
  unfold mountEscape
  split_ifs with hspace htab hnewline hbackslash
  · decide
  · decide
  · decide
  · decide
  · refine ⟨List.cons_ne_nil _ _, ?_, ?_⟩
    · rw [List.mem_singleton]
      exact fun h => hspace h.symm
    · rw [List.mem_singleton]
      exact fun h => hnewline h.symm

theorem isPlain_escapeMountField {text : QString} (h : text ≠ []) :
    Mount.IsPlain (escapeMountField text) := by
  obtain ⟨c, rest, rfl⟩ := List.exists_cons_of_ne_nil h
  refine ⟨?_, ?_, ?_⟩
  · rw [escapeMountField, List.flatMap_cons]
    exact List.append_ne_nil_of_left_ne_nil (isPlain_mountEscape c).1 _
  · intro hmem
    obtain ⟨d, _, hd⟩ := List.mem_flatMap.mp hmem
    exact (isPlain_mountEscape d).2.1 hd
  · intro hmem
    obtain ⟨d, _, hd⟩ := List.mem_flatMap.mp hmem
    exact (isPlain_mountEscape d).2.2 hd

/-- Only a dash is written as a dash. -/
theorem escapeMountField_eq_dash {text : QString} (h : escapeMountField text = QStringLiteral "-") :
    text = QStringLiteral "-" := by
  rw [← unescapeMountField_escapeMountField text, h]
  rfl

/-! ## Device numbers -/

theorem toUInt_number (n : UInt32) : QString.toUInt (QString.number n.toNat) = some n := by
  have hword : n.toNat < 2 ^ 64 := Nat.lt_trans n.toNat_lt (by omega)
  have hlong : QString.toULongLong (QString.number n.toNat) = some (UInt64.ofNat n.toNat) := by
    cases hnum : QString.number n.toNat with
    | nil => exact absurd hnum (QString.number_ne_nil _)
    | cons c rest =>
      have hdigit : QChar.isDigit c = true :=
        QString.isDigit_of_mem_number (n := n.toNat) (hnum ▸ List.mem_cons_self)
      have hplus : c ≠ QChar.ofChar '+' := by
        rintro rfl
        revert hdigit
        decide
      have hdigits := QString.digits_number n.toNat
      have htrimmed := QString.trimmed_number n.toNat
      rw [hnum] at hdigits htrimmed
      simp only [QString.toULongLong, htrimmed, hplus, if_false, hdigits, hword, if_true]
  have hsmall : UInt64.ofNat n.toNat < 0x100000000 := by
    rw [UInt64.lt_iff_toNat_lt, UInt64.toNat_ofNat_of_lt' hword]
    exact n.toNat_lt
  have hback : (UInt64.ofNat n.toNat).toUInt32 = n := by
    rw [← UInt32.toNat_inj, UInt64.toNat_toUInt32, UInt64.toNat_ofNat_of_lt' hword]
    exact Nat.mod_eq_of_lt n.toNat_lt
  rw [QString.toUInt, hlong]
  simp only [hsmall, if_true, hback]

theorem deviceField_trimmed (mount : Mount) : mount.deviceField.trimmed = mount.deviceField := by
  apply QString.trimmed_eq_self
  · intro c hc
    obtain ⟨d, rest, hnum⟩ := List.exists_cons_of_ne_nil
      (QString.number_ne_nil mount.device.major.toNat)
    rw [Mount.deviceField, hnum, List.cons_append, List.head?_cons, Option.mem_some_iff] at hc
    subst hc
    exact QString.isSpace_of_isDigit
      (QString.isDigit_of_mem_number (n := mount.device.major.toNat) (hnum ▸ List.mem_cons_self))
  · intro c hc
    rw [Mount.deviceField, List.getLast?_append_cons,
      List.getLast?_cons_of_ne_nil (QString.number_ne_nil _)] at hc
    exact QString.isSpace_of_isDigit (QString.isDigit_of_mem_number (List.mem_of_getLast? hc))

/-- A device number that was written is read back. -/
theorem parseDeviceNumber_deviceField (mount : Mount) :
    parseDeviceNumber mount.deviceField = mount.device := by
  have hsplit : mount.deviceField.split (QChar.ofChar ':') =
      [.number mount.device.major.toNat, .number mount.device.minor.toNat] := by
    rw [Mount.deviceField, QString.split_append_sep (QString.not_mem_number (by decide)),
      QString.split_eq_singleton (QString.not_mem_number (by decide))]
  rw [parseDeviceNumber, deviceField_trimmed, hsplit]
  simp only [toUInt_number, Option.getD_some]

/-! ## Lines -/

namespace Mount

variable {mount : Mount}

theorem isPlain_number (n : Nat) : IsPlain (.number n) :=
  ⟨QString.number_ne_nil n, QString.not_mem_number (by decide), QString.not_mem_number (by decide)⟩

theorem isPlain_deviceField (mount : Mount) : IsPlain mount.deviceField := by
  have hmajor := isPlain_number mount.device.major.toNat
  have hminor := isPlain_number mount.device.minor.toNat
  have hcolon : ∀ c : QChar, c ≠ QChar.ofChar ':' → c ∉ QString.number mount.device.major.toNat →
      c ∉ QString.number mount.device.minor.toNat → c ∉ mount.deviceField := by
    intro c hc hleft hright hmem
    rw [deviceField, List.mem_append, List.mem_cons] at hmem
    rcases hmem with h | h | h
    · exact hleft h
    · exact hc h
    · exact hright h
  refine ⟨?_, hcolon _ (by decide) hmajor.2.1 hminor.2.1, hcolon _ (by decide) hmajor.2.2 hminor.2.2⟩
  exact List.append_ne_nil_of_left_ne_nil hmajor.1 _

theorem IsFormatted.fields (h : mount.IsFormatted) : ∀ field ∈ mount.fields, IsPlain field := by
  intro field hfield
  rw [Mount.fields, List.mem_append, List.mem_append] at hfield
  rcases hfield with (hhead | hoptional) | htail
  · simp only [head, List.mem_cons, List.not_mem_nil, or_false] at hhead
    rcases hhead with rfl | rfl | rfl | rfl | rfl | rfl
    · exact isPlain_number _
    · exact isPlain_number _
    · exact isPlain_deviceField mount
    · exact isPlain_escapeMountField h.root
    · exact isPlain_escapeMountField h.mountPoint
    · exact h.options
  · exact (h.optional field hoptional).1
  · simp only [tail, List.mem_cons, List.not_mem_nil, or_false] at htail
    rcases htail with rfl | rfl | rfl | rfl
    · decide
    · exact h.fileSystem
    · exact isPlain_escapeMountField h.source
    · exact h.superOptions

theorem fields_eq (mount : Mount) : mount.fields = .number mount.id :: mount.fields.tail := rfl

/-- The line splits into the fields it was joined of. -/
theorem IsFormatted.split (h : mount.IsFormatted) :
    mount.line.splitSkipEmpty space = mount.fields := by
  have hfields := h.fields
  rw [fields_eq] at hfields ⊢
  obtain ⟨hfirst, hlater⟩ := List.forall_mem_cons.mp hfields
  exact splitSkipEmpty_spaced ⟨hfirst.2.1, hfirst.1⟩
    fun field hfield => ⟨(hlater field hfield).2.1, (hlater field hfield).1⟩

theorem IsFormatted.line (h : mount.IsFormatted) : mount.line ≠ [] ∧ 10 ∉ mount.line := by
  have hfields := h.fields
  rw [fields_eq] at hfields
  obtain ⟨hfirst, hlater⟩ := List.forall_mem_cons.mp hfields
  refine ⟨List.append_ne_nil_of_left_ne_nil hfirst.1 _, ?_⟩
  intro hmem
  rcases List.mem_append.mp hmem with hid | hrest
  · exact hfirst.2.2 hid
  · obtain ⟨field, hfield, hspaced⟩ := List.mem_flatMap.mp hrest
    rcases List.mem_cons.mp hspaced with hspace | hin
    · exact absurd hspace (by decide)
    · exact (hlater field hfield).2.2 hin

/-- The first dash is the separator. -/
theorem IsSeparated.findIdx (hseparated : mount.IsSeparated) (h : mount.IsFormatted) :
    mount.fields.findIdx (· = QStringLiteral "-") = 6 + mount.optional.length := by
  have hnumber : ∀ n, QString.number n ≠ QStringLiteral "-" := by
    intro n hdash
    have hmem : QChar.ofChar '-' ∈ QString.number n := by
      rw [hdash]
      decide
    exact QString.not_mem_number (by decide) hmem
  have hdevice : mount.deviceField ≠ QStringLiteral "-" := by
    intro hdash
    have hcolon : QChar.ofChar ':' ∈ mount.deviceField := by simp [deviceField]
    rw [hdash] at hcolon
    revert hcolon
    decide
  have hbefore : ∀ field ∈ mount.head ++ mount.optional, field ≠ QStringLiteral "-" := by
    intro field hfield
    rcases List.mem_append.mp hfield with hhead | hoptional
    · simp only [head, List.mem_cons, List.not_mem_nil, or_false] at hhead
      rcases hhead with rfl | rfl | rfl | rfl | rfl | rfl
      · exact hnumber _
      · exact hnumber _
      · exact hdevice
      · exact fun hdash => hseparated.root (escapeMountField_eq_dash hdash)
      · exact fun hdash => hseparated.mountPoint (escapeMountField_eq_dash hdash)
      · exact hseparated.options
    · exact (h.optional field hoptional).2
  have hlength : (mount.head ++ mount.optional).length = 6 + mount.optional.length :=
    List.length_append
  have hnone : (mount.head ++ mount.optional).findIdx (· = QStringLiteral "-") =
      (mount.head ++ mount.optional).length :=
    List.findIdx_eq_length_of_false fun field hfield => decide_eq_false (hbefore field hfield)
  have htail : mount.tail.findIdx (· = QStringLiteral "-") = 0 := rfl
  rw [Mount.fields, List.findIdx_append, hnone, if_neg (Nat.lt_irrefl _), htail, Nat.zero_add,
    hlength]

theorem getD_tail (mount : Mount) (i : Nat) :
    mount.fields.getD (6 + mount.optional.length + i) [] = mount.tail.getD i [] := by
  have hlength : (mount.head ++ mount.optional).length = 6 + mount.optional.length :=
    List.length_append
  rw [Mount.fields, List.getD_append_right _ _ _ _ (by rw [hlength]; exact Nat.le_add_right _ _),
    hlength, Nat.add_sub_cancel_left]

theorem IsSeparated.parse (hseparated : mount.IsSeparated) (h : mount.IsFormatted) :
    parseMountLine mount.line = some mount.entry := by
  have hlength : mount.fields.length = 6 + mount.optional.length + 4 := by
    simp only [Mount.fields, List.length_append]
    rfl
  have hsource : mount.fields.getD (6 + mount.optional.length + 2) [] =
      escapeMountField mount.source := getD_tail mount 2
  unfold parseMountLine
  rw [show mount.line.splitSkipEmpty (QChar.ofChar ' ') = mount.fields from h.split]
  dsimp only
  rw [if_neg (by omega), hseparated.findIdx h, if_pos (by omega), hsource,
    unescapeMountField_escapeMountField]
  have hdevice : parseDeviceNumber (mount.fields.getD 2 []) = mount.device :=
    parseDeviceNumber_deviceField mount
  have hpoint : unescapeMountField (mount.fields.getD 4 []) = mount.mountPoint :=
    unescapeMountField_escapeMountField mount.mountPoint
  rw [hdevice, hpoint, entry]

end Mount

/-- The lines of the table are those of its mounts. -/
theorem splitSkipEmpty_mountInfo {mounts : List Mount}
    (hformatted : ∀ mount ∈ mounts, mount.IsFormatted) :
    (mountInfo mounts).splitSkipEmpty 10 = mounts.map Mount.line := by
  induction mounts with
  | nil => rfl
  | cons mount mounts ih =>
    obtain ⟨hfirst, hlater⟩ := List.forall_mem_cons.mp hformatted
    obtain ⟨hne, hnewline⟩ := hfirst.line
    rw [mountInfo, List.flatMap_cons, List.append_assoc, List.singleton_append,
      QString.splitSkipEmpty_append_sep hnewline hne, ← mountInfo, ih hlater, List.map_cons]

/-- The table parses as the mounts that it was formatted from. -/
theorem parseMounts_mountInfo (mounts : List Mount)
    (hformatted : ∀ mount ∈ mounts, mount.IsFormatted)
    (hseparated : ∀ mount ∈ mounts, mount.IsSeparated) :
    parseMounts (mountInfo mounts) = mounts.map Mount.entry := by
  rw [parseMounts, splitSkipEmpty_mountInfo hformatted, List.filterMap_map, ← List.filterMap_eq_map]
  apply List.filterMap_congr
  intro mount hmount
  exact (hseparated mount hmount).parse (hformatted mount hmount)

/-- Two mounts, one of them over a path with a space and with what looks like an escape. -/
def twoMounts : List Mount :=
  [{ id := 36, parent := 35, device := ⟨8, 17⟩, root := QStringLiteral "/",
      mountPoint := QStringLiteral "/media/My Disk\\040", options := QStringLiteral "rw",
      optional := [QStringLiteral "shared:1"], fileSystem := QStringLiteral "ext4",
      source := QStringLiteral "/dev/sdb1", superOptions := QStringLiteral "rw" },
    { id := 37, parent := 35, device := ⟨0, 4294967295⟩, root := QStringLiteral "/",
      mountPoint := QStringLiteral "/run", options := QStringLiteral "rw", optional := [],
      fileSystem := QStringLiteral "tmpfs", source := QStringLiteral "-",
      superOptions := QStringLiteral "rw" }]

theorem parseMounts_mountInfo_twoMounts :
    parseMounts (mountInfo twoMounts) = twoMounts.map Mount.entry := by
  refine parseMounts_mountInfo twoMounts ?_ ?_
  · intro mount hmount
    simp only [twoMounts, List.mem_cons, List.not_mem_nil, or_false] at hmount
    rcases hmount with rfl | rfl
    · exact ⟨by decide, by decide, by decide, by decide, by decide, by decide, by decide⟩
    · exact ⟨by decide, by decide, by decide, by decide, by decide, by decide, by decide⟩
  · intro mount hmount
    simp only [twoMounts, List.mem_cons, List.not_mem_nil, or_false] at hmount
    rcases hmount with rfl | rfl
    · exact ⟨by decide, by decide, by decide⟩
    · exact ⟨by decide, by decide, by decide⟩

/-- A mount over a path that is a dash. -/
def dashMount : Mount :=
  { id := 36, parent := 35, device := ⟨8, 17⟩, root := QStringLiteral "/",
    mountPoint := QStringLiteral "-", options := QStringLiteral "rw", optional := [],
    fileSystem := QStringLiteral "ext4", source := QStringLiteral "/dev/sdb1",
    superOptions := QStringLiteral "rw" }

/-- Its source is read two fields after the path, so the table is not read back. -/
theorem parseMounts_mountInfo_dashMount :
    ¬∀ mounts : List Mount, (∀ mount ∈ mounts, mount.IsFormatted) →
      parseMounts (mountInfo mounts) = mounts.map Mount.entry := by
  intro h
  have hformatted : dashMount.IsFormatted :=
    ⟨by decide, by decide, by decide, by decide, by decide, by decide, by decide⟩
  have hread := h [dashMount] fun mount hmount => List.mem_singleton.mp hmount ▸ hformatted
  revert hread
  decide

end UsbRestore
