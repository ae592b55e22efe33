-- SUMMARY: A path is protected exactly where it is a protected one or holds it, by the components of both.
import UsbRestore.Base.Words
import UsbRestore.Core.SafetyFacts
import Mathlib.Data.List.Chain

/-!
# Protected paths

On absolute paths the normalised text is a slash before the components joined by slashes, so the
test for a text prefix is one for a prefix of the components. More protected paths protect more.
-/

namespace UsbRestore

def slash : QChar := QChar.ofChar '/'

def isSlash (c : QChar) : Bool := c == slash

/-- The components of a path, without the empty ones. -/
def pathComponents (path : QString) : List QString := Words.words isSlash path

/-- An absolute path as the kernel lists mount points; it may end in a slash. -/
structure IsPosixPath (path : QString) : Prop where
  absolute : path.head? = some slash
  noDoubled : path.IsChain fun c d => c = slash → d ≠ slash
  noBackslash : QChar.ofChar '\\' ∉ path
  trimmed : path.trimmed = path
  noColon : path[1]? ≠ some (QChar.ofChar ':')

/-! ## Normalised paths -/

/-- A path without the slashes at its end, but for the first character. -/
def stripSlashes (path : QString) : QString := path.take 1 ++ (path.drop 1).rdropWhile isSlash

theorem isSlash_slash : isSlash slash = true := by decide

theorem stripSlashes_concat_slash {path : QString} (h : path ≠ []) :
    stripSlashes (path ++ [slash]) = stripSlashes path := by
  cases path with
  | nil => exact absurd rfl h
  | cons c path =>
    simp [stripSlashes, List.rdropWhile_concat_pos _ _ _ isSlash_slash]

theorem stripSlashes_concat {path : QString} {c : QChar} (h : path ≠ []) (hc : isSlash c = false) :
    stripSlashes (path ++ [c]) = path ++ [c] := by
  cases path with
  | nil => exact absurd rfl h
  | cons d path =>
    have hkept : (path ++ [c]).rdropWhile isSlash = path ++ [c] :=
      List.rdropWhile_concat_neg _ _ _ (by simp [hc])
    simp [stripSlashes, hkept]

/-- Without a slash at the end there is nothing to strip. -/
theorem stripSlashes_of_last {path : QString} (h : path ≠ [])
    (hlast : path.getLast?.any isSlash = false) : stripSlashes path = path := by
  rcases List.eq_nil_or_concat path with rfl | ⟨rest, c, rfl⟩
  · exact absurd rfl h
  · rw [List.concat_eq_append] at hlast ⊢
    rw [List.getLast?_concat, Option.any_some] at hlast
    cases rest with
    | nil => simp [stripSlashes]
    | cons d rest => exact stripSlashes_concat (List.cons_ne_nil d rest) hlast

/-- A slash that the path ends in is the one before its next component. -/
theorem eq_slash_collapse {path : QString} (hne : path ≠ [])
    (hchain : path.IsChain fun c d => c = slash → d ≠ slash)
    (hstrip : stripSlashes path = slash :: Words.collapse isSlash slash path) :
    path = slash :: (Words.collapse isSlash slash path ++
      if path.getLast?.any isSlash && !(Words.collapse isSlash slash path).isEmpty then [slash]
      else []) := by
  cases hlast : path.getLast?.any isSlash with
  | false =>
    rw [stripSlashes_of_last hne hlast] at hstrip
    simpa using hstrip
  | true =>
    rcases List.eq_nil_or_concat path with rfl | ⟨rest, c, rfl⟩
    · exact absurd rfl hne
    · rw [List.concat_eq_append] at hlast hchain hstrip ⊢
      rw [List.getLast?_concat, Option.any_some] at hlast
      obtain rfl : c = slash := by simpa [isSlash] using hlast
      cases rest with
      | nil => decide
      | cons d rest =>
        have hrest : (d :: rest).getLast?.any isSlash = false := by
          rw [Option.any_eq_false]
          intro e he
          have hnext : e = slash → slash ≠ slash :=
            (List.isChain_append.mp hchain).2.2 e he slash rfl
          simpa [isSlash] using fun heq => hnext heq rfl
        rw [stripSlashes_concat_slash (List.cons_ne_nil d rest),
          stripSlashes_of_last (List.cons_ne_nil d rest) hrest] at hstrip
        have hsome : Words.collapse isSlash slash (d :: rest ++ [slash]) ≠ [] := by
          intro hnil
          rw [hnil] at hstrip
          rw [hstrip] at hrest
          exact absurd hrest (by decide)
        have hgap : (true && !(Words.collapse isSlash slash (d :: rest ++ [slash])).isEmpty) = true := by
          rwa [Bool.true_and, Bool.not_eq_true', List.isEmpty_eq_false_iff]
        rw [if_pos hgap, ← List.cons_append, ← hstrip]

theorem stripSlashes_isPrefix (path : QString) : stripSlashes path <+: path := by
  cases path with
  | nil => exact List.prefix_rfl
  | cons c path => simpa [stripSlashes] using List.rdropWhile_prefix isSlash path

/-- The components joined by slashes, with a slash before them. -/
theorem stripSlashes_eq {path : QString} (habsolute : path.head? = some slash)
    (hchain : path.IsChain fun c d => c = slash → d ≠ slash) :
    stripSlashes path = slash :: Words.collapse isSlash slash path := by
  induction path using List.reverseRecOn with
  | nil => cases habsolute
  | append_singleton path c ih =>
    cases path with
    | nil =>
      obtain rfl : c = slash := Option.some.inj habsolute
      decide
    | cons d path =>
      have hrest := (List.isChain_append.mp hchain).1
      have ih := ih habsolute hrest
      cases hc : isSlash c with
      | true =>
        obtain rfl : c = slash := by simpa [isSlash] using hc
        rw [stripSlashes_concat_slash (List.cons_ne_nil d path), ih,
          Words.collapse_concat_sep _ isSlash_slash]
      | false =>
        rw [stripSlashes_concat (List.cons_ne_nil d path) hc, Words.collapse_concat _ hc,
          ← List.cons_append, ← eq_slash_collapse (List.cons_ne_nil d path) hrest ih]

/-! ## The test for a prefix -/

/-- What the test compares, over paths with a slash before their components. -/
theorem prefix_iff_components (m p : QString) :
    (Words.collapse isSlash slash m = Words.collapse isSlash slash p ∨
      (if slash :: Words.collapse isSlash slash m = [slash] then
          slash :: Words.collapse isSlash slash m
        else slash :: Words.collapse isSlash slash m ++ [slash]) <+:
        slash :: Words.collapse isSlash slash p) ↔
      pathComponents m <+: pathComponents p := by
  have hcomponents (path : QString) : Words.words isSlash (Words.collapse isSlash slash path) =
      pathComponents path := Words.words_collapse isSlash_slash path
  constructor
  · rintro (heq | hprefix)
    · rw [← hcomponents m, heq, hcomponents p]
    · split at hprefix
      next hroot =>
        have hnone : Words.collapse isSlash slash m = [] := (List.cons.inj hroot).2
        rw [← hcomponents m, hnone, Words.words_nil]
        exact List.nil_prefix
      · obtain ⟨rest, hrest⟩ := hprefix
        rw [List.cons_append, List.cons_append, List.append_assoc, List.singleton_append] at hrest
        rw [← hcomponents p, ← (List.cons.inj hrest).2,
          Words.words_append_cons _ _ isSlash_slash, hcomponents m]
        exact List.prefix_append _ _
  · rintro ⟨more, hmore⟩
    cases more with
    | nil =>
      rw [List.append_nil] at hmore
      exact .inl (by rw [Words.collapse, Words.collapse, ← pathComponents, hmore, ← pathComponents])
    | cons next more =>
      right
      by_cases hnone : pathComponents m = []
      · have hroot : Words.collapse isSlash slash m = [] := Words.collapse_eq_nil_iff.mpr hnone
        rw [hroot, if_pos rfl]
        exact ⟨_, rfl⟩
      · have hroot : Words.collapse isSlash slash m ≠ [] :=
          fun h => hnone (Words.collapse_eq_nil_iff.mp h)
        have hjoined : Words.collapse isSlash slash p =
            Words.collapse isSlash slash m ++ slash :: [slash].intercalate (next :: more) := by
          rw [Words.collapse, ← pathComponents, ← hmore,
            Words.intercalate_append hnone (List.cons_ne_nil next more)]
          rfl
        rw [if_neg (by simpa using hroot), hjoined]
        exact ⟨[slash].intercalate (next :: more), by simp⟩

/-! ## Protected paths -/

section Host

variable [Host]

/-- Nothing at the start of a POSIX path looks like a drive letter. -/
theorem IsPosixPath.not_driveLetter {path part : QString} (hletter : Host.isLetter slash = false)
    (h : IsPosixPath path) (hpart : part <+: path) : looksLikeDriveLetter part = false := by
  obtain ⟨rest, rfl⟩ := hpart
  cases part with
  | nil => rfl
  | cons c part =>
    cases part with
    | nil =>
      obtain rfl : c = slash := Option.some.inj h.absolute
      exact hletter
    | cons d part => simpa [looksLikeDriveLetter] using h.noColon

theorem IsPosixPath.normalized {path : QString} (hletter : Host.isLetter slash = false)
    (h : IsPosixPath path) :
    normalizedMountPoint path = slash :: Words.collapse isSlash slash path := by
  have hne : path ≠ [] := by
    rintro rfl
    cases h.absolute
  have hslashed : path.map (fun c => if c = QChar.ofChar '\\' then QChar.ofChar '/' else c) = path := by
    conv_rhs => rw [← List.map_id path]
    refine List.map_congr_left fun c hc => if_neg ?_
    rintro rfl
    exact h.noBackslash hc
  unfold normalizedMountPoint
  dsimp only
  rw [h.trimmed, if_neg (by simpa using hne), h.not_driveLetter hletter List.prefix_rfl,
    if_neg Bool.false_ne_true, hslashed, ← stripSlashes_eq h.absolute h.noDoubled]
  rfl

/-- The loop over the protected paths, on POSIX paths. -/
theorem isProtectedMountPoint_iff {mountPoint : QString} {protectedMountPoints : List QString}
    (hletter : Host.isLetter slash = false) (h : IsPosixPath mountPoint)
    (hprotected : ∀ entry ∈ protectedMountPoints, IsPosixPath entry) :
    isProtectedMountPoint mountPoint protectedMountPoints = true ↔
      ∃ entry ∈ protectedMountPoints, pathComponents mountPoint <+: pathComponents entry := by
  have hdrive {path : QString} (hpath : IsPosixPath path) :
      looksLikeDriveLetter (slash :: Words.collapse isSlash slash path) = false := by
    rw [← stripSlashes_eq hpath.absolute hpath.noDoubled]
    exact hpath.not_driveLetter hletter (stripSlashes_isPrefix path)
  unfold isProtectedMountPoint
  dsimp only
  rw [h.normalized hletter, if_neg (by simp), List.any_eq_true]
  refine exists_congr fun entry => and_congr_right fun hentry => ?_
  have hposix := hprotected entry hentry
  rw [hposix.normalized hletter, if_neg (by simp), hdrive h, hdrive hposix,
    ← prefix_iff_components]
  have hroot : QStringLiteral "/" = [slash] := rfl
  rw [hroot, Bool.not_false, Bool.and_self]
  split
  next heq => exact iff_of_true rfl (.inl (List.cons.inj heq).2)
  next hne =>
    rw [if_pos rfl, List.isPrefixOf_iff_prefix]
    exact ⟨.inr, fun h => h.resolve_left fun heq => hne (congrArg _ heq)⟩

/-! ## More protected paths protect more -/

theorem isProtectedMountPoint_mono {mountPoint : QString} {fewer more : List QString}
    (h : ∀ entry ∈ fewer, entry ∈ more) (hprotected : isProtectedMountPoint mountPoint fewer = true) :
    isProtectedMountPoint mountPoint more = true := by
  unfold isProtectedMountPoint at hprotected ⊢
  dsimp only at hprotected ⊢
  split at hprotected
  · cases hprotected
  next hsome =>
    rw [if_neg hsome]
    obtain ⟨entry, hentry, hguards⟩ := List.any_eq_true.mp hprotected
    exact List.any_eq_true.mpr ⟨entry, h entry hentry, hguards⟩

/-- `less` protects nothing that `guard` does not protect. -/
structure RestoreGuard.Within (less guard : RestoreGuard) : Prop where
  mountPoints : ∀ entry ∈ less.mountPoints, entry ∈ guard.mountPoints
  deviceIds : ∀ entry ∈ less.deviceIds, entry ∈ guard.deviceIds

theorem SafeTarget.of_within {disk : DiskInfo} {less guard : RestoreGuard}
    (hwithin : less.Within guard) (h : SafeTarget disk guard) : SafeTarget disk less where
  named := h.named
  usb := h.usb
  unguarded := by
    have hnone := List.any_eq_false.mp h.unguarded
    exact List.any_eq_false.mpr fun entry hentry => hnone entry (hwithin.deviceIds entry hentry)
  notSystem := h.notSystem
  unprotected := by
    have hnone := List.any_eq_false.mp h.unprotected
    refine List.any_eq_false.mpr fun mountPoint hmount hprotected => ?_
    exact hnone mountPoint hmount (isProtectedMountPoint_mono hwithin.mountPoints hprotected)
  online := h.online
  writable := h.writable
  size := h.size
  sectorSize := h.sectorSize
  layout := h.layout

/-- Which mount points are protected, and what more protection does. -/
theorem isProtectedMountPoint_components (hletter : Host.isLetter slash = false) :
    (∀ (mountPoint : QString) (protectedMountPoints : List QString), IsPosixPath mountPoint →
      (∀ entry ∈ protectedMountPoints, IsPosixPath entry) →
      (isProtectedMountPoint mountPoint protectedMountPoints = true ↔
        ∃ entry ∈ protectedMountPoints, pathComponents mountPoint <+: pathComponents entry)) ∧
    (∀ (mountPoint : QString) (fewer more : List QString), (∀ entry ∈ fewer, entry ∈ more) →
      isProtectedMountPoint mountPoint fewer = true →
      isProtectedMountPoint mountPoint more = true) ∧
    ∀ (disk : DiskInfo) (less guard : RestoreGuard) (mode : TextMode), less.Within guard →
      isSafeRestoreTarget disk guard mode = .ok () → isSafeRestoreTarget disk less mode = .ok () :=
  ⟨fun _ _ h hprotected => isProtectedMountPoint_iff hletter h hprotected,
    fun _ _ _ h => isProtectedMountPoint_mono h,
    fun _ _ _ _ hwithin hsafe => isSafeRestoreTarget_ok_iff.mpr
      ((isSafeRestoreTarget_ok_iff.mp hsafe).of_within hwithin)⟩

end Host

open SmallStick in
/-- `/bootstrap` is not `/boot`, with ASCII letters. -/
theorem isProtectedMountPoint_components_boot :
    ¬isProtectedMountPoint (QStringLiteral "/boot") [QStringLiteral "/bootstrap/"] = true := by
  have hboot : IsPosixPath (QStringLiteral "/boot") :=
    ⟨by decide, by decide, by decide, by decide, by decide⟩
  have hbootstrap : IsPosixPath (QStringLiteral "/bootstrap/") :=
    ⟨by decide, by decide, by decide, by decide, by decide⟩
  rw [(isProtectedMountPoint_components (by decide)).1 _ _ hboot
    (List.forall_mem_singleton.mpr hbootstrap)]
  decide

end UsbRestore
