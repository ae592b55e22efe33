-- SUMMARY: Which lines the GUI accepts as its helper's announcement, and that a line gives all of its details or none.
import UsbRestore.Core.HelperRun
import UsbRestore.Core.ProtocolRoundTrip

/-!
# Announcements

The details of a version line are pairs of a key and a value. The parser reads exactly the lists of
pairs with distinct known keys whose counts are numbers, and drops every other list as a whole.
-/

namespace UsbRestore

/-! ## Details -/

abbrev Detail : Type := QString × QString

def appKey : QString := QStringLiteral "app"

def stepsKey : QString := QStringLiteral "steps"

def destructiveKey : QString := QStringLiteral "destructive"

/-- Details as the fields of a line: each key with its value after it. -/
def fieldsOf (details : List Detail) : List QString := details.flatMap fun d => [d.1, d.2]

/-- Pairwise distinct keys, drawn from the known ones. -/
structure AreDetails (details : List Detail) : Prop where
  distinct : (details.map Prod.fst).Nodup
  known : ∀ d ∈ details, d.1 = appKey ∨ d.1 = stepsKey ∨ d.1 = destructiveKey

/-- Details whose counts are numbers. -/
structure AreCounted (details : List Detail) : Prop extends AreDetails details where
  counts : ∀ d ∈ details, d.1 ≠ appKey → (QString.toInt d.2).isSome

/-- The record with all of the details filled in. -/
def ProtocolLine.carrying (parsed : ProtocolLine) (details : List Detail) : ProtocolLine :=
  { parsed with
    appVersion := (details.lookup appKey).getD parsed.appVersion
    totalSteps := ((details.lookup stepsKey).bind QString.toInt).getD parsed.totalSteps
    firstDestructiveStep :=
      ((details.lookup destructiveKey).bind QString.toInt).getD parsed.firstDestructiveStep }

theorem keys_ne : stepsKey ≠ appKey ∧ destructiveKey ≠ appKey ∧ destructiveKey ≠ stepsKey := by
  decide

section Details

variable {parsed : ProtocolLine} {seen : List QString} {details : List Detail} {key value : QString}

theorem lookup_eq_none (h : ∀ d ∈ details, d.1 ≠ key) : details.lookup key = none :=
  List.lookup_eq_none_iff.mpr fun d hd => by
    rw [bne_iff_ne]
    exact (h d hd).symm

/-- With distinct keys the value of a key is the one listed with it. -/
theorem lookup_eq_some_iff (h : (details.map Prod.fst).Nodup) :
    details.lookup key = some value ↔ (key, value) ∈ details := by
  induction details with
  | nil => simp
  | cons d details ih =>
    obtain ⟨k, v⟩ := d
    rw [List.map_cons, List.nodup_cons] at h
    rw [List.lookup_cons]
    by_cases hkey : key = k
    · subst hkey
      rw [beq_self_eq_true]
      constructor
      · intro hvalue
        rw [Option.some.inj hvalue]
        exact List.mem_cons_self
      · intro hmem
        rcases List.mem_cons.mp hmem with heq | hmem
        · rw [(Prod.mk.inj heq).2]
        · exact absurd (List.mem_map_of_mem hmem) h.1
    · rw [beq_eq_false_iff_ne.mpr hkey, ih h.2, List.mem_cons]
      exact ⟨.inr, fun hmem => hmem.resolve_left fun heq => hkey (Prod.mk.inj heq).1⟩

/-- One value of the record after the first detail and after the others. -/
theorem getD_lookup_cons {β : Type} (read : QString → Option β) (name : QString) (unset : β)
    (h : ∀ d ∈ details, d.1 ≠ key) :
    ((((key, value) :: details).lookup name).bind read).getD unset =
      ((details.lookup name).bind read).getD ((([(key, value)].lookup name).bind read).getD unset) := by
  rw [List.lookup_cons, List.lookup_cons]
  by_cases hname : name = key
  · subst hname
    simp [lookup_eq_none h]
  · simp [beq_eq_false_iff_ne.mpr hname]

/-- The first detail, where the rest does not repeat its key. -/
theorem carrying_cons (h : ∀ d ∈ details, d.1 ≠ key) :
    parsed.carrying ((key, value) :: details) =
      (parsed.carrying [(key, value)]).carrying details := by
  have happ : (((key, value) :: details).lookup appKey).getD parsed.appVersion =
      (details.lookup appKey).getD (([(key, value)].lookup appKey).getD parsed.appVersion) := by
    simpa only [Option.bind_fun_some] using getD_lookup_cons some appKey parsed.appVersion h
  unfold ProtocolLine.carrying
  rw [happ, getD_lookup_cons QString.toInt stepsKey parsed.totalSteps h,
    getD_lookup_cons QString.toInt destructiveKey parsed.firstDestructiveStep h]

/-- A detail that the loop accepts, and the record with it. -/
theorem carrying_singleton (parsed : ProtocolLine) (key value : QString) :
    parsed.carrying [(key, value)] =
      if key = appKey then { parsed with appVersion := value }
      else if key = stepsKey then
        { parsed with totalSteps := value.toInt.getD parsed.totalSteps }
      else if key = destructiveKey then
        { parsed with firstDestructiveStep := value.toInt.getD parsed.firstDestructiveStep }
      else parsed := by
  unfold ProtocolLine.carrying
  by_cases happ : key = appKey
  · subst happ
    simp [List.lookup_cons, beq_eq_false_iff_ne.mpr keys_ne.1, beq_eq_false_iff_ne.mpr keys_ne.2.1]
  · by_cases hsteps : key = stepsKey
    · subst hsteps
      simp [List.lookup_cons, beq_eq_false_iff_ne.mpr keys_ne.1.symm,
        beq_eq_false_iff_ne.mpr keys_ne.2.2, keys_ne.1]
    · by_cases hdestructive : key = destructiveKey
      · subst hdestructive
        simp [List.lookup_cons, beq_eq_false_iff_ne.mpr keys_ne.2.1.symm,
          beq_eq_false_iff_ne.mpr keys_ne.2.2.symm, keys_ne.2.1, keys_ne.2.2]
      · simp [List.lookup_cons, beq_eq_false_iff_ne.mpr (Ne.symm happ),
          beq_eq_false_iff_ne.mpr (Ne.symm hsteps), beq_eq_false_iff_ne.mpr (Ne.symm hdestructive),
          happ, hsteps, hdestructive]

/-! ## The loop over the details -/

/-- A detail the loop goes on after. -/
structure IsDetail (seen : List QString) (key value : QString) : Prop where
  filled : value ≠ []
  unseen : key ∉ seen
  known : key = appKey ∨ key = stepsKey ∨ key = destructiveKey
  count : key ≠ appKey → (QString.toInt value).isSome

theorem parseVersionDetails_of_isDetail (parsed : ProtocolLine) (fields : List QString)
    (h : IsDetail seen key value) :
    parseVersionDetails parsed seen (key :: value :: fields) =
      parseVersionDetails (parsed.carrying [(key, value)]) (seen ++ [key]) fields := by
  have hguard : (value.isEmpty || seen.contains key) = false := by simp [h.filled, h.unseen]
  rw [parseVersionDetails, hguard, if_neg Bool.false_ne_true, carrying_singleton]
  rcases h.known with rfl | rfl | rfl
  · rfl
  · obtain ⟨count, hcount⟩ := Option.isSome_iff_exists.mp (h.count keys_ne.1)
    rw [hcount]
    rfl
  · obtain ⟨count, hcount⟩ := Option.isSome_iff_exists.mp (h.count keys_ne.2.1)
    rw [hcount]
    rfl

/-- Whatever is read is read from details. -/
theorem isDetail_of_parseVersionDetails {fields : List QString} {read : ProtocolLine}
    (h : parseVersionDetails parsed seen (key :: value :: fields) = some read) :
    IsDetail seen key value := by
  rw [parseVersionDetails] at h
  split at h
  · cases h
  next hguard =>
    simp only [Bool.or_eq_true, List.isEmpty_iff, List.contains_iff_mem, not_or] at hguard
    split at h
    next happ => exact ⟨hguard.1, hguard.2, .inl happ, fun hne => absurd happ hne⟩
    next happ =>
      split at h
      next hsteps =>
        split at h
        next hcount => exact ⟨hguard.1, hguard.2, .inr (.inl hsteps), fun _ => by simp [hcount]⟩
        · cases h
      next hsteps =>
        split at h
        next hdestructive =>
          split at h
          next hcount =>
            exact ⟨hguard.1, hguard.2, .inr (.inr hdestructive), fun _ => by simp [hcount]⟩
          · cases h
        · cases h

/-- The keys of the details are new to the loop. -/
def Unseen (seen : List QString) (details : List Detail) : Prop :=
  ∀ d ∈ details, d.1 ∉ seen

theorem areCounted_cons (h : IsDetail seen key value) (hrest : AreCounted details)
    (hunseen : Unseen (seen ++ [key]) details) :
    AreCounted ((key, value) :: details) ∧ Unseen seen ((key, value) :: details) := by
  have hkey : key ∉ details.map Prod.fst := by
    intro hmem
    obtain ⟨d, hd, rfl⟩ := List.mem_map.mp hmem
    exact hunseen d hd (by simp)
  refine ⟨⟨⟨List.nodup_cons.mpr ⟨hkey, hrest.distinct⟩, ?_⟩, ?_⟩, ?_⟩
  · exact List.forall_mem_cons.mpr ⟨h.known, hrest.known⟩
  · exact List.forall_mem_cons.mpr ⟨h.count, hrest.counts⟩
  · refine List.forall_mem_cons.mpr ⟨h.unseen, fun d hd hseen => ?_⟩
    exact hunseen d hd (List.mem_append_left _ hseen)

theorem ne_of_unseen (h : Unseen (seen ++ [key]) details) : ∀ d ∈ details, d.1 ≠ key :=
  fun d hd heq => h d hd (by simp [heq])

/-- The loop reads nothing but details, and all of them. -/
theorem exists_details_of_parseVersionDetails {fields : List QString} {read : ProtocolLine}
    (h : parseVersionDetails parsed seen fields = some read) :
    ∃ details, fields = fieldsOf details ∧ AreCounted details ∧ Unseen seen details ∧
      read = parsed.carrying details := by
  induction fields using List.twoStepInduction generalizing parsed seen with
  | nil =>
    obtain rfl := Option.some.inj h
    exact ⟨[], rfl, ⟨⟨.nil, nofun⟩, nofun⟩, nofun, rfl⟩
  | singleton => cases h
  | cons_cons key value fields ih =>
    have hdetail := isDetail_of_parseVersionDetails h
    rw [parseVersionDetails_of_isDetail parsed fields hdetail] at h
    obtain ⟨details, rfl, hcounted, hunseen, rfl⟩ := ih h
    obtain ⟨hcounted', hunseen'⟩ := areCounted_cons hdetail hcounted hunseen
    exact ⟨(key, value) :: details, rfl, hcounted', hunseen',
      (carrying_cons (ne_of_unseen hunseen)).symm⟩

/-- Details with values are read as they are. -/
theorem parseVersionDetails_fieldsOf (parsed : ProtocolLine) (hcounted : AreCounted details)
    (hunseen : Unseen seen details) (hfilled : ∀ d ∈ details, d.2 ≠ []) :
    parseVersionDetails parsed seen (fieldsOf details) = some (parsed.carrying details) := by
  induction details generalizing parsed seen with
  | nil => rfl
  | cons d details ih =>
    obtain ⟨key, value⟩ := d
    have hdistinct := List.nodup_cons.mp hcounted.distinct
    have hne : ∀ d ∈ details, d.1 ≠ key := fun d hd heq =>
      hdistinct.1 (List.mem_map.mpr ⟨d, hd, heq⟩)
    have hdetail : IsDetail seen key value :=
      ⟨hfilled _ List.mem_cons_self, hunseen _ List.mem_cons_self,
        hcounted.known _ List.mem_cons_self, hcounted.counts _ List.mem_cons_self⟩
    have hrest : AreCounted details :=
      ⟨⟨hdistinct.2, fun d hd => hcounted.known d (List.mem_cons_of_mem _ hd)⟩,
        fun d hd => hcounted.counts d (List.mem_cons_of_mem _ hd)⟩
    have hunseenRest : Unseen (seen ++ [key]) details := fun d hd hseen => by
      rcases List.mem_append.mp hseen with hseen | hseen
      · exact hunseen d (List.mem_cons_of_mem _ hd) hseen
      · exact hne d hd (List.mem_singleton.mp hseen)
    rw [fieldsOf, List.flatMap_cons, List.cons_append, List.cons_append, List.nil_append,
      parseVersionDetails_of_isDetail parsed _ hdetail, carrying_cons hne]
    exact ih _ hrest hunseenRest fun d hd => hfilled d (List.mem_cons_of_mem _ hd)

end Details

/-! ## The fields of a line -/

def versionKeyword : QString := QStringLiteral "version"

theorem cut_eq_some {sep : QChar} {s before after : QString}
    (h : QString.cut sep s = some (before, after)) : s = before ++ sep :: after ∧ sep ∉ before := by
  induction s generalizing before with
  | nil => cases h
  | cons c s ih =>
    rw [QString.cut] at h
    split at h
    next hc =>
      obtain ⟨rfl, rfl⟩ := Prod.mk.inj (Option.some.inj h)
      exact ⟨by rw [hc]; rfl, List.not_mem_nil⟩
    next hc =>
      obtain ⟨⟨rest, tail⟩, hcut, hpair⟩ := Option.map_eq_some_iff.mp h
      obtain ⟨rfl, rfl⟩ := Prod.mk.inj hpair
      obtain ⟨rfl, hmem⟩ := ih hcut
      exact ⟨rfl, fun hin => (List.mem_cons.mp hin).elim (fun heq => hc heq.symm) hmem⟩

theorem not_mem_of_cut_eq_none {sep : QChar} {s : QString} (h : QString.cut sep s = none) :
    sep ∉ s := by
  induction s with
  | nil => exact List.not_mem_nil
  | cons c s ih =>
    rw [QString.cut] at h
    split at h
    · cases h
    next hc =>
      refine fun hin => (List.mem_cons.mp hin).elim (fun heq => hc heq.symm) (ih ?_)
      exact Option.map_eq_none_iff.mp h

/-- The keyword of a line and the text after it are its first field and the others. -/
theorem splitSkipEmpty_trimmed {line keyword remainder : QString} (hne : line.trimmed ≠ [])
    (hcut : (QString.cut space line.trimmed).getD (line.trimmed, []) = (keyword, remainder)) :
    QString.splitSkipEmpty space line.trimmed =
      keyword :: QString.splitSkipEmpty space remainder := by
  cases hspace : QString.cut space line.trimmed with
  | none =>
    rw [hspace, Option.getD_none] at hcut
    obtain ⟨rfl, rfl⟩ := Prod.mk.inj hcut
    exact QString.splitSkipEmpty_eq_singleton (not_mem_of_cut_eq_none hspace) hne
  | some parts =>
    obtain ⟨before, after⟩ := parts
    rw [hspace, Option.getD_some] at hcut
    obtain ⟨rfl, rfl⟩ := Prod.mk.inj hcut
    obtain ⟨hline, hmem⟩ := cut_eq_some hspace
    have hbefore : before ≠ [] := by
      rintro rfl
      have hprints := QString.head_trimmed line space (by rw [hline]; rfl)
      exact absurd hprints (by decide)
    rw [hline]
    exact QString.splitSkipEmpty_append_sep hmem hbefore

theorem parseStepFields_kind_ne (remainder : QString) :
    (parseStepFields remainder).kind ≠ .version := by
  unfold parseStepFields
  dsimp only
  repeat' split
  all_goals nofun

theorem parseVersionFields_kind {fields : List QString}
    (h : (parseVersionFields fields).kind = .version) :
    ∃ first rest version, fields = first :: rest ∧ first.toInt = some version := by
  unfold parseVersionFields at h
  split at h
  · cases h
  next version hversion =>
    cases fields with
    | nil => cases hversion
    | cons first rest => exact ⟨first, rest, version, rfl, hversion⟩

/-- A line whose first field is the keyword is a version line, and no other line is one. -/
theorem parseProtocolLine_of_fields {line : QString} {fields : List QString}
    (h : QString.splitSkipEmpty space line.trimmed = versionKeyword :: fields) :
    parseProtocolLine line = parseVersionFields fields := by
  have hne : line.trimmed ≠ [] := by
    intro hnil
    rw [hnil] at h
    cases h
  obtain ⟨⟨keyword, remainder⟩, hcut⟩ :
      ∃ parts, (QString.cut space line.trimmed).getD (line.trimmed, []) = parts := ⟨_, rfl⟩
  rw [splitSkipEmpty_trimmed hne hcut] at h
  obtain ⟨rfl, rfl⟩ := List.cons.inj h
  unfold parseProtocolLine
  dsimp only
  rw [hcut, if_neg (by simpa using hne)]
  exact if_pos rfl

theorem fields_of_kind_version {line : QString} (h : (parseProtocolLine line).kind = .version) :
    ∃ first rest version,
      QString.splitSkipEmpty space line.trimmed = versionKeyword :: first :: rest ∧
        first.toInt = some version := by
  obtain ⟨⟨keyword, remainder⟩, hcut⟩ :
      ∃ parts, (QString.cut space line.trimmed).getD (line.trimmed, []) = parts := ⟨_, rfl⟩
  unfold parseProtocolLine at h
  dsimp only at h
  rw [hcut] at h
  split at h
  · cases h
  next hne =>
    have hsplit := splitSkipEmpty_trimmed (by simpa using hne) hcut
    split at h
    next hkeyword =>
      obtain ⟨first, rest, version, hfields, hversion⟩ := parseVersionFields_kind h
      exact ⟨first, rest, version, hsplit.trans (congrArg₂ List.cons hkeyword hfields), hversion⟩
    · split at h
      · exact absurd h (parseStepFields_kind_ne _)
      · repeat' split at h
        all_goals cases h

/-! ## All of the details or none -/

/-- A version line without details. -/
def announced (version : Int) : ProtocolLine := { kind := .version, version }

theorem parseVersionFields_cons {first : QString} {version : Int} (h : first.toInt = some version)
    (rest : List QString) :
    parseVersionFields (first :: rest) =
      (parseVersionDetails (announced version) [] rest).getD (announced version) := by
  simp only [parseVersionFields, List.headD_cons, h, List.tail_cons]
  rfl

theorem ne_nil_of_mem_splitSkipEmpty {sep : QChar} {s field : QString}
    (h : field ∈ QString.splitSkipEmpty sep s) : field ≠ [] := by
  simpa using (List.mem_filter.mp h).2

/-- The fields of a line are not empty, so counted details among them are read. -/
theorem parseVersionDetails_of_fields {line first : QString} {details : List Detail}
    (hfields : QString.splitSkipEmpty space line.trimmed =
      versionKeyword :: first :: fieldsOf details)
    (hcounted : AreCounted details) (parsed : ProtocolLine) :
    parseVersionDetails parsed [] (fieldsOf details) = some (parsed.carrying details) := by
  refine parseVersionDetails_fieldsOf parsed hcounted (fun _ _ => List.not_mem_nil) fun d hd => ?_
  have hmem : d.2 ∈ fieldsOf details := List.mem_flatMap.mpr ⟨d, hd, by simp⟩
  have hfield : d.2 ∈ QString.splitSkipEmpty space line.trimmed := by
    rw [hfields]
    exact List.mem_cons_of_mem _ (List.mem_cons_of_mem _ hmem)
  exact ne_nil_of_mem_splitSkipEmpty hfield

/-- A line with the fields of counted details carries all of them. -/
theorem parseProtocolLine_carrying {line first : QString} {version : Int} {details : List Detail}
    (hfields : QString.splitSkipEmpty space line.trimmed =
      versionKeyword :: first :: fieldsOf details)
    (hversion : first.toInt = some version) (hcounted : AreCounted details) :
    parseProtocolLine line = (announced version).carrying details := by
  rw [parseProtocolLine_of_fields hfields, parseVersionFields_cons hversion,
    parseVersionDetails_of_fields hfields hcounted]
  rfl

/-- What a version line carries. -/
inductive CarriesAllOrNone (line : QString) : Prop where
  | all (first : QString) (version : Int) (details : List Detail)
      (fields : QString.splitSkipEmpty space line.trimmed =
        versionKeyword :: first :: fieldsOf details)
      (number : first.toInt = some version) (counted : AreCounted details)
      (carries : parseProtocolLine line = (announced version).carrying details)
  | none (first : QString) (version : Int) (rest : List QString)
      (fields : QString.splitSkipEmpty space line.trimmed = versionKeyword :: first :: rest)
      (number : first.toInt = some version)
      (malformed : ∀ details, rest = fieldsOf details → ¬AreCounted details)
      (carries : parseProtocolLine line = announced version)

theorem carriesAllOrNone {line : QString} (h : (parseProtocolLine line).kind = .version) :
    CarriesAllOrNone line := by
  obtain ⟨first, rest, version, hfields, hversion⟩ := fields_of_kind_version h
  have hline := parseProtocolLine_of_fields hfields
  rw [parseVersionFields_cons hversion] at hline
  cases hread : parseVersionDetails (announced version) [] rest with
  | some read =>
    obtain ⟨details, rfl, hcounted, _, rfl⟩ := exists_details_of_parseVersionDetails hread
    rw [hread] at hline
    exact .all first version details hfields hversion hcounted hline
  | none =>
    rw [hread] at hline
    refine .none first version rest hfields hversion ?_ hline
    rintro details rfl hcounted
    rw [parseVersionDetails_of_fields hfields hcounted] at hread
    cases hread

/-! ## What is accepted -/

/-- The line announces the plan: its version, and details among which are the plan's counts. -/
structure Announces (line : QString) (plan : List RestoreStep) (first : QString)
    (details : List Detail) : Prop where
  fields : QString.splitSkipEmpty space line.trimmed =
    versionKeyword :: first :: fieldsOf details
  version : first.toInt = some RestoreProtocolVersion
  areDetails : AreDetails details
  steps : ∃ value, (stepsKey, value) ∈ details ∧ value.toInt = some (plan.length : Int)
  destructive : ∃ value, (destructiveKey, value) ∈ details ∧
    value.toInt = some (firstDestructiveStepOf plan : Int)

theorem Announces.counted {line first : QString} {plan : List RestoreStep} {details : List Detail}
    (h : Announces line plan first details) : AreCounted details := by
  have hvalue {key value : QString} (hmem : (key, value) ∈ details) : details.lookup key = some value :=
    (lookup_eq_some_iff h.areDetails.distinct).mpr hmem
  obtain ⟨steps, hsteps, hstepsInt⟩ := h.steps
  obtain ⟨destructive, hdestructive, hdestructiveInt⟩ := h.destructive
  refine ⟨h.areDetails, fun d hd happ => ?_⟩
  have hlisted : details.lookup d.1 = some d.2 := hvalue hd
  rcases h.areDetails.known d hd with hkey | hkey | hkey
  · exact absurd hkey happ
  · rw [hkey, hvalue hsteps] at hlisted
    rw [← Option.some.inj hlisted, hstepsInt]
    rfl
  · rw [hkey, hvalue hdestructive] at hlisted
    rw [← Option.some.inj hlisted, hdestructiveInt]
    rfl

/-- A count that is not zero was read from a detail. -/
theorem exists_value_of_count {details : List Detail} {key : QString} {count : Int}
    (hdistinct : (details.map Prod.fst).Nodup) (hcount : count ≠ 0)
    (h : ((details.lookup key).bind QString.toInt).getD 0 = count) :
    ∃ value, (key, value) ∈ details ∧ value.toInt = some count := by
  cases hvalue : details.lookup key with
  | none =>
    rw [hvalue] at h
    exact absurd h.symm hcount
  | some value =>
    refine ⟨value, (lookup_eq_some_iff hdistinct).mp hvalue, ?_⟩
    rw [hvalue, Option.bind_some] at h
    cases hint : value.toInt with
    | none =>
      rw [hint] at h
      exact absurd h.symm hcount
    | some n =>
      rw [hint] at h
      exact congrArg some h

theorem acceptHelperAnnouncement_parse_iff (line ourAppVersion : QString) (plan : List RestoreStep)
    (mode : TextMode) (hplan : plan ≠ []) :
    acceptHelperAnnouncement (parseProtocolLine line) ourAppVersion plan mode = .ok () ↔
      ∃ first details, Announces line plan first details := by
  rw [acceptHelperAnnouncement_ok_iff]
  have hlength : (plan.length : Int) ≠ 0 := by simpa using hplan
  have hfirst : (firstDestructiveStepOf plan : Int) ≠ 0 :=
    Int.natCast_ne_zero.mpr (Nat.succ_ne_zero _)
  constructor
  · rintro ⟨hkind, hversion, hsteps, hdestructive⟩
    cases carriesAllOrNone hkind with
    | all first version details hfields hnumber hcounted hcarries =>
      rw [hcarries] at hversion hsteps hdestructive
      have hdistinct := hcounted.distinct
      exact ⟨first, details, hfields, by rw [hnumber]; exact congrArg some hversion,
        hcounted.toAreDetails, exists_value_of_count hdistinct hlength hsteps,
        exists_value_of_count hdistinct hfirst hdestructive⟩
    | none first version rest hfields hnumber hmalformed hcarries =>
      rw [hcarries] at hsteps
      exact absurd hsteps.symm hlength
  · rintro ⟨first, details, h⟩
    have hcarries := parseProtocolLine_carrying h.fields h.version h.counted
    obtain ⟨steps, hsteps, hstepsInt⟩ := h.steps
    obtain ⟨destructive, hdestructive, hdestructiveInt⟩ := h.destructive
    have hvalue {key value : QString} (hmem : (key, value) ∈ details) :
        details.lookup key = some value := (lookup_eq_some_iff h.areDetails.distinct).mpr hmem
    rw [hcarries]
    refine ⟨rfl, rfl, ?_, ?_⟩
    · simp [ProtocolLine.carrying, hvalue hsteps, hstepsInt]
    · simp [ProtocolLine.carrying, hvalue hdestructive, hdestructiveInt]

/-- What the encoder announces is accepted against the plans with the same counts. -/
theorem acceptHelperAnnouncement_encode_iff {version : Int} (hversion : QString.FitsInt version)
    (appVersion ourAppVersion : QString) {plan : List RestoreStep}
    (hplan : plan.length < 2147483647) (ourPlan : List RestoreStep) (mode : TextMode) :
    acceptHelperAnnouncement (parseProtocolLine (encodeVersionLine version appVersion plan))
        ourAppVersion ourPlan mode = .ok () ↔
      version = RestoreProtocolVersion ∧ plan.length = ourPlan.length ∧
        firstDestructiveStepOf plan = firstDestructiveStepOf ourPlan := by
  rw [parseProtocolLine_version hversion hplan, acceptHelperAnnouncement_ok_iff]
  simp [HelperMessage.expected]

/-- Acceptance, for every line, every version and every plan. -/
theorem acceptHelperAnnouncement_exact (ourAppVersion : QString) (mode : TextMode) :
    (∀ (line : QString) (plan : List RestoreStep), plan ≠ [] →
      (acceptHelperAnnouncement (parseProtocolLine line) ourAppVersion plan mode = .ok () ↔
        ∃ first details, Announces line plan first details)) ∧
    (∀ line : QString, (parseProtocolLine line).kind = .version → CarriesAllOrNone line) ∧
    ∀ (version : Int) (appVersion : QString) (plan ourPlan : List RestoreStep),
      QString.FitsInt version → Utf8.IsWellFormed appVersion → plan.length < 2147483647 →
      (acceptHelperAnnouncement (parseProtocolLine (encodeVersionLine version appVersion plan))
          ourAppVersion ourPlan mode = .ok () ↔
        version = RestoreProtocolVersion ∧ plan.length = ourPlan.length ∧
          firstDestructiveStepOf plan = firstDestructiveStepOf ourPlan) :=
  ⟨fun line plan hplan => acceptHelperAnnouncement_parse_iff line ourAppVersion plan mode hplan,
    fun _ hkind => carriesAllOrNone hkind,
    fun _ appVersion _ ourPlan hversion _ hplan =>
      acceptHelperAnnouncement_encode_iff hversion appVersion ourAppVersion hplan ourPlan mode⟩

/-- A restore of one step, announced with an application called `steps`. -/
theorem acceptHelperAnnouncement_exact_steps :
    acceptHelperAnnouncement (parseProtocolLine (encodeVersionLine RestoreProtocolVersion
        (QStringLiteral "steps") [.format])) [] [.format] .english = .ok () :=
  ((acceptHelperAnnouncement_exact [] .english).2.2 RestoreProtocolVersion
    (QStringLiteral "steps") [.format] [.format] (by decide) (by decide) (by decide)).mpr
    ⟨rfl, rfl, rfl⟩

end UsbRestore
