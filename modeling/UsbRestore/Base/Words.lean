-- SUMMARY: The words of a list between separators, and the list with one separator between its words.
import Mathlib.Data.List.Induction

/-!
# Words

The words of a list are its longest parts without a separator. Joined with single separators they
are the list with its runs of separators collapsed and those at its ends deleted.
-/

namespace Words

variable {α : Type*} (p : α → Bool) (sep : α)

def words (l : List α) : List (List α) := (l.splitOnP p).filter fun word => !word.isEmpty

def collapse (l : List α) : List α := [sep].intercalate (words p l)

variable {p sep} {l : List α} {c : α}

/-! ## One more element -/

theorem words_nil : words p [] = [] := by simp [words]

theorem words_append_cons (l rest : List α) (hc : p c = true) :
    words p (l ++ c :: rest) = words p l ++ words p rest := by
  simp [words, List.splitOnP_append_cons l rest hc]

theorem words_eq_singleton (hne : l ≠ []) (h : ∀ c ∈ l, p c = false) : words p l = [l] := by
  simp [words, List.splitOnP_eq_singleton h, hne]

theorem words_ne_nil {word : List α} (h : word ∈ words p l) : word ≠ [] := by
  simpa using (List.mem_filter.mp h).2

/-- A list is one word so far, or its last word stands behind a separator. -/
theorem lastWord (p : α → Bool) (l : List α) :
    (∀ c ∈ l, p c = false) ∨
      ∃ before c word, l = before ++ c :: word ∧ p c = true ∧ ∀ d ∈ word, p d = false := by
  induction l using List.reverseRecOn with
  | nil => exact .inl nofun
  | append_singleton l d ih =>
    cases hd : p d with
    | true => exact .inr ⟨l, d, [], rfl, hd, nofun⟩
    | false =>
      rcases ih with hnone | ⟨before, c, word, rfl, hc, hword⟩
      · refine .inl fun e he => ?_
        rcases List.mem_append.mp he with he | he
        · exact hnone e he
        · exact List.mem_singleton.mp he ▸ hd
      · refine .inr ⟨before, c, word ++ [d], by simp, hc, fun e he => ?_⟩
        rcases List.mem_append.mp he with he | he
        · exact hword e he
        · exact List.mem_singleton.mp he ▸ hd

theorem intercalate_concat (words : List (List α)) (word : List α) :
    [sep].intercalate (words ++ [word]) =
      if words = [] then word else [sep].intercalate words ++ sep :: word := by
  induction words with
  | nil => simp
  | cons first words ih =>
    cases words with
    | nil => simp [List.intercalate_cons_cons]
    | cons second words =>
      rw [List.cons_append, List.cons_append, List.intercalate_cons_cons, ← List.cons_append, ih,
        if_neg (List.cons_ne_nil _ _), if_neg (List.cons_ne_nil _ _), List.intercalate_cons_cons]
      simp

theorem intercalate_concat_append (words : List (List α)) (word more : List α) :
    [sep].intercalate (words ++ [word ++ more]) =
      [sep].intercalate (words ++ [word]) ++ more := by
  rw [intercalate_concat, intercalate_concat]
  split <;> simp

theorem collapse_nil : collapse p sep [] = [] := by simp [collapse, words_nil]

theorem collapse_eq_nil_iff : collapse p sep l = [] ↔ words p l = [] := by
  constructor
  · intro h
    rcases List.eq_nil_or_concat (words p l) with hnil | ⟨ws, word, hws⟩
    · exact hnil
    · have hne : word ≠ [] := words_ne_nil (l := l) (p := p) (by rw [hws]; simp)
      rw [collapse, hws, List.concat_eq_append, intercalate_concat] at h
      split at h
      · exact absurd h hne
      · simp at h
  · intro h
    simp [collapse, h]

/-- A separator at the end changes nothing. -/
theorem collapse_concat_sep (l : List α) (hc : p c = true) :
    collapse p sep (l ++ [c]) = collapse p sep l := by
  rw [collapse, words_append_cons l [] hc, words_nil, List.append_nil, collapse]

/-- Anything else is joined to the last word, or starts a word after a separator. -/
theorem collapse_concat (l : List α) (hc : p c = false) :
    collapse p sep (l ++ [c]) =
      collapse p sep l ++
        (if l.getLast?.any p && !(collapse p sep l).isEmpty then [sep] else []) ++ [c] := by
  have hsingle (word : List α) (hword : ∀ d ∈ word, p d = false) :
      words p (word ++ [c]) = [word ++ [c]] := by
    refine words_eq_singleton (by simp) fun d hd => ?_
    rcases List.mem_append.mp hd with hd | hd
    · exact hword d hd
    · exact List.mem_singleton.mp hd ▸ hc
  have hopen (word : List α) (hword : ∀ d ∈ word, p d = false) : word.getLast?.any p = false := by
    rw [Option.any_eq_false]
    exact fun d hd => by simp [hword d (List.mem_of_getLast? hd)]
  rcases lastWord p l with hword | ⟨before, d, word, rfl, hd, hword⟩
  · cases l with
    | nil =>
      have hone : words p [c] = [[c]] := hsingle [] nofun
      simp [collapse, hone, words_nil]
    | cons e l =>
      rw [collapse, collapse, hsingle _ hword, words_eq_singleton (by simp) hword, hopen _ hword]
      simp
  · rw [List.append_assoc, List.cons_append, collapse, words_append_cons _ _ hd, hsingle _ hword]
    cases word with
    | nil =>
      have hbefore : collapse p sep (before ++ [d]) = collapse p sep before :=
        collapse_concat_sep before hd
      rw [hbefore, List.nil_append, intercalate_concat, ← collapse]
      by_cases hnone : words p before = []
      · have hcollapse : collapse p sep before = [] := collapse_eq_nil_iff.mpr hnone
        simp [hnone, hcollapse]
      · have hcollapse : collapse p sep before ≠ [] := fun h => hnone (collapse_eq_nil_iff.mp h)
        simp [hnone, hcollapse, hd]
    | cons e word =>
      have hlast : (before ++ d :: e :: word).getLast?.any p = false := by
        rw [← hopen (e :: word) hword, List.getLast?_append, List.getLast?_cons_cons,
          List.getLast?_cons, Option.some_or]
      rw [hlast, collapse, words_append_cons _ _ hd, words_eq_singleton (by simp) hword,
        intercalate_concat_append]
      simp

/-! ## Prefixes -/

/-- What a list collapses to grows with the list. -/
theorem collapse_isPrefix {q : List α} (h : q <+: l) : collapse p sep q <+: collapse p sep l := by
  obtain ⟨more, rfl⟩ := h
  induction more using List.reverseRecOn with
  | nil => simp
  | append_singleton more c ih =>
    rw [← List.append_assoc]
    cases hc : p c with
    | true => rwa [collapse_concat_sep _ hc]
    | false =>
      rw [collapse_concat _ hc, List.append_assoc]
      exact ih.trans (List.prefix_append _ _)

/-- A part of the collapsed list that does not end in a separator is a collapsed part. -/
theorem exists_prefix_of_prefix_collapse (hsep : p sep = true) {t : List α}
    (h : t <+: collapse p sep l) (hlast : ∀ c ∈ t.getLast?, p c = false) :
    ∃ q, q <+: l ∧ t = collapse p sep q := by
  induction l using List.reverseRecOn with
  | nil =>
    rw [collapse_nil, List.prefix_nil] at h
    exact ⟨[], List.prefix_rfl, by rw [collapse_nil, h]⟩
  | append_singleton l c ih =>
    cases hc : p c with
    | true =>
      rw [collapse_concat_sep _ hc] at h
      obtain ⟨q, hq, rfl⟩ := ih h
      exact ⟨q, hq.trans (List.prefix_append _ _), rfl⟩
    | false =>
      rw [collapse_concat _ hc, List.prefix_concat_iff] at h
      rcases h with rfl | h
      · exact ⟨l ++ [c], List.prefix_rfl, (collapse_concat l hc).symm⟩
      · have hshort : t <+: collapse p sep l := by
          split at h
          · rw [List.prefix_concat_iff] at h
            rcases h with rfl | h
            · have := hlast sep (by simp)
              rw [hsep] at this
              exact absurd this (by simp)
            · exact h
          · rwa [List.append_nil] at h
        obtain ⟨q, hq, rfl⟩ := ih hshort
        exact ⟨q, hq.trans (List.prefix_append _ _), rfl⟩

/-! ## The words of what is joined -/

/-- No part between separators holds one. -/
theorem not_sep_of_mem_splitOnP {part : List α} (h : part ∈ l.splitOnP p) :
    ∀ c ∈ part, p c = false := by
  induction l generalizing part with
  | nil =>
    rw [List.splitOnP_nil, List.mem_singleton] at h
    subst h
    exact nofun
  | cons d l ih =>
    rw [List.splitOnP_cons_eq_if_modifyHead] at h
    split at h
    next hd =>
      rcases List.mem_cons.mp h with rfl | h
      · exact nofun
      · exact ih h
    next hd =>
      obtain ⟨first, parts, hparts⟩ := List.exists_cons_of_ne_nil (List.splitOnP_ne_nil p l)
      rw [hparts] at h ih
      rcases List.mem_cons.mp h with rfl | h
      · exact List.forall_mem_cons.mpr ⟨by simpa using hd, ih List.mem_cons_self⟩
      · exact ih (List.mem_cons_of_mem _ h)

theorem not_sep_of_mem_words {word : List α} (h : word ∈ words p l) : ∀ c ∈ word, p c = false :=
  not_sep_of_mem_splitOnP (List.mem_filter.mp h).1

/-- Joining words and splitting again gives the words back. -/
theorem words_collapse (hsep : p sep = true) (l : List α) :
    words p (collapse p sep l) = words p l := by
  have hwords : ∀ word ∈ words p l, word ≠ [] ∧ ∀ c ∈ word, p c = false :=
    fun word h => ⟨words_ne_nil h, not_sep_of_mem_words h⟩
  rw [collapse]
  generalize words p l = ws at hwords
  induction ws with
  | nil => simp [words_nil]
  | cons word ws ih =>
    obtain ⟨⟨hne, hpure⟩, hrest⟩ := List.forall_mem_cons.mp hwords
    cases ws with
    | nil => rw [List.intercalate_singleton, words_eq_singleton hne hpure]
    | cons next ws =>
      rw [List.intercalate_cons_cons, List.append_assoc, List.singleton_append,
        words_append_cons _ _ hsep, words_eq_singleton hne hpure, ih hrest]
      rfl

theorem intercalate_append {first second : List (List α)} (hfirst : first ≠ [])
    (hsecond : second ≠ []) :
    [sep].intercalate (first ++ second) =
      [sep].intercalate first ++ sep :: [sep].intercalate second := by
  induction second using List.reverseRecOn with
  | nil => exact absurd rfl hsecond
  | append_singleton second word ih =>
    rw [← List.append_assoc, intercalate_concat, intercalate_concat, if_neg (by simp [hfirst])]
    cases second with
    | nil => simp
    | cons next second =>
      rw [ih (List.cons_ne_nil _ _), if_neg (List.cons_ne_nil _ _)]
      simp

end Words
