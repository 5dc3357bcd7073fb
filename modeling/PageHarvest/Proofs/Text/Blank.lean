import Mathlib.Data.List.DropRight
import Mathlib.Data.List.TakeWhile
import Mathlib.Tactic.SplitIfs
import PageHarvest.Text.Basic

namespace PageHarvest.Text

theorem sep_of_mem_fields {sep : Char → Bool} {s f : List Char} (hf : f ∈ fields sep s) {c : Char}
    (hc : c ∈ f) : sep c = false := by
  induction s generalizing f with
  | nil =>
    rw [List.mem_singleton.1 hf] at hc
    cases hc
  | cons d s ih =>
    unfold fields at hf
    split_ifs at hf with hd
    · rcases List.mem_cons.1 hf with rfl | hf
      · cases hc
      · exact ih hf hc
    · split at hf
      · rename_i he
        exact (fields_ne_nil sep s he).elim
      · rename_i g gs he
        rcases List.mem_cons.1 hf with rfl | hf
        · rcases List.mem_cons.1 hc with rfl | hc
          · simpa using hd
          · exact ih (by rw [he]; exact List.mem_cons_self) hc
        · exact ih (by rw [he]; exact List.mem_cons_of_mem g hf) hc

theorem mem_of_mem_fields {sep : Char → Bool} {s f : List Char} (hf : f ∈ fields sep s) {c : Char}
    (hc : c ∈ f) : c ∈ s := by
  induction s generalizing f with
  | nil =>
    rw [List.mem_singleton.1 hf] at hc
    exact hc
  | cons d s ih =>
    unfold fields at hf
    split_ifs at hf with hd
    · rcases List.mem_cons.1 hf with rfl | hf
      · cases hc
      · exact List.mem_cons_of_mem d (ih hf hc)
    · split at hf
      · rename_i he
        exact (fields_ne_nil sep s he).elim
      · rename_i g gs he
        rw [he] at ih
        rcases List.mem_cons.1 hf with rfl | hf
        · rcases List.mem_cons.1 hc with rfl | hc
          · exact List.mem_cons_self
          · exact List.mem_cons_of_mem d (ih List.mem_cons_self hc)
        · exact List.mem_cons_of_mem d (ih (List.mem_cons_of_mem g hf) hc)

theorem fields_eq_singleton {sep : Char → Bool} {s : List Char} (h : ∀ c ∈ s, sep c = false) :
    fields sep s = [s] := by
  induction s with
  | nil => rfl
  | cons c s ih =>
    rw [List.forall_mem_cons] at h
    simp [fields, h.1, ih h.2]

/-- A separator cuts a text in two. -/
theorem fields_append_cons {sep : Char → Bool} {d : Char} (hd : sep d = true) (a b : List Char) :
    fields sep (a ++ d :: b) = fields sep a ++ fields sep b := by
  induction a with
  | nil => simp [fields, hd]
  | cons c a ih =>
    obtain ⟨f, fs, hf⟩ := List.exists_cons_of_ne_nil (fields_ne_nil sep a)
    by_cases hc : sep c = true
    · simp [fields, hc, ih]
    · simp [fields, hc, ih, hf]

theorem fields_append_sep {sep : Char → Bool} {s : List Char} (h : ∀ c ∈ s, sep c = false)
    {d : Char} (hd : sep d = true) (rest : List Char) :
    fields sep (s ++ d :: rest) = s :: fields sep rest := by
  rw [fields_append_cons hd, fields_eq_singleton h, List.singleton_append]

theorem runs_append_cons {sep : Char → Bool} {d : Char} (hd : sep d = true) (a b : List Char) :
    runs sep (a ++ d :: b) = runs sep a ++ runs sep b := by
  rw [runs, fields_append_cons hd, List.filter_append]
  rfl

/-- Separators at the end of a text bound no further run. -/
theorem runs_append_seps {sep : Char → Bool} {seps : List Char} (h : ∀ c ∈ seps, sep c = true)
    (s : List Char) : runs sep (s ++ seps) = runs sep s := by
  induction seps generalizing s with
  | nil => rw [List.append_nil]
  | cons d seps ih =>
    rw [List.forall_mem_cons] at h
    have idle : runs sep seps = [] := ih h.2 []
    rw [runs_append_cons h.1, idle, List.append_nil]

theorem fields_joinWith {sep : Char → Bool} {between : String} {d : Char}
    (hb : between.toList = [d]) (hd : sep d = true) {pieces : List (List Char)} (hne : pieces ≠ [])
    (h : ∀ s ∈ pieces, ∀ c ∈ s, sep c = false) : fields sep (joinWith between pieces) = pieces := by
  induction pieces with
  | nil => exact (hne rfl).elim
  | cons s pieces ih =>
    rw [List.forall_mem_cons] at h
    cases pieces with
    | nil => simpa [joinWith] using fields_eq_singleton h.1
    | cons t pieces =>
      have hrest := ih (List.cons_ne_nil _ _) h.2
      have hj : joinWith between (s :: t :: pieces) = s ++ d :: joinWith between (t :: pieces) := by
        simp [joinWith, hb, List.intercalate_cons_cons]
      rw [hj, fields_append_sep h.1 hd, hrest]

theorem mem_joinWith {sep : String} {parts : List (List Char)} {c : Char}
    (h : c ∈ joinWith sep parts) : c ∈ sep.toList ∨ ∃ part ∈ parts, c ∈ part := by
  induction parts with
  | nil => cases h
  | cons part parts ih =>
    cases parts with
    | nil => exact .inr ⟨part, List.mem_cons_self, by simpa [joinWith] using h⟩
    | cons next parts =>
      simp only [joinWith, List.intercalate_cons_cons, List.mem_append] at h ih
      rcases h with (h | h) | h
      · exact .inr ⟨part, List.mem_cons_self, h⟩
      · exact .inl h
      · rcases ih h with h | ⟨p, hp, hc⟩
        · exact .inl h
        · exact .inr ⟨p, List.mem_cons_of_mem part hp, hc⟩

theorem mem_of_mem_trim {s : List Char} {c : Char} (h : c ∈ trim s) : c ∈ s := by
  rw [trim, dropTrailing, List.mem_reverse] at h
  have h' := (List.dropWhile_suffix _).subset h
  rw [List.mem_reverse] at h'
  exact (List.dropWhile_suffix _).subset h'

theorem dropTrailing_eq_nil_iff {p : Char → Bool} {s : List Char} :
    dropTrailing p s = [] ↔ ∀ c ∈ s, p c = true := by
  rw [dropTrailing, List.reverse_eq_nil_iff, List.dropWhile_eq_nil_iff]
  simp only [List.mem_reverse]

theorem trim_eq_nil_iff {s : List Char} : trim s = [] ↔ ∀ c ∈ s, isBlank c = true := by
  rw [trim, dropTrailing_eq_nil_iff]
  constructor
  · intro h
    induction s with
    | nil => simp
    | cons c s ih =>
      rw [List.dropWhile_cons] at h
      split_ifs at h with hc
      · exact List.forall_mem_cons.2 ⟨hc, ih h⟩
      · exact h
  · intro h c hc
    exact h c ((List.dropWhile_suffix _).subset hc)

/-- A text is what is left of it between runs of what is dropped. -/
theorem exists_strip (p : Char → Bool) (s : List Char) :
    ∃ before behind, s = before ++ dropTrailing p (s.dropWhile p) ++ behind ∧
      (∀ c ∈ before, p c = true) ∧ ∀ c ∈ behind, p c = true := by
  refine ⟨s.takeWhile p, ((s.dropWhile p).reverse.takeWhile p).reverse, ?_,
    fun _ hc => List.mem_takeWhile_imp hc,
    fun _ hc => List.mem_takeWhile_imp (List.mem_reverse.1 hc)⟩
  rw [List.append_assoc, dropTrailing, ← List.reverse_append, List.takeWhile_append_dropWhile,
    List.reverse_reverse, List.takeWhile_append_dropWhile]

theorem exists_trim (s : List Char) :
    ∃ before behind, s = before ++ trim s ++ behind ∧ (∀ c ∈ before, isBlank c = true) ∧
      ∀ c ∈ behind, isBlank c = true :=
  exists_strip isBlank s

theorem mem_trim_of_mem {s : List Char} {c : Char} (h : c ∈ s) (hc : isBlank c = false) :
    c ∈ trim s := by
  obtain ⟨before, behind, hs, hbefore, hbehind⟩ := exists_trim s
  rw [hs, List.mem_append, List.mem_append] at h
  rcases h with (h | h) | h
  · rw [hbefore c h] at hc
    cases hc
  · exact h
  · rw [hbehind c h] at hc
    cases hc

theorem dropWhile_strip (p : Char → Bool) (s : List Char) :
    (dropTrailing p (s.dropWhile p)).dropWhile p = dropTrailing p (s.dropWhile p) := by
  obtain ⟨behind, hb⟩ : dropTrailing p (s.dropWhile p) <+: s.dropWhile p :=
    List.rdropWhile_prefix p _
  cases ht : dropTrailing p (s.dropWhile p) with
  | nil => rfl
  | cons c r =>
    rw [ht] at hb
    have hne : s.dropWhile p ≠ [] := hb ▸ List.cons_ne_nil _ _
    have hc := List.head_dropWhile_not p hne
    simp only [← hb, List.cons_append, List.head_cons] at hc
    rw [List.dropWhile_cons_of_neg (by simp [hc])]

theorem strip_strip (p : Char → Bool) (s : List Char) :
    dropTrailing p ((dropTrailing p (s.dropWhile p)).dropWhile p) =
      dropTrailing p (s.dropWhile p) := by
  rw [dropWhile_strip]
  exact List.rdropWhile_idempotent p _

theorem trim_trim (s : List Char) : trim (trim s) = trim s :=
  strip_strip isBlank s

theorem trim_concat_blank {c : Char} (hc : isBlank c = true) (s : List Char) :
    trim (s ++ [c]) = trim s := by
  rw [trim, List.dropWhile_append]
  split
  · rename_i h
    rw [trim, List.isEmpty_iff.1 h]
    simp [hc]
  · exact List.rdropWhile_concat_pos isBlank _ c hc

theorem dropWhile_eq_self_iff {p : Char → Bool} {s : List Char} :
    s.dropWhile p = s ↔ ∀ c ∈ s.head?, p c = false := by
  rw [List.dropWhile_eq_self_iff]
  cases s <;> simp

theorem dropTrailing_eq_self_iff {p : Char → Bool} {s : List Char} :
    dropTrailing p s = s ↔ ∀ c ∈ s.getLast?, p c = false := by
  rw [dropTrailing, List.reverse_eq_iff, dropWhile_eq_self_iff, List.head?_reverse]

theorem strip_eq_self_iff {p : Char → Bool} {s : List Char} : dropTrailing p (s.dropWhile p) = s ↔
    (∀ c ∈ s.head?, p c = false) ∧ ∀ c ∈ s.getLast?, p c = false := by
  rw [← dropWhile_eq_self_iff, ← dropTrailing_eq_self_iff]
  constructor
  · intro h
    have front := dropWhile_strip p s
    rw [h] at front
    refine ⟨front, ?_⟩
    rwa [front] at h
  · rintro ⟨front, back⟩
    rw [front, back]

/-- What is dropped around a text that is stripped itself leaves that text. -/
theorem strip_append {p : Char → Bool} {before core behind : List Char} (hne : core ≠ [])
    (hbefore : ∀ c ∈ before, p c = true) (hbehind : ∀ c ∈ behind, p c = true)
    (starts : ∀ c ∈ core.head?, p c = false) (ends : ∀ c ∈ core.getLast?, p c = false) :
    dropTrailing p ((before ++ (core ++ behind)).dropWhile p) = core := by
  have front : (core ++ behind).dropWhile p = core ++ behind := by
    rw [dropWhile_eq_self_iff, List.head?_append_of_ne_nil core hne]
    exact starts
  rw [List.dropWhile_append_of_pos hbefore, front, dropTrailing, List.reverse_append,
    List.dropWhile_append_of_pos fun c hc => hbehind c (List.mem_reverse.1 hc), ← dropTrailing,
    dropTrailing_eq_self_iff]
  exact ends

/-- A text is trimmed just if it neither starts nor ends with a blank. -/
theorem trim_eq_self_iff {s : List Char} : trim s = s ↔
    (∀ c ∈ s.head?, isBlank c = false) ∧ ∀ c ∈ s.getLast?, isBlank c = false :=
  strip_eq_self_iff

theorem trimmed_eq_empty_iff {s : String} : trimmed s = "" ↔ allBlank s = true := by
  rw [trimmed, ← String.toList_inj, String.toList_ofList, String.toList_empty, trim_eq_nil_iff,
    allBlank, List.all_eq_true]

end PageHarvest.Text
