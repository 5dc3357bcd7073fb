import PageHarvest.Proofs.Text.Blank
import PageHarvest.Text.Basic

namespace PageHarvest.Text

theorem fields_flatMap_line {ls : List (List Char)} (h : ∀ l ∈ ls, '\n' ∉ l) :
    fields (· == '\n') (ls.flatMap (· ++ ['\n'])) = ls ++ [[]] := by
  induction ls with
  | nil => rfl
  | cons l ls ih =>
    rw [List.forall_mem_cons] at h
    have hl : ∀ c ∈ l, (c == '\n') = false := by
      intro c hc
      rw [beq_eq_false_iff_ne]
      rintro rfl
      exact h.1 hc
    rw [List.flatMap_cons, List.append_assoc, List.singleton_append, fields_append_sep hl rfl,
      ih h.2]
    rfl

theorem dropReturn_of_getLast? {l : List Char} (h : l.getLast? ≠ some '\r') : dropReturn l = l := by
  unfold dropReturn
  split
  · rename_i hr
    exact (h hr).elim
  · rfl

theorem dropReturn_of_not_mem {l : List Char} (h : '\r' ∉ l) : dropReturn l = l :=
  dropReturn_of_getLast? fun he => h (List.mem_of_getLast? he)

theorem mem_of_mem_dropReturn {l : List Char} {c : Char} (h : c ∈ dropReturn l) : c ∈ l := by
  unfold dropReturn at h
  split at h
  · exact List.dropLast_subset l h
  · exact h

theorem lines_flatMap_line {ls : List (List Char)} (h : ∀ l ∈ ls, '\n' ∉ l ∧ '\r' ∉ l) :
    lines (ls.flatMap (· ++ ['\n'])) = ls := by
  have hd : ls.map dropReturn = ls.map id :=
    List.map_congr_left fun l hl => dropReturn_of_not_mem (h l hl).2
  simp [lines, fields_flatMap_line fun l hl => (h l hl).1, hd]

/-- Texts that end as lines can are the lines of what they make with line feeds between them. -/
theorem lines_joinWith {ls : List (List Char)}
    (h : ∀ l ∈ ls, '\n' ∉ l ∧ l ≠ [] ∧ l.getLast? ≠ some '\r') : lines (joinWith "\n" ls) = ls := by
  rcases List.eq_nil_or_concat ls with rfl | ⟨front, l, rfl⟩
  · rfl
  rw [List.concat_eq_append] at h ⊢
  have cut : fields (· == '\n') (joinWith "\n" (front ++ [l])) = front ++ [l] := by
    refine fields_joinWith (d := '\n') rfl rfl (by simp) fun l hl c hc => ?_
    rw [beq_eq_false_iff_ne]
    rintro rfl
    exact (h l hl).1 hc
  have ended : front.map dropReturn = front.map id :=
    List.map_congr_left fun k hk => dropReturn_of_getLast? (h k (List.mem_append_left _ hk)).2.2
  have filled : l.isEmpty = false := by
    simpa using (h l (List.mem_append_right _ (List.mem_singleton_self l))).2.1
  simp [lines, cut, ended, filled]

theorem lineFeed_not_mem_of_mem_lines {s l : List Char} (hl : l ∈ lines s) : '\n' ∉ l := by
  have field {f : List Char} (hf : f ∈ fields (· == '\n') s) : '\n' ∉ f :=
    fun hm => Bool.noConfusion (sep_of_mem_fields hf hm)
  rcases List.mem_append.1 hl with hl | hl
  · obtain ⟨f, hf, rfl⟩ := List.mem_map.1 hl
    exact fun hm => field (List.dropLast_subset _ hf) (mem_of_mem_dropReturn hm)
  · have last := (List.mem_filter.1 hl).1
    exact field (List.mem_of_getLast? (Option.mem_toList.1 last))

theorem mem_of_mem_lines {s l : List Char} (hl : l ∈ lines s) {c : Char} (hc : c ∈ l) : c ∈ s := by
  rcases List.mem_append.1 hl with hl | hl
  · obtain ⟨f, hf, rfl⟩ := List.mem_map.1 hl
    exact mem_of_mem_fields (List.dropLast_subset _ hf) (mem_of_mem_dropReturn hc)
  · have hlast := (List.mem_filter.1 hl).1
    exact mem_of_mem_fields (List.mem_of_getLast? (Option.mem_toList.1 hlast)) hc

/-- A literal is taken as the list of its characters, which is cheaper than decoding it. -/
theorem toList_of_eq {s : String} {l : List Char} (h : s = String.ofList l) : s.toList = l := by
  rw [h, String.toList_ofList]

theorem contains_iff {needle s : List Char} : contains needle s = true ↔ needle <:+: s := by
  induction s with
  | nil => simp [contains]
  | cons c s ih => simp [contains, ih, List.infix_cons_iff]

theorem eq_of_cut? {needle s before after : List Char}
    (h : cut? needle s = some (before, after)) : s = before ++ (needle ++ after) := by
  induction s generalizing before with
  | nil =>
    rw [cut?] at h
    split_ifs at h with hn
    cases h
    rw [List.isEmpty_iff.1 hn]
    rfl
  | cons c s ih =>
    rw [cut?] at h
    split_ifs at h with hp
    · obtain ⟨rest, hrest⟩ := List.isPrefixOf_iff_prefix.1 hp
      rw [← hrest, List.drop_left] at h
      cases h
      exact hrest.symm
    · obtain ⟨⟨more, last⟩, hmore, he⟩ := Option.map_eq_some_iff.1 h
      cases he
      rw [ih hmore, List.cons_append]

theorem cut?_prefix (needle s : List Char) : cut? needle (needle ++ s) = some ([], s) := by
  cases h : needle ++ s with
  | nil =>
    obtain ⟨rfl, rfl⟩ := List.append_eq_nil_iff.1 h
    rfl
  | cons c r =>
    have hp : needle.isPrefixOf (c :: r) = true :=
      List.isPrefixOf_iff_prefix.2 (h ▸ List.prefix_append needle s)
    rw [cut?, if_pos hp, ← h, List.drop_left]

/-- The cut is made no later than where the text that is looked for is known to stand. -/
theorem exists_cut? (needle a b : List Char) :
    ∃ before after, cut? needle (a ++ (needle ++ b)) = some (before, after) ∧ b <:+ after := by
  induction a with
  | nil => exact ⟨[], b, cut?_prefix needle b, List.suffix_rfl⟩
  | cons c a ih =>
    rw [List.cons_append, cut?]
    split_ifs with hp
    · refine ⟨_, _, rfl, ?_⟩
      have later : b <:+ c :: (a ++ (needle ++ b)) := ⟨c :: (a ++ needle), by simp⟩
      refine List.suffix_of_suffix_length_le later (List.drop_suffix _ _) ?_
      simp only [List.length_drop, List.length_cons, List.length_append]
      omega
    · obtain ⟨before, after, hcut, hb⟩ := ih
      exact ⟨c :: before, after, by rw [hcut]; rfl, hb⟩

theorem cut?_eq_none_iff {needle s : List Char} : cut? needle s = none ↔ ¬needle <:+: s := by
  constructor
  · rintro none ⟨a, b, rfl⟩
    obtain ⟨before, after, hcut, -⟩ := exists_cut? needle a b
    rw [List.append_assoc, hcut] at none
    cases none
  · intro h
    cases hc : cut? needle s with
    | none => rfl
    | some x =>
      refine absurd ⟨x.1, x.2, ?_⟩ h
      rw [eq_of_cut? hc, List.append_assoc]

/-- A text is cut where the needle stands, if it does not start any earlier. -/
theorem cut?_append {needle a b : List Char}
    (h : ∀ c back, c :: back <:+ a → ¬needle <+: c :: back ++ (needle ++ b)) :
    cut? needle (a ++ (needle ++ b)) = some (a, b) := by
  induction a with
  | nil => exact cut?_prefix needle b
  | cons c a ih =>
    have here := h c a List.suffix_rfl
    rw [List.cons_append, ← List.isPrefixOf_iff_prefix] at here
    rw [List.cons_append, cut?, if_neg here, ih]
    · rfl
    · intro d back hback
      exact h d back (hback.trans (List.suffix_cons c a))

theorem not_infix_of_cut? {needle s before after : List Char} (hn : needle ≠ [])
    (h : cut? needle s = some (before, after)) : ¬needle <:+: before := by
  induction s generalizing before with
  | nil => simp [cut?, hn] at h
  | cons c s ih =>
    rw [cut?] at h
    split_ifs at h with hp
    · cases h
      simpa using hn
    · obtain ⟨⟨more, last⟩, hmore, he⟩ := Option.map_eq_some_iff.1 h
      cases he
      rw [List.isPrefixOf_iff_prefix] at hp
      rw [List.infix_cons_iff]
      rintro (front | inside)
      · refine hp (front.trans ?_)
        rw [eq_of_cut? hmore]
        exact List.prefix_append (c :: more) _
      · exact ih hmore inside

section kinds

variable {kind : List Char → Bool} {before behind : List (List Char)} {line : List Char}

def only (kind : List Char → Bool) : List (List Char) → Option (List Char × List (List Char))
  | [] => none
  | line :: rest =>
    if kind line then if rest.any kind then none else some (line, rest)
    else only kind rest

theorem only_append (hline : kind line = true) (hbefore : ∀ l ∈ before, kind l = false)
    (hbehind : ∀ l ∈ behind, kind l = false) :
    only kind (before ++ line :: behind) = some (line, behind) := by
  induction before with
  | nil =>
    have later : behind.any kind = false := by simpa using hbehind
    rw [List.nil_append, only, if_pos hline, later, if_neg Bool.false_ne_true]
  | cons first before ih =>
    rw [List.forall_mem_cons] at hbefore
    rw [List.cons_append, only, hbefore.1, if_neg Bool.false_ne_true, ih hbefore.2]

theorem others_of_countP (hline : kind line = true)
    (h : (before ++ line :: behind).countP kind = 1) :
    (∀ l ∈ before, kind l = false) ∧ ∀ l ∈ behind, kind l = false := by
  rw [List.countP_append, List.countP_cons_of_pos hline] at h
  have none : before.countP kind = 0 ∧ behind.countP kind = 0 := by omega
  simpa [List.countP_eq_zero] using none

theorem only_of_countP (hline : kind line = true)
    (h : (before ++ line :: behind).countP kind = 1) :
    only kind (before ++ line :: behind) = some (line, behind) :=
  only_append hline (others_of_countP hline h).1 (others_of_countP hline h).2

theorem only_eq_none {lines : List (List Char)} (h : lines.countP kind = 0) :
    only kind lines = none := by
  induction lines with
  | nil => rfl
  | cons first rest ih =>
    rw [List.countP_eq_zero, List.forall_mem_cons] at h
    rw [only, if_neg h.1, ih (List.countP_eq_zero.2 h.2)]

end kinds

end PageHarvest.Text
