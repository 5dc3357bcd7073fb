import PageHarvest.Proofs.Script.Blocks

namespace PageHarvest.Script

/-- No gap is the first row or stands behind another. -/
structure Spaced (rows : List Row) : Prop where
  starts : rows.head?.all (!·.isGap) = true
  apart : rows.IsChain fun a b => a.isGap = false ∨ b.isGap = false

theorem Spaced.settle {rows : List Row} (h : Spaced rows) (r : Row) : Spaced (settle rows r) := by
  unfold Script.settle
  split_ifs with hs
  · exact h
  · constructor
    · cases rows with
      | nil => simpa using hs
      | cons s rows => exact h.starts
    · refine List.isChain_append.2 ⟨h.apart, .singleton r, fun s hl t ht => ?_⟩
      obtain rfl : r = t := by simpa using ht
      have hl' : rows.getLast? = some s := hl
      rw [hl'] at hs
      cases hr : r.isGap with
      | false => exact .inr rfl
      | true => exact .inl (by simpa [hr] using hs)

theorem Spaced.foldl_settle {rows : List Row} (h : Spaced rows) (new : List Row) :
    Spaced (new.foldl Script.settle rows) := by
  induction new generalizing rows with
  | nil => exact h
  | cons r new ih => exact ih (h.settle r)

theorem spaced_settled (rows : List Row) : Spaced (settled rows) := by
  have h : Spaced (rows.foldl settle []) := Spaced.foldl_settle ⟨rfl, .nil⟩ rows
  obtain ⟨behind, he⟩ := List.rdropWhile_prefix Row.isGap (l := rows.foldl settle [])
  constructor
  · have hstarts := h.starts
    rw [settled]
    cases hd : (rows.foldl settle []).rdropWhile Row.isGap with
    | nil => rfl
    | cons r front =>
      rw [← he, hd] at hstarts
      exact hstarts
  · exact h.apart.prefix ⟨behind, he⟩

theorem isGap_getLast?_settled {rows : List Row} {r : Row} (h : (settled rows).getLast? = some r) :
    r.isGap = false := by
  have hne : settled rows ≠ [] := by
    intro he
    rw [he] at h
    cases h
  rw [List.getLast?_eq_some_getLast hne, Option.some.injEq] at h
  rw [← h]
  exact Bool.eq_false_iff.2 (List.rdropWhile_last_not Row.isGap _ hne)

/-- The second rows are the first without some of their gaps. -/
inductive WithoutGaps : List Row → List Row → Prop
  | nil : WithoutGaps [] []
  | keep {a b : List Row} (r : Row) : WithoutGaps a b → WithoutGaps (r :: a) (r :: b)
  | drop {a b : List Row} : WithoutGaps a b → WithoutGaps (.gap :: a) b

namespace WithoutGaps

theorem refl (rows : List Row) : WithoutGaps rows rows := by
  induction rows with
  | nil => exact .nil
  | cons r rows ih => exact .keep r ih

theorem append {a b a' b' : List Row} (h : WithoutGaps a b) (h' : WithoutGaps a' b') :
    WithoutGaps (a ++ a') (b ++ b') := by
  induction h with
  | nil => exact h'
  | keep r _ ih => exact .keep r ih
  | drop _ ih => exact .drop ih

theorem trans {a b c : List Row} (h : WithoutGaps a b) (h' : WithoutGaps b c) :
    WithoutGaps a c := by
  induction h generalizing c with
  | nil => exact h'
  | keep r _ ih =>
    cases h' with
    | keep _ h' => exact .keep r (ih h')
    | drop h' => exact .drop (ih h')
  | drop _ ih => exact .drop (ih h')

theorem foldl_settle (rows new : List Row) :
    WithoutGaps (rows ++ new) (new.foldl settle rows) := by
  induction new generalizing rows with
  | nil =>
    rw [List.append_nil]
    exact refl rows
  | cons r new ih =>
    refine trans ?_ (ih (settle rows r))
    unfold settle
    split_ifs with hs
    · rw [Bool.and_eq_true] at hs
      rw [Row.eq_gap hs.1]
      exact (refl rows).append (.drop (refl new))
    · rw [List.append_assoc, List.singleton_append]
      exact refl _

theorem rdropWhile (rows : List Row) : WithoutGaps rows (rows.rdropWhile Row.isGap) := by
  induction rows using List.reverseRecOn with
  | nil => exact .nil
  | append_singleton front r ih =>
    cases hg : r.isGap with
    | true =>
      obtain rfl := Row.eq_gap hg
      rw [List.rdropWhile_concat_pos _ _ _ hg]
      simpa using ih.append (.drop .nil)
    | false =>
      rw [List.rdropWhile_concat_neg _ _ _ (by simp [hg])]
      exact refl _

theorem settled (rows : List Row) : WithoutGaps rows (settled rows) :=
  (foldl_settle [] rows).trans (rdropWhile _)

theorem mem_blockOf {a b : List Row} (h : WithoutGaps a b) {opener r : Row}
    (hr : r ∈ blockOf opener a) : r ∈ blockOf opener b := by
  induction h with
  | nil => exact hr
  | keep s _ ih =>
    unfold blockOf at hr ih ⊢
    rw [List.takeWhile_cons] at hr ⊢
    split_ifs at hr ⊢
    · rcases List.mem_cons.1 hr with rfl | hr
      · exact List.mem_cons_self
      · exact List.mem_cons_of_mem s (ih hr)
    · exact hr
  | drop _ _ =>
    -- no block goes on behind a gap
    cases hr

theorem filled {a b : List Row} (h : WithoutGaps a b) (ha : Filled a) : Filled b := by
  induction h with
  | nil => exact ha
  | keep r h ih =>
    refine ⟨fun ho => ?_, ih ha.2⟩
    obtain ⟨c, hc, hcode⟩ := ha.1 ho
    exact ⟨c, h.mem_blockOf hc, hcode⟩
  | drop _ ih => exact ih ha.2

theorem steps {a b : List Row} (h : WithoutGaps a b) {r : Row}
    (ha : (r :: a).IsChain Row.Step) : (r :: b).IsChain Row.Step := by
  induction h generalizing r with
  | nil => exact ha
  | keep s _ ih =>
    rw [List.isChain_cons_cons] at ha ⊢
    exact ⟨ha.1, ih ha.2⟩
  | @drop a _ _ ih =>
    apply ih
    -- a row behind a gap stands at the margin, so it may stand behind any row
    rw [List.isChain_cons_cons] at ha
    cases a with
    | nil => exact .singleton r
    | cons s a =>
      rw [List.isChain_cons_cons] at ha ⊢
      refine ⟨.inl ?_, ha.2.2⟩
      rcases ha.2.1 with hs | ⟨ho, _⟩
      · exact Nat.le_trans hs (Nat.zero_le _)
      · cases ho

end WithoutGaps

def keptBehind (gap : Bool) : List Row → List Row
  | [] => []
  | r :: rest => if r.isGap && gap then keptBehind gap rest else r :: keptBehind r.isGap rest

def settledBehind (rows : List Row) : List Row :=
  (keptBehind false rows).rdropWhile Row.isGap

theorem foldl_settle_concat (front new : List Row) (r : Row) :
    new.foldl settle (front ++ [r]) = front ++ [r] ++ keptBehind r.isGap new := by
  induction new generalizing front r with
  | nil => exact (List.append_nil _).symm
  | cons s new ih =>
    have step : settle (front ++ [r]) s =
        if (s.isGap && r.isGap) = true then front ++ [r] else front ++ [r] ++ [s] := by
      simp [settle]
    rw [List.foldl_cons, step, keptBehind]
    split_ifs
    · exact ih front r
    · rw [ih, List.append_assoc _ [s], List.singleton_append]

theorem rdropWhile_append_of_not {r : Row} (h : r.isGap = false) (front more : List Row) :
    (front ++ [r] ++ more).rdropWhile Row.isGap =
      front ++ [r] ++ more.rdropWhile Row.isGap := by
  induction more using List.reverseRecOn with
  | nil =>
    rw [List.append_nil, List.rdropWhile_concat_neg _ _ _ (by simp [h]), List.rdropWhile_nil,
      List.append_nil]
  | append_singleton more s ih =>
    rw [← List.append_assoc]
    cases hs : s.isGap with
    | true => rw [List.rdropWhile_concat_pos _ _ _ hs, List.rdropWhile_concat_pos _ _ _ hs, ih]
    | false =>
      rw [List.rdropWhile_concat_neg _ _ _ (by simp [hs]),
        List.rdropWhile_concat_neg _ _ _ (by simp [hs]), List.append_assoc _ more]

/-- Rows without a gap stay together, whatever stands around them. -/
theorem settled_append {rows : List Row} (hne : rows ≠ []) (h : ∀ r ∈ rows, r.isGap = false)
    (before behind : List Row) :
    settled (before ++ rows ++ behind) =
      before.foldl settle [] ++ rows ++ settledBehind behind := by
  obtain ⟨front, r, rfl⟩ := (List.eq_nil_or_concat rows).resolve_left hne
  rw [List.concat_eq_append] at h ⊢
  have hr : r.isGap = false := h r (by simp)
  rw [settled, List.foldl_append, List.foldl_append, foldl_settle_of_not_isGap h,
    ← List.append_assoc, foldl_settle_concat, rdropWhile_append_of_not hr, hr, settledBehind]

theorem mem_of_mem_keptBehind {gap : Bool} {rows : List Row} {r : Row}
    (h : r ∈ keptBehind gap rows) : r ∈ rows := by
  induction rows generalizing gap with
  | nil => exact h
  | cons s rows ih =>
    rw [keptBehind] at h
    split_ifs at h
    · exact List.mem_cons_of_mem s (ih h)
    · rcases List.mem_cons.1 h with rfl | h
      · exact List.mem_cons_self
      · exact List.mem_cons_of_mem s (ih h)

theorem mem_of_mem_settledBehind {rows : List Row} {r : Row} (h : r ∈ settledBehind rows) :
    r ∈ rows :=
  mem_of_mem_keptBehind ((List.rdropWhile_prefix _ _).subset h)

theorem settledBehind_of_not_isGap {rows : List Row} (h : ∀ r ∈ rows, r.isGap = false) :
    settledBehind rows = rows := by
  have kept (gap : Bool) : keptBehind gap rows = rows := by
    induction rows generalizing gap with
    | nil => rfl
    | cons r rows ih =>
      rw [List.forall_mem_cons] at h
      rw [keptBehind, h.1, Bool.false_and, if_neg Bool.false_ne_true, ih h.2]
  rw [settledBehind, kept, List.rdropWhile_eq_self_iff]
  intro hne
  simp [h _ (List.getLast_mem hne)]

theorem head?_settledBehind {r s : Row} {rows : List Row}
    (h : (settledBehind (r :: rows)).head? = some s) : s = r := by
  have kept : keptBehind false (r :: rows) = r :: keptBehind r.isGap rows := by
    rw [keptBehind, Bool.and_false, if_neg Bool.false_ne_true]
  obtain ⟨more, hmore⟩ := List.rdropWhile_prefix Row.isGap (l := keptBehind false (r :: rows))
  rw [kept] at hmore
  rw [settledBehind, kept] at h
  cases hd : (r :: keptBehind r.isGap rows).rdropWhile Row.isGap with
  | nil =>
    rw [hd] at h
    cases h
  | cons t left =>
    rw [hd] at h hmore
    exact (Option.some.inj h).symm.trans (List.cons.inj hmore).1

structure TextRows (tabs : Bool) (rows : List Row) : Prop where
  tidy : ∀ r ∈ rows, r.isTidy = true
  laid : ∀ r ∈ rows, r.isLaid tabs = true
  spaced : Spaced rows
  last : ∀ r ∈ rows.getLast?, r.isGap = false
  steps : rows.IsChain Row.Step
  filled : Filled rows

theorem textRows_settled {tabs : Bool} {rows : List Row} (ht : ∀ r ∈ rows, r.isTidy = true)
    (h : LaidRows tabs 0 rows) : TextRows tabs (settled rows) where
  tidy r hr := ht r (mem_of_mem_settled hr)
  laid r hr := h.laid r (mem_of_mem_settled hr)
  spaced := spaced_settled rows
  last _ hr := isGap_getLast?_settled hr
  steps := by
    have margin : (Row.gap :: rows).IsChain Row.Step := by
      rw [List.isChain_cons]
      exact ⟨fun r hr => .inl (Nat.le_of_eq (h.first r hr)), h.steps⟩
    exact ((WithoutGaps.settled rows).steps margin).tail
  filled := (WithoutGaps.settled rows).filled h.filled

end PageHarvest.Script
