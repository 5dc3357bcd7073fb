import PageHarvest.Proofs.Advice.Fence

namespace PageHarvest.Advice

open Text (cut?)

/--
A part of a pattern. It may have several pieces to take from a text, and likes some better than
others.
-/
inductive Part
  /-- A given text. -/
  | exactly (t : List Char)
  /-- Characters of a kind, as many as possible. -/
  | most (p : Char → Bool)
  /-- A given character, if possible. -/
  | optional (c : Char)
  /-- Any characters, as few as possible. -/
  | least

/-- What a part may take from the front of a text, each with the rest, and the best one first. -/
def Part.takes : Part → List Char → List (List Char × List Char)
  | exactly t, s => if t.isPrefixOf s then [(t, s.drop t.length)] else []
  | most _, [] => [([], [])]
  | most p, c :: r =>
    if p c then ((most p).takes r).map (fun x => (c :: x.1, x.2)) ++ [([], c :: r)]
    else [([], c :: r)]
  | optional _, [] => [([], [])]
  | optional c, d :: r => if d = c then [([d], r), ([], d :: r)] else [([], d :: r)]
  | least, [] => [([], [])]
  | least, c :: r => ([], c :: r) :: (least.takes r).map fun x => (c :: x.1, x.2)

/-- The pieces that parts take one behind the other, the best match first. -/
def takings : List Part → List Char → List (List (List Char))
  | [], _ => [[]]
  | part :: parts, s => (part.takes s).flatMap fun x => (takings parts x.2).map (x.1 :: ·)

/-- The best match at the first place that has one. -/
def search (parts : List Part) : List Char → Option (List (List Char))
  | [] => (takings parts []).head?
  | c :: r => (takings parts (c :: r)).head? <|> search parts r

def closing : List Part :=
  [.least, .exactly fence]

/-- A fence, a word, blanks and a line end behind it, and what is held up to the next fence. -/
def fencedBlock : List Part :=
  .exactly fence :: .most isInfoChar :: .most (fun c => c == ' ' || c == '\t') ::
    .optional '\r' :: .optional '\n' :: closing

theorem takings_exactly (t s : List Char) :
    takings [.exactly t] s = if t.isPrefixOf s then [[t]] else [] := by
  by_cases h : t.isPrefixOf s = true
  · simp [takings, Part.takes, h]
  · simp [takings, Part.takes, h]

theorem takings_closing_cons (c : Char) (r : List Char) : takings closing (c :: r) =
    (if fence.isPrefixOf (c :: r) then [[[], fence]] else []) ++
      (takings closing r).map fun m => m.modifyHead (c :: ·) := by
  have later (x : List Char × List Char) : (takings [.exactly fence] x.2).map ((c :: x.1) :: ·) =
      ((takings [.exactly fence] x.2).map (x.1 :: ·)).map fun m => m.modifyHead (c :: ·) := by
    simp
  rw [closing, takings, takings, Part.takes, List.flatMap_cons, List.flatMap_map,
    List.map_flatMap, takings_exactly]
  simp only [later]
  split <;> rfl

theorem head?_takings_closing (s : List Char) :
    (takings closing s).head? = (cut? fence s).map fun x => [x.1, fence] := by
  induction s with
  | nil => rfl
  | cons c r ih =>
    rw [takings_closing_cons, cut?]
    split
    · rfl
    · rw [List.nil_append, List.head?_map, ih]
      cases cut? fence r <;> rfl

/-- The parts have a match just if a fence is still to come. -/
def Fences (parts : List Part) : Prop :=
  ∀ s, takings parts s = [] ↔ ¬fence <:+: s

/-- The part takes no character of a fence, and what it likes best leaves `best s`. -/
structure Part.Passes (part : Part) (best : List Char → List Char) : Prop where
  reaches : ∀ s, ∀ x ∈ part.takes s, Reaches s x.2
  likes : ∀ s, ∃ taken others, part.takes s = (taken, best s) :: others

theorem Reaches.infix_iff {s rest : List Char} (h : Reaches s rest) :
    fence <:+: s ↔ fence <:+: rest := by
  constructor
  · exact h.keeps_fence
  · obtain ⟨dropped, rfl, -⟩ := h
    exact fun hf => hf.trans (List.suffix_append dropped rest).isInfix

theorem fences_closing : Fences closing := by
  intro s
  rw [← Text.cut?_eq_none_iff, ← List.head?_eq_none_iff, head?_takings_closing,
    Option.map_eq_none_iff]

theorem Part.Passes.fences {part : Part} {best : List Char → List Char} {parts : List Part}
    (hp : part.Passes best) (h : Fences parts) : Fences (part :: parts) := by
  intro s
  obtain ⟨taken, others, hs⟩ := hp.likes s
  rw [takings, List.flatMap_eq_nil_iff]
  constructor
  · intro none
    have first : (taken, best s) ∈ part.takes s := hs ▸ List.mem_cons_self
    rw [(hp.reaches s _ first).infix_iff, ← h]
    exact List.map_eq_nil_iff.1 (none _ first)
  · intro unfenced x hx
    rw [(hp.reaches s x hx).infix_iff, ← h] at unfenced
    rw [unfenced, List.map_nil]

theorem Part.Passes.head?_takings {part : Part} {best : List Char → List Char} {parts : List Part}
    (hp : part.Passes best) (h : Fences parts) (s : List Char) :
    ∃ taken, (takings (part :: parts) s).head? =
      (takings parts (best s)).head?.map (taken :: ·) := by
  obtain ⟨taken, others, hs⟩ := hp.likes s
  refine ⟨taken, ?_⟩
  cases hb : takings parts (best s) with
  | nil =>
    have first : (taken, best s) ∈ part.takes s := hs ▸ List.mem_cons_self
    have unfenced := (h (best s)).1 hb
    rw [← (hp.reaches s _ first).infix_iff, ← hp.fences h s] at unfenced
    rw [unfenced]
    rfl
  | cons m ms =>
    rw [takings, hs, List.flatMap_cons, hb]
    rfl

theorem passes_most {p : Char → Bool} (plain : ∀ c, p c = true → isPlain c = true) :
    (Part.most p).Passes (List.dropWhile p) where
  reaches s := by
    induction s with
    | nil => simp [Part.takes, Reaches.refl]
    | cons c r ih =>
      intro x hx
      rw [Part.takes] at hx
      split at hx
      · rename_i hc
        rcases List.mem_append.1 hx with hx | hx
        · obtain ⟨y, hy, rfl⟩ := List.mem_map.1 hx
          exact (Reaches.cons (plain c hc) r).trans (ih y hy)
        · obtain rfl := List.mem_singleton.1 hx
          exact .refl _
      · obtain rfl := List.mem_singleton.1 hx
        exact .refl _
  likes s := by
    induction s with
    | nil => exact ⟨[], [], rfl⟩
    | cons c r ih =>
      obtain ⟨taken, others, hr⟩ := ih
      cases hc : p c with
      | true =>
        refine ⟨c :: taken, others.map (fun x => (c :: x.1, x.2)) ++ [([], c :: r)], ?_⟩
        rw [Part.takes, if_pos hc, hr, List.dropWhile_cons_of_pos hc]
        rfl
      | false => exact ⟨[], [], by simp [Part.takes, hc]⟩

theorem passes_optional {c : Char} {best : List Char → List Char} (plain : isPlain c = true)
    (hnil : best [] = []) (hcons : ∀ d r, best (d :: r) = if d = c then r else d :: r) :
    (Part.optional c).Passes best where
  reaches s := by
    cases s with
    | nil => simp [Part.takes, Reaches.refl]
    | cons d r =>
      intro x hx
      rw [Part.takes] at hx
      split at hx
      · rename_i hd
        subst hd
        rcases List.mem_cons.1 hx with rfl | hx
        · exact .cons plain r
        · obtain rfl := List.mem_singleton.1 hx
          exact .refl _
      · obtain rfl := List.mem_singleton.1 hx
        exact .refl _
  likes s := by
    cases s with
    | nil => exact ⟨[], [], by rw [hnil]; rfl⟩
    | cons d r =>
      rw [hcons, Part.takes]
      split
      · exact ⟨[d], _, rfl⟩
      · exact ⟨[], _, rfl⟩

theorem passes_return : (Part.optional '\r').Passes dropReturn := by
  refine passes_optional (by decide) rfl ?_
  intro d r
  unfold dropReturn
  split <;> simp_all

theorem passes_feed : (Part.optional '\n').Passes dropFeed := by
  refine passes_optional (by decide) rfl ?_
  intro d r
  unfold dropFeed
  split <;> simp_all

/-- The best match holds what stands before the first fence behind the word and the line end. -/
theorem head?_takings_fencedBlock (s : List Char) : ∃ word blanks cr feed,
    (takings fencedBlock (fence ++ s)).head? =
      (cut? fence (dropInfo s)).map fun x => [fence, word, blanks, cr, feed, x.1, fence] := by
  have gap := passes_most fun _ => isPlain_of_isGap
  have info := passes_most fun _ => isPlain_of_isInfoChar
  have behindReturn := passes_feed.fences fences_closing
  have behindGap := passes_return.fences behindReturn
  have behindWord := gap.fences behindGap
  obtain ⟨word, hword⟩ := info.head?_takings behindWord s
  obtain ⟨blanks, hblanks⟩ := gap.head?_takings behindGap (s.dropWhile isInfoChar)
  obtain ⟨cr, hcr⟩ := passes_return.head?_takings behindReturn
    ((s.dropWhile isInfoChar).dropWhile fun c => c == ' ' || c == '\t')
  obtain ⟨feed, hfeed⟩ := passes_feed.head?_takings fences_closing
    (dropReturn ((s.dropWhile isInfoChar).dropWhile fun c => c == ' ' || c == '\t'))
  refine ⟨word, blanks, cr, feed, ?_⟩
  have opened : takings fencedBlock (fence ++ s) =
      (takings (.most isInfoChar :: .most (fun c => c == ' ' || c == '\t') ::
        .optional '\r' :: .optional '\n' :: closing) s).map (fence :: ·) := by
    simp [fencedBlock, takings, Part.takes]
  rw [opened, List.head?_map, hword, hblanks, hcr, hfeed, head?_takings_closing, dropInfo]
  cases cut? fence _ <;> rfl

theorem takings_fencedBlock_eq_nil {s : List Char} (h : fence.isPrefixOf s = false) :
    takings fencedBlock s = [] := by
  simp [fencedBlock, takings, Part.takes, h]

theorem fenced?_append (opened : List Char) :
    fenced? (fence ++ opened) = (cut? fence (dropInfo opened)).map (·.1) := by
  unfold fenced?
  rw [Text.cut?_prefix]
  change ((cut? fence (dropInfo opened)).bind fun x => some x.1) = _
  rw [Option.map_eq_bind]
  rfl

/-- What is cut out is what the best match of a block holds at the first place that has one. -/
theorem fenced?_eq_search (s : List Char) : fenced? s = (search fencedBlock s).bind (·[5]?) := by
  induction s with
  | nil => rfl
  | cons c r ih =>
    cases hp : fence.isPrefixOf (c :: r) with
    | false =>
      have later : fenced? (c :: r) = fenced? r := by
        rw [fenced?, fenced?, cut?, hp]
        cases cut? fence r <;> rfl
      rw [later, ih, search, takings_fencedBlock_eq_nil hp]
      rfl
    | true =>
      obtain ⟨opened, hopened⟩ := List.isPrefixOf_iff_prefix.1 hp
      obtain ⟨word, blanks, cr, feed, hbest⟩ := head?_takings_fencedBlock opened
      have here := fenced?_append opened
      rw [hopened] at here
      rw [search, ← hopened, hbest, hopened, here]
      cases hclose : cut? fence (dropInfo opened) with
      | some x => rfl
      | none =>
        -- No fence closes this one, so none closes a fence that starts later.
        change none = (search fencedBlock r).bind (·[5]?)
        rw [← ih]
        cases hr : fenced? r with
        | none => rfl
        | some content =>
          obtain ⟨a, b, d, rfl⟩ := fenced_of_fenced? hr
          obtain ⟨found, hfound⟩ := exists_fenced? ⟨c :: a, b, d, rfl⟩
          rw [List.cons_append, here, hclose] at hfound
          cases hfound

end PageHarvest.Advice
