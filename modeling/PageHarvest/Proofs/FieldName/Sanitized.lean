import PageHarvest.Proofs.FieldName

namespace PageHarvest.FieldName

variable {s a b : List Char} {c : Char}

/-- The letters and digits of a text, which are those of ASCII. -/
def letters (s : List Char) : List Char :=
  s.filter Char.isAlphanum

/-- What stands between each letter or digit and the next one. -/
def gaps (s : List Char) : List (List Char) :=
  (Text.fields Char.isAlphanum s).tail.dropLast

structure Bridge (gap bridge : List Char) : Prop where
  eq_nil_iff : bridge = [] ↔ gap = []
  underscores : (∀ c ∈ gap, c = '_') → bridge = gap
  unsupported : gap ≠ [] → (∀ c ∈ gap, isNameChar c = false) → bridge = ['_']

structure NameOf (text name : List Char) : Prop where
  letters_eq : letters name = letters text
  bridges : List.Forall₂ Bridge (gaps text) (gaps name)
  starts : ∃ c ∈ name.head?, c.isAlphanum = true
  ends : ∃ c ∈ name.getLast?, c.isAlphanum = true

theorem isNameChar_of_isAlphanum (h : c.isAlphanum = true) : isNameChar c = true := by
  rw [isNameChar, h, Bool.true_or]

theorem ne_underscore_of_isAlphanum (h : c.isAlphanum = true) : c ≠ '_' := by
  rintro rfl
  cases h

theorem eq_underscore (h : isNameChar c = true) (hc : c.isAlphanum = false) : c = '_' := by
  rw [isNameChar, hc, Bool.false_or] at h
  exact eq_of_beq h

/-- Whether a text leaves the one behind it in a gap, where it started in one or not. -/
def endsInGap (inGap : Bool) (s : List Char) : Bool :=
  (s.getLast?.map (!isNameChar ·)).getD inGap

theorem bridgeGaps_append (inGap : Bool) (s t : List Char) :
    bridgeGaps inGap (s ++ t) = bridgeGaps inGap s ++ bridgeGaps (endsInGap inGap s) t := by
  induction s generalizing inGap with
  | nil => rfl
  | cons c s ih =>
    have rest : endsInGap inGap (c :: s) = endsInGap (!isNameChar c) s := by
      cases s with
      | nil => rfl
      | cons d s => simp [endsInGap, List.getLast?_cons]
    rw [List.cons_append, bridgeGaps, bridgeGaps, rest]
    cases isNameChar c <;> cases inGap <;> simp [ih]

theorem bridgeGaps_cons (h : isNameChar c = true) (inGap : Bool) (s : List Char) :
    bridgeGaps inGap (c :: s) = c :: bridgeGaps false s := by
  rw [bridgeGaps, if_pos h]

theorem bridgeGaps_eq_self (h : ∀ c ∈ s, isNameChar c = true) : bridgeGaps false s = s := by
  induction s with
  | nil => rfl
  | cons c s ih =>
    rw [List.forall_mem_cons] at h
    rw [bridgeGaps_cons h.1, ih h.2]

theorem bridgeGaps_of_gap (h : ∀ c ∈ s, isNameChar c = false) : bridgeGaps true s = [] := by
  induction s with
  | nil => rfl
  | cons c s ih =>
    rw [List.forall_mem_cons] at h
    rw [bridgeGaps, h.1, if_neg Bool.false_ne_true, if_pos rfl, ih h.2]

theorem letters_bridgeGaps (inGap : Bool) (s : List Char) :
    letters (bridgeGaps inGap s) = letters s := by
  induction s generalizing inGap with
  | nil => rfl
  | cons c s ih =>
    simp only [letters] at ih
    rw [letters, letters, bridgeGaps]
    split_ifs with hc hg
    · rw [List.filter_cons, List.filter_cons, ih]
    · rw [ih, List.filter_cons_of_neg (mt isNameChar_of_isAlphanum hc)]
    · rw [List.filter_cons_of_neg (by decide), ih,
        List.filter_cons_of_neg (mt isNameChar_of_isAlphanum hc)]

/-- Each piece between letters is bridged by itself; only the first may go on with a gap. -/
theorem fields_bridgeGaps (inGap : Bool) (s : List Char) :
    ∃ f fs, Text.fields Char.isAlphanum s = f :: fs ∧
      Text.fields Char.isAlphanum (bridgeGaps inGap s) =
        bridgeGaps inGap f :: fs.map (bridgeGaps false) := by
  induction s generalizing inGap with
  | nil => exact ⟨[], [], rfl, rfl⟩
  | cons c s ih =>
    cases hc : c.isAlphanum with
    | true =>
      obtain ⟨f, fs, hs, hb⟩ := ih false
      refine ⟨[], f :: fs, by rw [Text.fields, if_pos hc, hs], ?_⟩
      rw [bridgeGaps_cons (isNameChar_of_isAlphanum hc), Text.fields, if_pos hc, hb]
      rfl
    | false =>
      have inside (d : Char) (hd : d.isAlphanum = false) {t f : List Char} {fs : List (List Char)}
          (ht : Text.fields Char.isAlphanum t = f :: fs) :
          Text.fields Char.isAlphanum (d :: t) = (d :: f) :: fs := by
        rw [Text.fields, hd, if_neg Bool.false_ne_true, ht]
      cases hn : isNameChar c with
      | true =>
        obtain ⟨f, fs, hs, hb⟩ := ih false
        refine ⟨c :: f, fs, inside c hc hs, ?_⟩
        rw [bridgeGaps_cons hn, bridgeGaps_cons hn, inside c hc hb]
      | false =>
        obtain ⟨f, fs, hs, hb⟩ := ih true
        refine ⟨c :: f, fs, inside c hc hs, ?_⟩
        cases inGap with
        | true => simpa [bridgeGaps, hn] using hb
        | false => simpa [bridgeGaps, hn] using inside '_' rfl hb

theorem gaps_bridgeGaps (s : List Char) :
    gaps (bridgeGaps false s) = (gaps s).map (bridgeGaps false) := by
  obtain ⟨f, fs, hs, hb⟩ := fields_bridgeGaps false s
  rw [gaps, gaps, hs, hb, List.tail_cons, List.tail_cons, List.map_dropLast]

theorem bridge_bridgeGaps (gap : List Char) : Bridge gap (bridgeGaps false gap) := by
  cases gap with
  | nil => exact ⟨Iff.rfl, fun _ => rfl, fun h => (h rfl).elim⟩
  | cons c gap =>
    refine ⟨?_, ?_, ?_⟩
    · have filled : bridgeGaps false (c :: gap) ≠ [] := by
        rw [bridgeGaps, if_neg Bool.false_ne_true]
        split_ifs <;> exact List.cons_ne_nil _ _
      exact ⟨fun h => (filled h).elim, fun h => (List.cons_ne_nil _ _ h).elim⟩
    · intro h
      apply bridgeGaps_eq_self
      intro d hd
      rw [h d hd]
      rfl
    · intro _ h
      rw [List.forall_mem_cons] at h
      rw [bridgeGaps, h.1, if_neg Bool.false_ne_true, if_neg Bool.false_ne_true,
        bridgeGaps_of_gap h.2]

/-- A text with letters, cut before the first and behind the last. -/
structure Framed (s before core behind : List Char) : Prop where
  eq : s = before ++ (core ++ behind)
  before : ∀ c ∈ before, c.isAlphanum = false
  behind : ∀ c ∈ behind, c.isAlphanum = false
  starts : ∃ c ∈ core.head?, c.isAlphanum = true
  ends : ∃ c ∈ core.getLast?, c.isAlphanum = true

theorem exists_framed (h : ∃ c ∈ s, c.isAlphanum = true) :
    ∃ before core behind, Framed s before core behind := by
  obtain ⟨before, behind, hs, hbefore, hbehind⟩ := Text.exists_strip (!·.isAlphanum) s
  obtain ⟨front, back⟩ := Text.strip_eq_self_iff.1 (Text.strip_strip (!·.isAlphanum) s)
  have core : Text.dropTrailing (!·.isAlphanum) (s.dropWhile (!·.isAlphanum)) ≠ [] := by
    intro none
    obtain ⟨c, hc, letter⟩ := h
    rw [hs, none, List.append_nil, List.mem_append] at hc
    rcases hc with hc | hc
    · simpa [letter] using hbefore c hc
    · simpa [letter] using hbehind c hc
  refine ⟨before, _, behind, by rw [← List.append_assoc, ← hs],
    fun c hc => by simpa using hbefore c hc, fun c hc => by simpa using hbehind c hc, ?_, ?_⟩
  · have first := List.head?_eq_some_head core
    exact ⟨_, first, by simpa using front _ first⟩
  · have last := List.getLast?_eq_some_getLast core
    exact ⟨_, last, by simpa using back _ last⟩

namespace Framed

variable {before core behind : List Char}

theorem exists_cons (h : Framed s before core behind) :
    ∃ c rest, core = c :: rest ∧ c.isAlphanum = true := by
  obtain ⟨c, hc, letter⟩ := h.starts
  cases core with
  | nil => cases hc
  | cons d rest =>
    obtain rfl : d = c := Option.some.inj hc
    exact ⟨d, rest, rfl, letter⟩

theorem exists_concat (h : Framed s before core behind) :
    ∃ front c, core = front ++ [c] ∧ c.isAlphanum = true := by
  obtain ⟨c, hc, letter⟩ := h.ends
  obtain ⟨front, rfl⟩ := List.getLast?_eq_some_iff.1 hc
  exact ⟨front, c, rfl, letter⟩

theorem letters_eq (h : Framed s before core behind) : letters s = letters core := by
  have none {t : List Char} (ht : ∀ c ∈ t, c.isAlphanum = false) :
      t.filter Char.isAlphanum = [] := by
    rw [List.filter_eq_nil_iff]
    intro c hc
    rw [ht c hc]
    exact Bool.false_ne_true
  rw [h.eq, letters, List.filter_append, List.filter_append, none h.before, none h.behind,
    List.nil_append, List.append_nil, letters]

theorem gaps_eq (h : Framed s before core behind) : gaps s = gaps core := by
  obtain ⟨c, rest, rfl, hc⟩ := h.exists_cons
  obtain ⟨front, d, hd, letter⟩ := h.exists_concat
  have first (t : List Char) : (Text.fields Char.isAlphanum (before ++ c :: t)).tail =
      Text.fields Char.isAlphanum t := by
    rw [Text.fields_append_sep h.before hc, List.tail_cons]
  have start : (Text.fields Char.isAlphanum (c :: rest)).tail =
      Text.fields Char.isAlphanum rest := by
    rw [Text.fields, if_pos hc, List.tail_cons]
  have last : Text.fields Char.isAlphanum behind = [behind] := Text.fields_eq_singleton h.behind
  rw [gaps, gaps, h.eq, List.cons_append, first, start]
  cases front with
  | nil =>
    obtain ⟨-, rfl⟩ := List.cons.inj hd
    rw [List.nil_append, last]
    rfl
  | cons _ inner =>
    have inside : rest = inner ++ [d] := (List.cons.inj hd).2
    rw [inside, List.append_assoc, List.singleton_append, Text.fields_append_cons letter,
      Text.fields_append_cons letter, last, List.dropLast_concat]
    exact List.dropLast_concat.symm

theorem bridgeGaps_eq (h : Framed s before core behind) :
    bridgeGaps false s =
      bridgeGaps false before ++ (bridgeGaps false core ++ bridgeGaps false behind) := by
  obtain ⟨c, rest, rfl, hc⟩ := h.exists_cons
  obtain ⟨front, d, hd, letter⟩ := h.exists_concat
  have ends (inGap : Bool) : endsInGap inGap (c :: rest) = false := by
    rw [hd, endsInGap, List.getLast?_concat, Option.map_some, Option.getD_some,
      isNameChar_of_isAlphanum letter]
    rfl
  have start (inGap : Bool) : bridgeGaps inGap (c :: rest) = bridgeGaps false (c :: rest) := by
    have first := isNameChar_of_isAlphanum hc
    rw [bridgeGaps_cons first, bridgeGaps_cons first]
  rw [h.eq, bridgeGaps_append, bridgeGaps_append, ends, start]

theorem nameOf (h : Framed s before core behind) : NameOf s (bridgeGaps false core) where
  letters_eq := by rw [letters_bridgeGaps, h.letters_eq]
  bridges := by
    rw [gaps_bridgeGaps, h.gaps_eq, List.forall₂_map_right_iff, List.forall₂_same]
    exact fun gap _ => bridge_bridgeGaps gap
  starts := by
    obtain ⟨c, rest, rfl, hc⟩ := h.exists_cons
    rw [bridgeGaps_cons (isNameChar_of_isAlphanum hc)]
    exact ⟨c, rfl, hc⟩
  ends := by
    obtain ⟨front, c, rfl, hc⟩ := h.exists_concat
    rw [bridgeGaps_append, bridgeGaps_cons (isNameChar_of_isAlphanum hc)]
    exact ⟨c, List.getLast?_concat, hc⟩

end Framed

theorem NameOf.ne_nil {name : List Char} (h : NameOf s name) : name ≠ [] := by
  rintro rfl
  obtain ⟨c, hc, -⟩ := h.starts
  cases hc

theorem NameOf.head_ne {name : List Char} (h : NameOf s name) :
    ∀ c ∈ name.head?, c ≠ '_' := by
  intro c hc
  obtain ⟨d, hd, letter⟩ := h.starts
  obtain rfl : c = d := Option.some.inj (hc.symm.trans hd)
  exact ne_underscore_of_isAlphanum letter

theorem NameOf.last_ne {name : List Char} (h : NameOf s name) :
    ∀ c ∈ name.getLast?, c ≠ '_' := by
  intro c hc
  obtain ⟨d, hd, letter⟩ := h.ends
  obtain rfl : c = d := Option.some.inj (hc.symm.trans hd)
  exact ne_underscore_of_isAlphanum letter

/-- Nothing is stripped of a name that neither starts nor ends with an underscore. -/
theorem stripUnderscores_eq_self (starts : ∀ c ∈ s.head?, c ≠ '_')
    (ends : ∀ c ∈ s.getLast?, c ≠ '_') : stripUnderscores s = s :=
  Text.strip_eq_self_iff.2 ⟨fun c hc => beq_eq_false_iff_ne.2 (starts c hc),
    fun c hc => beq_eq_false_iff_ne.2 (ends c hc)⟩

theorem eq_underscore_of_mem_bridgeGaps (h : ∀ c ∈ s, c.isAlphanum = false) :
    ∀ c ∈ bridgeGaps false s, c = '_' := by
  intro c hc
  apply eq_underscore (isNameChar_of_mem_bridgeGaps hc)
  by_contra letter
  have mem : c ∈ letters (bridgeGaps false s) := List.mem_filter.2 ⟨hc, by simpa using letter⟩
  rw [letters_bridgeGaps] at mem
  rw [h c (List.mem_filter.1 mem).1] at letter
  exact letter rfl

theorem stripUnderscores_bridgeGaps {before core behind : List Char}
    (h : Framed s before core behind) :
    stripUnderscores (bridgeGaps false s) = bridgeGaps false core := by
  have underscores {t : List Char} (ht : ∀ c ∈ t, c.isAlphanum = false) :
      ∀ c ∈ bridgeGaps false t, (c == '_') = true :=
    fun c hc => beq_iff_eq.2 (eq_underscore_of_mem_bridgeGaps ht c hc)
  have name := h.nameOf
  rw [h.bridgeGaps_eq]
  apply Text.strip_append name.ne_nil (underscores h.before) (underscores h.behind)
  · exact fun c hc => beq_eq_false_iff_ne.2 (name.head_ne c hc)
  · exact fun c hc => beq_eq_false_iff_ne.2 (name.last_ne c hc)

theorem stripUnderscores_of_no_letters (h : ∀ c ∈ s, c.isAlphanum = false) :
    stripUnderscores (bridgeGaps false s) = [] := by
  rw [stripUnderscores, Text.dropTrailing_eq_nil_iff]
  intro c hc
  exact beq_iff_eq.2 (eq_underscore_of_mem_bridgeGaps h c ((List.dropWhile_suffix _).subset hc))

theorem isAlphanum_of_isBlank (h : Text.isBlank c = true) : c.isAlphanum = false := by
  by_contra letter
  rw [Bool.not_eq_false] at letter
  rw [isBlank_of_isNameChar (isNameChar_of_isAlphanum letter)] at h
  cases h

/-- Blanks at the ends are in no gap, so the text that is trimmed first has the same name. -/
theorem stripUnderscores_bridgeGaps_trim (s : List Char) :
    stripUnderscores (bridgeGaps false (Text.trim s)) = stripUnderscores (bridgeGaps false s) := by
  by_cases h : ∃ c ∈ Text.trim s, c.isAlphanum = true
  · obtain ⟨before, core, behind, framed⟩ := exists_framed h
    obtain ⟨front, back, hs, hfront, hback⟩ := Text.exists_trim s
    have whole : Framed s (front ++ before) core (behind ++ back) := by
      refine ⟨?_, ?_, ?_, framed.starts, framed.ends⟩
      · calc s = front ++ Text.trim s ++ back := hs
          _ = front ++ (before ++ (core ++ behind)) ++ back := by rw [← framed.eq]
          _ = front ++ before ++ (core ++ (behind ++ back)) := by simp only [List.append_assoc]
      · exact List.forall_mem_append.2
          ⟨fun c hc => isAlphanum_of_isBlank (hfront c hc), framed.before⟩
      · exact List.forall_mem_append.2
          ⟨framed.behind, fun c hc => isAlphanum_of_isBlank (hback c hc)⟩
    rw [stripUnderscores_bridgeGaps framed, stripUnderscores_bridgeGaps whole]
  · have inside : ∀ c ∈ Text.trim s, c.isAlphanum = false := by simpa using h
    have none : ∀ c ∈ s, c.isAlphanum = false := by
      intro c hc
      cases hb : Text.isBlank c with
      | true => exact isAlphanum_of_isBlank hb
      | false => exact inside c (Text.mem_trim_of_mem hc hb)
    rw [stripUnderscores_of_no_letters inside, stripUnderscores_of_no_letters none]

/-- Trimming the text first makes no difference. -/
theorem sanitize_eq (raw fallback : String) : sanitize raw fallback =
    if (stripUnderscores (bridgeGaps false raw.toList)).isEmpty then fallback
    else String.ofList (stripUnderscores (bridgeGaps false raw.toList)) := by
  rw [sanitize, stripUnderscores_bridgeGaps_trim]

theorem sanitize_of_no_letters {raw : String} (h : ∀ c ∈ raw.toList, c.isAlphanum = false)
    (fallback : String) : sanitize raw fallback = fallback := by
  rw [sanitize_eq, stripUnderscores_of_no_letters h, List.isEmpty_nil, if_pos rfl]

theorem sanitize_of_ne_nil {raw : String} {name : List Char} (hne : name ≠ [])
    (h : stripUnderscores (bridgeGaps false raw.toList) = name) (fallback : String) :
    sanitize raw fallback = String.ofList name := by
  rw [sanitize_eq, h, if_neg (by simpa using hne)]

theorem sanitize_eq_self {name : String} (h : isSafe name = true)
    (starts : name.toList.head? ≠ some '_') (ends : name.toList.getLast? ≠ some '_')
    (fallback : String) : sanitize name fallback = name := by
  simp only [isSafe, Bool.and_eq_true, Bool.not_eq_true', List.isEmpty_eq_false_iff,
    List.all_eq_true] at h
  have kept : stripUnderscores (bridgeGaps false name.toList) = name.toList := by
    rw [bridgeGaps_eq_self h.2]
    apply stripUnderscores_eq_self
    · rintro c hc rfl
      exact starts hc
    · rintro c hc rfl
      exact ends hc
  rw [sanitize_of_ne_nil h.1 kept, String.ofList_toList]

theorem exists_sanitize_eq {raw : String} (h : ∃ c ∈ raw.toList, c.isAlphanum = true) :
    ∃ name, NameOf raw.toList name ∧ isSafe (String.ofList name) = true ∧
      ∀ fallback, sanitize raw fallback = String.ofList name := by
  obtain ⟨before, core, behind, framed⟩ := exists_framed h
  have name := framed.nameOf
  refine ⟨_, name, ?_, sanitize_of_ne_nil name.ne_nil (stripUnderscores_bridgeGaps framed)⟩
  simp only [isSafe, String.toList_ofList, Bool.and_eq_true, Bool.not_eq_true',
    List.isEmpty_eq_false_iff, List.all_eq_true]
  exact ⟨name.ne_nil, fun c hc => isNameChar_of_mem_bridgeGaps hc⟩

/--
A text without letters and digits gives the fallback. Any other keeps its letters and digits in a
name that passes the check and is not changed again, with each gap bridged. Only a text that is not
safe, or has an underscore at an end, is changed.
-/
theorem sanitize_keeps_letters (raw fallback : String) :
    ((∀ c ∈ raw.toList, c.isAlphanum = false) → sanitize raw fallback = fallback) ∧
    ((∃ c ∈ raw.toList, c.isAlphanum = true) →
      NameOf raw.toList (sanitize raw fallback).toList ∧
      isSafe (sanitize raw fallback) = true ∧ check (sanitize raw fallback) = .ok () ∧
      ∀ other, sanitize (sanitize raw fallback) other = sanitize raw fallback) ∧
    (sanitize raw fallback ≠ raw →
      isSafe raw = false ∨ raw.toList.head? = some '_' ∨ raw.toList.getLast? = some '_') := by
  refine ⟨fun h => sanitize_of_no_letters h fallback, fun h => ?_, fun changed => ?_⟩
  · obtain ⟨name, made, safe, he⟩ := exists_sanitize_eq h
    rw [he, String.toList_ofList]
    refine ⟨made, safe, check_of_isSafe safe, fun other => sanitize_eq_self safe ?_ ?_ other⟩
    · rw [String.toList_ofList]
      exact fun hc => made.head_ne _ hc rfl
    · rw [String.toList_ofList]
      exact fun hc => made.last_ne _ hc rfl
  · by_contra fit
    simp only [not_or, Bool.not_eq_false] at fit
    exact changed (sanitize_eq_self fit.1 fit.2.1 fit.2.2 fallback)

/-- A text with blanks and letters that are not of ASCII around its gaps, one of which is mixed. -/
def untidyTitle : String := " _né__1 ($)_b "

theorem sanitize_keeps_letters_untidyTitle :
    (∀ c ∈ "* é".toList, c.isAlphanum = false) ∧ sanitize "* é" "field" = "field" ∧
      (∃ c ∈ untidyTitle.toList, c.isAlphanum = true) ∧
      sanitize untidyTitle "field" = "n___1__b" ∧
      NameOf untidyTitle.toList "n___1__b".toList ∧
      check "n___1__b" = .ok () ∧
      sanitize "n___1__b" "other" = "n___1__b" ∧
      sanitize "_a" "field" ≠ "_a" ∧ "_a".toList.head? = some '_' := by
  have unlettered : "* é".toList.all (!·.isAlphanum) = true := by decide
  have none : ∀ c ∈ "* é".toList, c.isAlphanum = false :=
    fun c hc => by simpa using List.all_eq_true.1 unlettered c hc
  have lettered : ∃ c ∈ untidyTitle.toList, c.isAlphanum = true :=
    List.any_eq_true.1 (by decide)
  have name : sanitize untidyTitle "field" = "n___1__b" := by decide
  have stripped : sanitize "_a" "field" ≠ "_a" := by decide
  have made := (sanitize_keeps_letters untidyTitle "field").2.1 lettered
  rw [name] at made
  have ends := (sanitize_keeps_letters "_a" "field").2.2 stripped
  have safe : isSafe "_a" ≠ false := by decide
  have last : "_a".toList.getLast? ≠ some '_' := by decide
  exact ⟨none, (sanitize_keeps_letters "* é" "field").1 none, lettered, name, made.1, made.2.2.1,
    made.2.2.2 "other", stripped, (ends.resolve_left safe).resolve_right last⟩

end PageHarvest.FieldName
