import PageHarvest.Proofs.Attrs.Grammar

namespace PageHarvest.Attrs

open Text (WholeRun wholeRun_takeWhile)

variable {rest s : List Char}

theorem scanValue_of_not_quote (h : ∀ c ∈ s.head?, isQuote c = false) (offset : Nat) :
    scanValue offset s = .ok (s.takeWhile (!isSeparator ·),
      offset + Text.byteLength (s.takeWhile (!isSeparator ·)), s.dropWhile (!isSeparator ·)) := by
  cases s with
  | nil => rfl
  | cons c s => rw [scanValue, if_neg (Bool.eq_false_iff.1 (h c rfl))]

theorem utf8Size_of_isQuote {c : Char} (h : isQuote c = true) : c.utf8Size = 1 := by
  simp only [isQuote, Bool.or_eq_true, beq_iff_eq] at h
  obtain rfl | rfl := h <;> rfl

theorem scanValue_of_fits {w : Written} (h : w.Fits rest) (offset : Nat) :
    scanValue offset (w.text ++ rest) =
      .ok (w.value, offset + Text.byteLength w.text, rest) := by
  cases h with
  | @quoted quote value _ hq hv =>
    have run := Written.Fits.wholeRun_quoted hv rest
    have size : Text.byteLength (Written.quoted quote value).text = Text.byteLength value + 2 := by
      simp only [Written.text, Text.byteLength, Text.byteLength_append, utf8Size_of_isQuote hq]
      omega
    rw [size]
    simp only [Written.text, List.cons_append, List.append_assoc, List.nil_append, scanValue, hq,
      if_true, run.dropWhile_eq, run.takeWhile_eq, Written.value, Nat.add_assoc]
  | @bare value _ hq hv hr he =>
    have run := Written.Fits.wholeRun_bare hv hr
    have head : ∀ c ∈ (value ++ rest).head?, isQuote c = false := by
      cases value with
      | nil =>
        intro c hc
        rw [he rfl c hc]
        rfl
      | cons first value => exact hq
    have read := scanValue_of_not_quote head offset
    rw [run.takeWhile_eq, run.dropWhile_eq] at read
    exact read

theorem Segment.byteLength_text (g : Segment) : Text.byteLength g.text =
    Text.byteLength g.key + Text.byteLength g.beforeEquals + 1 +
      Text.byteLength g.afterEquals + Text.byteLength g.value.text := by
  have size : '='.utf8Size = 1 := rfl
  simp only [text, Text.byteLength_append, Text.byteLength, size]
  omega

theorem scanPair_of_fits {g : Segment} (h : g.Fits rest) (offset : Nat) :
    scanPair offset (g.text ++ rest) = .ok (g.pair, offset + Text.byteLength g.text, rest) := by
  have read := scanValue_of_fits h.value
    (offset + Text.byteLength g.key + Text.byteLength g.beforeEquals + 1 +
      Text.byteLength g.afterEquals)
  rw [Segment.text_append, g.byteLength_text]
  simp only [scanPair, h.wholeRun_key.takeWhile_eq, h.wholeRun_key.dropWhile_eq,
    h.wholeRun_beforeEquals.takeWhile_eq, h.wholeRun_beforeEquals.dropWhile_eq,
    h.wholeRun_afterEquals.takeWhile_eq, h.wholeRun_afterEquals.dropWhile_eq, read, Segment.pair]
  simp only [Nat.add_assoc]

/-- Scanning step by step, without the proofs that it ends. -/
theorem scan_eq (offset : Nat) (s : List Char) : scan offset s =
    match s.dropWhile isSeparator with
    | [] => .ok []
    | c :: r =>
      if c = '=' then .error (.emptyKey (offset + Text.byteLength (s.takeWhile isSeparator)))
      else if !isKeyChar c then
        .error (.unexpectedChar c (offset + Text.byteLength (s.takeWhile isSeparator)))
      else
        match scanPair (offset + Text.byteLength (s.takeWhile isSeparator)) (c :: r) with
        | .error e => .error e
        | .ok (pair, after, rest) => (scan after rest).map (pair :: ·) := by
  rw [scan]
  split
  · rename_i hd
    simp only [hd]
  · rename_i hd
    simp only [hd]
    split_ifs
    · rfl
    · rfl
    · split
      · simp_all
      · rename_i hp
        simp only [hp]
        split <;> simp_all [Except.map]

theorem scan_of_key {c : Char} {r : List Char} (hd : s.dropWhile isSeparator = c :: r)
    (hk : isKeyChar c = true) (offset : Nat) : scan offset s =
      (scanPair (offset + Text.byteLength (s.takeWhile isSeparator)) (c :: r)).bind
        fun (pair, after, rest) => (scan after rest).map (pair :: ·) := by
  have hc : c ≠ '=' := by
    rintro rfl
    cases hk
  rw [scan_eq, hd]
  simp only [hc, if_false, hk, Bool.not_true, Bool.false_eq_true]
  cases scanPair (offset + Text.byteLength (s.takeWhile isSeparator)) (c :: r) <;> rfl

theorem scan_of_separators (h : ∀ c ∈ s, isSeparator c = true) (offset : Nat) :
    scan offset s = .ok [] := by
  rw [scan_eq, List.dropWhile_eq_nil_iff.2 h]

theorem scan_segment {separators : List Char} {g : Segment}
    (hs : ∀ c ∈ separators, isSeparator c = true) (hg : g.Fits rest) (offset : Nat) :
    scan offset (separators ++ (g.text ++ rest)) =
      (scan (offset + Text.byteLength (separators ++ g.text)) rest).map (g.pair :: ·) := by
  have run := hg.wholeRun_separators hs
  obtain ⟨first, tail, ht, hk⟩ := hg.exists_cons
  have hd : (separators ++ (g.text ++ rest)).dropWhile isSeparator = first :: tail := by
    rw [run.dropWhile_eq, ht]
  rw [scan_of_key hd hk, run.takeWhile_eq, ← ht, scanPair_of_fits hg, Text.byteLength_append,
    Nat.add_assoc]
  rfl

theorem scan_text {cut : Cut} (h : cut.Valid) (offset : Nat) :
    scan offset cut.text = .ok cut.pairs := by
  induction h generalizing offset with
  | stop hs => exact scan_of_separators hs offset
  | pair hs hg hr ih =>
    rw [Cut.text, scan_segment hs hg, ih, Cut.pairs]
    rfl

theorem fits_takeWhile_separator (hq : ∀ c ∈ s.head?, isQuote c = false)
    (hb : ∀ c ∈ s.head?, Text.isBlank c = false) :
    (Written.bare (s.takeWhile (!isSeparator ·))).Fits (s.dropWhile (!isSeparator ·)) := by
  have run := wholeRun_takeWhile (!isSeparator ·) s
  have whole := List.takeWhile_append_dropWhile (p := (!isSeparator ·)) (l := s)
  refine .bare ?_ ?_ ?_ ?_
  · intro c hc
    refine hq c ?_
    rw [← whole]
    exact List.mem_head?_append_of_mem_head? hc
  · intro c hc
    simpa using run.inside c hc
  · intro c hc
    simpa using run.boundary c hc
  · intro hn c hc
    rw [hn, List.nil_append] at whole
    have separates : isSeparator c = true := by simpa using run.boundary c hc
    rw [whole] at hc
    rw [isSeparator, hb c hc, Bool.false_or, beq_iff_eq] at separates
    exact separates

theorem fits_takeWhile_quote {quote closing : Char} (hq : isQuote quote = true)
    (hd : s.dropWhile (· != quote) = closing :: rest) :
    (Written.quoted quote (s.takeWhile (· != quote))).Fits rest ∧
      (Written.quoted quote (s.takeWhile (· != quote))).text ++ rest = quote :: s := by
  have run := wholeRun_takeWhile (· != quote) s
  have whole := List.takeWhile_append_dropWhile (p := (· != quote)) (l := s)
  rw [hd] at run whole
  have hc : closing = quote := by simpa using run.boundary closing rfl
  refine ⟨.quoted hq ?_, ?_⟩
  · intro hm
    simpa using run.inside quote hm
  · rw [hc] at whole
    simp [Written.text, whole]

theorem fits_of_scanValue {offset after : Nat} {value : List Char}
    (h : scanValue offset s = .ok (value, after, rest))
    (hb : ∀ c ∈ s.head?, Text.isBlank c = false) :
    ∃ w : Written, w.Fits rest ∧ w.value = value ∧ w.text ++ rest = s := by
  by_cases hq : ∀ c ∈ s.head?, isQuote c = false
  · rw [scanValue_of_not_quote hq, Except.ok.injEq, Prod.mk.injEq, Prod.mk.injEq] at h
    obtain ⟨rfl, -, rfl⟩ := h
    exact ⟨_, fits_takeWhile_separator hq hb, rfl, List.takeWhile_append_dropWhile⟩
  · push Not at hq
    obtain ⟨quote, hc, hq⟩ := hq
    rw [ne_eq, Bool.not_eq_false] at hq
    obtain ⟨tail, rfl⟩ := List.head?_eq_some_iff.1 hc
    rw [scanValue, if_pos hq] at h
    split at h
    · cases h
    · rename_i closing behind hd
      rw [Except.ok.injEq, Prod.mk.injEq, Prod.mk.injEq] at h
      obtain ⟨rfl, -, rfl⟩ := h
      obtain ⟨hw, ht⟩ := fits_takeWhile_quote hq hd
      exact ⟨_, hw, rfl, ht⟩

theorem fits_of_scanPair {offset after : Nat} {pair : AttrPair}
    (h : scanPair offset s = .ok (pair, after, rest)) (hk : s.takeWhile isKeyChar ≠ []) :
    ∃ g : Segment, g.Fits rest ∧ g.pair = pair ∧ g.text ++ rest = s := by
  have key := wholeRun_takeWhile isKeyChar s
  have before := wholeRun_takeWhile Text.isBlank (s.dropWhile isKeyChar)
  have wholeKey := List.takeWhile_append_dropWhile (p := isKeyChar) (l := s)
  have wholeBefore :=
    List.takeWhile_append_dropWhile (p := Text.isBlank) (l := s.dropWhile isKeyChar)
  simp only [scanPair] at h
  split at h
  · rename_i r hr
    have behind := wholeRun_takeWhile Text.isBlank r
    have wholeBehind := List.takeWhile_append_dropWhile (p := Text.isBlank) (l := r)
    split at h
    · rename_i value after' rest' hv
      rw [Except.ok.injEq, Prod.mk.injEq, Prod.mk.injEq] at h
      obtain ⟨rfl, -, rfl⟩ := h
      obtain ⟨w, hw, rfl, ht⟩ := fits_of_scanValue hv behind.boundary
      refine ⟨⟨_, _, _, w⟩, ⟨hk, key.inside, before.inside, behind.inside, hw⟩, rfl, ?_⟩
      rw [Segment.text_append, ht, wholeBehind, ← hr, wholeBefore, wholeKey]
    · cases h
  · cases h

theorem valid_of_scan {offset : Nat} {pairs : List AttrPair} (h : scan offset s = .ok pairs) :
    ∃ cut : Cut, cut.Valid ∧ cut.text = s ∧ cut.pairs = pairs := by
  fun_induction scan offset s generalizing pairs with
  | case1 offset s hd =>
    cases h
    exact ⟨.stop s, .stop (List.dropWhile_eq_nil_iff.1 hd), rfl, rfl⟩
  | case2 => cases h
  | case3 => cases h
  | case4 => cases h
  | case5 offset s start c r hd hc hk pair after rest hp pairs' hr =>
    rename_i ih
    cases h
    have run := wholeRun_takeWhile isSeparator s
    have whole := List.takeWhile_append_dropWhile (p := isSeparator) (l := s)
    have key : (c :: r).takeWhile isKeyChar ≠ [] := by
      rw [List.takeWhile_cons, if_pos (by simpa using hk)]
      exact List.cons_ne_nil _ _
    obtain ⟨g, hg, rfl, ht⟩ := fits_of_scanPair hp key
    obtain ⟨cut, hv, rfl, rfl⟩ := ih hr
    refine ⟨.pair (s.takeWhile isSeparator) g cut, .pair run.inside hg hv, ?_, rfl⟩
    rw [Cut.text, ht, ← hd, whole]
  | case6 => cases h

theorem isKeyChar_of_tokenizeAttrs {attrs : String} {pairs : List AttrPair}
    (h : tokenizeAttrs attrs = .ok pairs) :
    ∀ pair ∈ pairs, ∀ c ∈ pair.key.toList, isKeyChar c = true := by
  obtain ⟨cut, hv, -, rfl⟩ := valid_of_scan h
  exact hv.isKeyChar_of_mem

/-- A pair to be written with its value in quotes, with separators before it. -/
structure Entry where
  separators : List Char
  pair : AttrPair
  quote : Char
deriving DecidableEq, Repr

namespace Entry

def text (e : Entry) : List Char :=
  e.separators ++ e.pair.key.toList ++ '=' :: e.quote :: (e.pair.value.toList ++ [e.quote])

/-- The key can be read, and the value does not hold the quote that is chosen for it. -/
structure Fits (e : Entry) : Prop where
  separators : ∀ c ∈ e.separators, isSeparator c = true
  key_ne_nil : e.pair.key.toList ≠ []
  key : ∀ c ∈ e.pair.key.toList, isKeyChar c = true
  quote : isQuote e.quote = true
  value : e.quote ∉ e.pair.value.toList

def segment (e : Entry) : Segment :=
  ⟨e.pair.key.toList, [], [], .quoted e.quote e.pair.value.toList⟩

theorem segment_fits {e : Entry} (h : e.Fits) (rest : List Char) : e.segment.Fits rest where
  key_ne_nil := h.key_ne_nil
  key := h.key
  beforeEquals := nofun
  afterEquals := nofun
  value := .quoted h.quote h.value

theorem segment_text (e : Entry) : e.separators ++ e.segment.text = e.text := by
  simp [segment, Segment.text, Written.text, text]

theorem segment_pair (e : Entry) : e.segment.pair = e.pair := by
  simp [segment, Segment.pair, Written.value]

end Entry

def cutOf (entries : List Entry) (last : List Char) : Cut :=
  entries.foldr (fun e cut => .pair e.separators e.segment cut) (.stop last)

theorem cutOf_text (entries : List Entry) (last : List Char) :
    (cutOf entries last).text = entries.flatMap Entry.text ++ last := by
  induction entries with
  | nil => rfl
  | cons e entries ih =>
    have step : (cutOf (e :: entries) last).text =
        e.separators ++ (e.segment.text ++ (cutOf entries last).text) := rfl
    rw [step, ih, ← List.append_assoc, e.segment_text, List.flatMap_cons, List.append_assoc]

theorem cutOf_pairs (entries : List Entry) (last : List Char) :
    (cutOf entries last).pairs = entries.map Entry.pair := by
  induction entries with
  | nil => rfl
  | cons e entries ih =>
    have step : (cutOf (e :: entries) last).pairs =
        e.segment.pair :: (cutOf entries last).pairs := rfl
    rw [step, ih, e.segment_pair, List.map_cons]

theorem cutOf_valid {entries : List Entry} {last : List Char} (h : ∀ e ∈ entries, e.Fits)
    (hl : ∀ c ∈ last, isSeparator c = true) : (cutOf entries last).Valid := by
  induction entries with
  | nil => exact .stop hl
  | cons e entries ih =>
    rw [List.forall_mem_cons] at h
    exact .pair h.1.separators (e.segment_fits h.1 _) (ih h.2)

/--
Exactly the texts with a cut are read, as the pairs of that cut, and there is one cut at most. So
whatever pairs are written in quotes that their values do not hold, and whatever separators stand
around them, or none, the text is read as these pairs.
-/
theorem tokenizeAttrs_exact :
    (∀ attrs pairs, tokenizeAttrs attrs = .ok pairs ↔
      ∃ cut : Cut, cut.Valid ∧ cut.text = attrs.toList ∧ cut.pairs = pairs) ∧
    (∀ cut cut' : Cut, cut.Valid → cut'.Valid → cut.text = cut'.text → cut = cut') ∧
    ∀ (entries : List Entry) (last : List Char), (∀ e ∈ entries, e.Fits) →
      (∀ c ∈ last, isSeparator c = true) →
      tokenizeAttrs (String.ofList (entries.flatMap Entry.text ++ last)) =
        .ok (entries.map Entry.pair) := by
  refine ⟨?_, ?_, ?_⟩
  · intro attrs pairs
    constructor
    · exact valid_of_scan
    · rintro ⟨cut, hv, ht, rfl⟩
      rw [tokenizeAttrs, ← ht]
      exact scan_text hv 0
  · intro cut cut' h h' ht
    exact h.unique h' ht
  · intro entries last h hl
    rw [tokenizeAttrs, String.toList_ofList, ← cutOf_text, ← cutOf_pairs entries last]
    exact scan_text (cutOf_valid h hl) 0

/-- Two pairs that touch, and each value holds the quote that the other one is written in. -/
theorem tokenizeAttrs_exact_touching :
    (∀ e ∈ [Entry.mk [','] ⟨"data-x", "a=\"b\""⟩ '\'', Entry.mk [] ⟨"y", "it's"⟩ '"'], e.Fits) ∧
      tokenizeAttrs ",data-x='a=\"b\"'y=\"it's\"" =
        .ok [⟨"data-x", "a=\"b\""⟩, ⟨"y", "it's"⟩] := by
  have first : (Entry.mk [','] ⟨"data-x", "a=\"b\""⟩ '\'').Fits := by
    constructor <;> simp <;> decide
  have second : (Entry.mk [] ⟨"y", "it's"⟩ '"').Fits := by
    constructor <;> simp <;> decide
  have fits : ∀ e ∈ [Entry.mk [','] ⟨"data-x", "a=\"b\""⟩ '\'', Entry.mk [] ⟨"y", "it's"⟩ '"'],
      e.Fits := List.forall_mem_cons.2 ⟨first, List.forall_mem_singleton.2 second⟩
  have text : [Entry.mk [','] ⟨"data-x", "a=\"b\""⟩ '\'', Entry.mk [] ⟨"y", "it's"⟩ '"'].flatMap
      Entry.text ++ [] = ",data-x='a=\"b\"'y=\"it's\"".toList := by simp [Entry.text]
  have pairs := tokenizeAttrs_exact.2.2 _ [] fits nofun
  rw [text, String.ofList_toList] at pairs
  exact ⟨fits, pairs⟩

end PageHarvest.Attrs
