import PageHarvest.Descriptor.Selector
import PageHarvest.Proofs.Css.Compound

namespace PageHarvest.AttrPair

open Css

/-- A bracket behind the text starts a token of its own. -/
def Complete (before : List Char) : Prop :=
  ∀ rest, tokens (before ++ '[' :: rest) = tokens before ++ tokens ('[' :: rest)

theorem complete_nil : Complete [] := by
  intro rest
  rw [tokens_nil, List.nil_append, List.nil_append]

/--
The text is a test for exactly this value: the only selector where it stands alone, and, wherever it
stands, read up to its end and no further.
-/
structure StandsFor (part : List Char) (name value : String) : Prop where
  alone : readSelectors (String.ofList part) = .ok [.compound [.attribute (equalTest name value)]]
  anywhere : ∀ before rest, Complete before →
    tokens (before ++ (part ++ rest)) = tokens before ++ (testTokens name value ++ tokens rest)

variable {v tail : List Char} {c : Char}

theorem escapeQuotes_of_ne (h : c ≠ '"') (v : List Char) :
    escapeQuotes (c :: v) = c :: escapeQuotes v := by
  rw [escapeQuotes]
  exact h

/-- A character that is no backslash and ends no line is read as one, the quote included. -/
theorem readQuoted_escapeQuotes_cons (hb : c ≠ '\\') (hn : isNewline c = false)
    (v tail : List Char) :
    readQuoted '"' (escapeQuotes (c :: v) ++ tail) =
      ((if c == '\x00' then replacement else c) :: (readQuoted '"' (escapeQuotes v ++ tail)).1,
        (readQuoted '"' (escapeQuotes v ++ tail)).2) := by
  by_cases hq : c = '"'
  · subst hq
    rw [escapeQuotes, List.cons_append, List.cons_append, readQuoted_escaped rfl rfl (by decide)]
    rfl
  · rw [escapeQuotes_of_ne hq, List.cons_append, readQuoted_char hq hb hn]

theorem readQuoted_escapeQuotes (h : ∀ c ∈ v, isBare c = true) (tail : List Char) :
    readQuoted '"' (escapeQuotes v ++ '"' :: tail) = (v, tail, false) := by
  induction v with
  | nil => exact readQuoted_quote tail
  | cons c v ih =>
    rw [List.forall_mem_cons] at h
    obtain ⟨hc, h⟩ := h
    simp only [isBare, Bool.and_eq_true, bne_iff_ne, Bool.not_eq_true'] at hc
    obtain ⟨⟨hb, hz⟩, hn⟩ := hc
    rw [readQuoted_escapeQuotes_cons hb hn, ih h]
    simp [hz]

theorem drop_hexDigits (n : Nat) (v tail : List Char) :
    ∃ w, (escapeQuotes v ++ '"' :: tail).drop
        (((escapeQuotes v ++ '"' :: tail).take n).takeWhile isHexDigit).length =
          escapeQuotes w ++ '"' :: tail ∧ w.length ≤ v.length := by
  induction v generalizing n with
  | nil =>
    refine ⟨[], ?_, Nat.le_refl _⟩
    cases n <;> rfl
  | cons c v ih =>
    by_cases hq : c = '"'
    · subst hq
      refine ⟨'"' :: v, ?_, Nat.le_refl _⟩
      cases n <;> rfl
    · rw [escapeQuotes_of_ne hq, List.cons_append]
      by_cases hx : 0 < n ∧ isHexDigit c = true
      · obtain ⟨hn, hx⟩ := hx
        obtain ⟨n, rfl⟩ := Nat.exists_eq_add_one_of_ne_zero (Nat.pos_iff_ne_zero.1 hn)
        obtain ⟨w, hw, hl⟩ := ih n
        refine ⟨w, ?_, Nat.le_succ_of_le hl⟩
        rwa [List.take_succ_cons, List.takeWhile_cons, if_pos hx, List.length_cons,
          List.drop_succ_cons]
      · refine ⟨c :: v, ?_, Nat.le_refl _⟩
        have none : ((c :: (escapeQuotes v ++ '"' :: tail)).take n).takeWhile isHexDigit = [] := by
          cases n with
          | zero => rfl
          | succ n =>
            have hc : isHexDigit c = false := by simpa using hx
            simp [hc]
        rw [none, escapeQuotes_of_ne hq]
        rfl

theorem dropNewline_cons {s : List Char} (h : c = '\r' → s.head? ≠ some '\n') :
    dropNewline (c :: s) = if isNewline c then s else c :: s := by
  unfold dropNewline
  split
  · rename_i he
    cases he
    exact (h rfl rfl).elim
  · rename_i he
    cases he
    rfl
  · rename_i he
    cases he

theorem head_escapeQuotes_ne {d : Char} (h : v.head? ≠ some d) (hq : d ≠ '"') (hb : d ≠ '\\')
    (tail : List Char) : (escapeQuotes v ++ '"' :: tail).head? ≠ some d := by
  cases v with
  | nil => exact fun he => hq (Option.some.inj he).symm
  | cons c v =>
    by_cases hc : c = '"'
    · subst hc
      exact fun he => hb (Option.some.inj he).symm
    · rw [escapeQuotes_of_ne hc]
      exact h

theorem dropNewline_escapeQuotes (v tail : List Char) :
    dropNewline (escapeQuotes v ++ '"' :: tail) = escapeQuotes (dropNewline v) ++ '"' :: tail := by
  cases v with
  | nil => rfl
  | cons c v =>
    by_cases hq : c = '"'
    · subst hq
      rfl
    · by_cases hp : c = '\r' ∧ v.head? = some '\n'
      · obtain ⟨rfl, hv⟩ := hp
        obtain ⟨v, rfl⟩ := List.head?_eq_some_iff.1 hv
        rfl
      · rw [not_and] at hp
        rw [escapeQuotes_of_ne hq, List.cons_append, dropNewline_cons hp, dropNewline_cons]
        · split_ifs
          · rfl
          · rw [escapeQuotes_of_ne hq, List.cons_append]
        · intro hc
          exact head_escapeQuotes_ne (hp hc) (by decide) (by decide) tail

theorem dropOneSpace_escapeQuotes (v tail : List Char) :
    dropOneSpace (escapeQuotes v ++ '"' :: tail) =
      escapeQuotes (dropOneSpace v) ++ '"' :: tail := by
  cases v with
  | nil => rfl
  | cons c v =>
    by_cases hq : c = '"'
    · subst hq
      rfl
    · have line := dropNewline_escapeQuotes (c :: v) tail
      rw [escapeQuotes_of_ne hq, List.cons_append] at line ⊢
      rw [dropOneSpace, dropOneSpace, line]
      split_ifs <;> rfl

theorem rest_of_escape {d : Char} (hd : d ≠ '"') (v tail : List Char) :
    ∃ w, (readEscape (escapeQuotes (d :: v) ++ '"' :: tail)).2 = escapeQuotes w ++ '"' :: tail ∧
      w.length ≤ v.length := by
  rw [escapeQuotes_of_ne hd, List.cons_append]
  by_cases hx : isHexDigit d = true
  · obtain ⟨w, hw, hl⟩ := drop_hexDigits 5 v tail
    refine ⟨dropOneSpace w, ?_, Nat.le_trans (length_dropOneSpace_le w) hl⟩
    rw [readEscape, if_pos hx]
    dsimp only
    rw [List.take_succ_cons, List.takeWhile_cons, if_pos hx, List.length_cons,
      List.drop_succ_cons, hw, dropOneSpace_escapeQuotes]
  · refine ⟨v, ?_, Nat.le_refl _⟩
    rw [readEscape, if_neg hx]
    split_ifs <;> rfl

theorem exists_of_cons_eq {α β : Type} {a : α} {p : List α × β} {l : List α} {b : β}
    (h : (a :: p.1, p.2) = (l, b)) : ∃ l', l = a :: l' ∧ p = (l', b) := by
  cases h
  exact ⟨p.1, rfl, rfl⟩

theorem exists_of_readQuoted_cons {text rest : List Char} (hb : c ≠ '\\')
    (h : readQuoted '"' (escapeQuotes (c :: v) ++ tail) = (text, rest, false)) :
    isNewline c = false ∧ ∃ text', text = (if c == '\x00' then replacement else c) :: text' ∧
      readQuoted '"' (escapeQuotes v ++ tail) = (text', rest, false) := by
  by_cases hn : isNewline c = true
  · have hq : c ≠ '"' := ne_of_holds hn rfl
    rw [escapeQuotes_of_ne hq, List.cons_append, readQuoted_newline hn] at h
    cases h
  · rw [Bool.not_eq_true] at hn
    rw [readQuoted_escapeQuotes_cons hb hn] at h
    exact ⟨hn, exists_of_cons_eq h⟩

/-- An escape in the value costs at least one character of what is read. -/
theorem length_of_readQuoted_backslash {text rest : List Char} (hr : rest ≠ [])
    (ih : ∀ w text, w.length ≤ v.length →
      readQuoted '"' (escapeQuotes w ++ ['"', ']']) = (text, rest, false) →
        text.length ≤ w.length)
    (h : readQuoted '"' ('\\' :: (escapeQuotes v ++ ['"', ']'])) = (text, rest, false)) :
    text.length ≤ v.length := by
  cases v with
  | nil =>
    -- the quote that should close the text is escaped, and nothing else closes it
    have unclosed : readQuoted '"' [']'] = ([']'], [], false) := by
      rw [readQuoted_char (by decide) (by decide) rfl, readQuoted]
      rfl
    rw [escapeQuotes, List.nil_append, readQuoted_escaped rfl rfl (by decide), unclosed] at h
    cases h
    exact (hr rfl).elim
  | cons d v =>
    by_cases hq : d = '"'
    · subst hq
      -- the backslash before the quote is escaped, and the quote closes the text
      rw [escapeQuotes, List.cons_append, List.cons_append, readQuoted_escaped rfl rfl (by decide),
        readQuoted_quote] at h
      cases h
      simp
    · by_cases hn : isNewline d = true
      · rw [readQuoted_continued (by rw [escapeQuotes_of_ne hq]; exact hn),
          dropNewline_escapeQuotes] at h
        have hl := length_dropNewline_le (d :: v)
        exact Nat.le_trans (ih _ text hl h) hl
      · have hs : startsWithNewline (escapeQuotes (d :: v) ++ ['"', ']']) = false := by
          rw [escapeQuotes_of_ne hq]
          simpa [startsWithNewline] using hn
        rw [readQuoted_escape hs (by simp)] at h
        obtain ⟨text', rfl, hp⟩ := exists_of_cons_eq h
        obtain ⟨w, hw, hl⟩ := rest_of_escape hq v [']']
        rw [hw] at hp
        have hshort := ih w text' (Nat.le_succ_of_le hl) hp
        simp only [List.length_cons]
        omega

theorem length_of_readQuoted {text rest : List Char} (hr : rest ≠ []) (v : List Char)
    (h : readQuoted '"' (escapeQuotes v ++ ['"', ']']) = (text, rest, false)) :
    text.length ≤ v.length := by
  match v with
  | [] =>
    rw [escapeQuotes, List.nil_append, readQuoted_quote] at h
    cases h
    exact Nat.le_refl 0
  | c :: v =>
    by_cases hb : c = '\\'
    · subst hb
      have shorter : text.length ≤ v.length :=
        length_of_readQuoted_backslash hr (fun w text hl hw => length_of_readQuoted hr w hw) h
      exact Nat.le_succ_of_le shorter
    · obtain ⟨-, text', rfl, hp⟩ := exists_of_readQuoted_cons hb h
      exact Nat.succ_le_succ (length_of_readQuoted hr v hp)
termination_by v.length

/-- Only a value whose characters stand for themselves is read as it is. -/
theorem isBare_of_readQuoted {rest : List Char} (hr : rest ≠ [])
    (h : readQuoted '"' (escapeQuotes v ++ ['"', ']']) = (v, rest, false)) :
    ∀ c ∈ v, isBare c = true := by
  induction v with
  | nil => nofun
  | cons c v ih =>
    by_cases hb : c = '\\'
    · subst hb
      have shorter : ('\\' :: v).length ≤ v.length :=
        length_of_readQuoted_backslash hr (fun w text _ hw => length_of_readQuoted hr w hw) h
      exact absurd shorter (Nat.not_succ_le_self _)
    · obtain ⟨hn, text', he, hp⟩ := exists_of_readQuoted_cons hb h
      obtain rfl : v = text' := List.tail_eq_of_cons_eq he
      have hz : c ≠ '\x00' := by
        rintro rfl
        cases List.head_eq_of_cons_eq he
      rw [List.forall_mem_cons]
      exact ⟨by simp [isBare, hb, hn, hz], ih hp⟩

variable {pair : AttrPair}

theorem testPart_append (pair : AttrPair) (rest : List Char) :
    pair.testPart ++ rest = '[' :: (pair.key.toList ++ '=' :: '"' ::
      (escapeQuotes pair.value.toList ++ '"' :: ']' :: rest)) := by
  simp [testPart]

/-- The test reads the key and the equals sign in any case, and then what stands between quotes. -/
theorem tokens_testPart (hk : IsName pair.key.toList) {text behind rest : List Char} {cut : Bool}
    (hq : readQuoted '"' (escapeQuotes pair.value.toList ++ '"' :: ']' :: rest) =
      (text, behind, cut)) :
    tokens (pair.testPart ++ rest) =
      [.openSquare, .ident pair.key, .delim '=',
        if cut then .badQuoted (String.ofList text) else .quoted (String.ofList text)] ++
        tokens behind := by
  have quoted : readToken '"' (escapeQuotes pair.value.toList ++ '"' :: ']' :: rest) =
      emitted (readQuotedToken '"' (escapeQuotes pair.value.toList ++ '"' :: ']' :: rest)) := rfl
  rw [readQuotedToken, hq] at quoted
  rw [testPart_append, tokens_of_readToken rfl, tokens_name hk (endsName_cons (by decide)),
    String.ofList_toList, tokens_of_readToken rfl, tokens_of_readToken quoted]
  rfl

theorem tokens_testPart_of_isBare (hk : IsName pair.key.toList)
    (hv : ∀ c ∈ pair.value.toList, isBare c = true) (rest : List Char) :
    tokens (pair.testPart ++ rest) = testTokens pair.key pair.value ++ tokens rest := by
  rw [tokens_testPart hk (readQuoted_escapeQuotes hv (']' :: rest)), String.ofList_toList,
    tokens_of_readToken rfl]
  rfl

theorem standsFor_testPart (hk : IsName pair.key.toList)
    (hv : ∀ c ∈ pair.value.toList, isBare c = true) :
    StandsFor pair.testPart pair.key pair.value where
  alone := by
    refine readSelectors_test ?_
    have whole := tokens_testPart_of_isBare hk hv []
    rwa [List.append_nil, tokens_nil, List.append_nil] at whole
  anywhere before rest hb := by
    have part := tokens_testPart_of_isBare hk hv rest
    rw [testPart_append] at part ⊢
    rw [hb, part]

theorem isBare_of_standsFor (hk : IsName pair.key.toList)
    (h : StandsFor pair.testPart pair.key pair.value) :
    ∀ c ∈ pair.value.toList, isBare c = true := by
  have whole := h.anywhere [] [] complete_nil
  obtain ⟨⟨text, behind, cut⟩, hq⟩ :
      ∃ p, readQuoted '"' (escapeQuotes pair.value.toList ++ ['"', ']']) = p := ⟨_, rfl⟩
  rw [List.nil_append, tokens_testPart hk hq, tokens_nil, List.nil_append, List.append_nil,
    testTokens] at whole
  simp only [List.cons_append, List.nil_append, List.cons.injEq, true_and] at whole
  obtain ⟨value, closing⟩ := whole
  have hb : behind ≠ [] := by
    rintro rfl
    rw [tokens_nil] at closing
    cases closing
  cases cut with
  | true => cases value
  | false =>
    obtain rfl : text = pair.value.toList := by
      have he : String.ofList text = pair.value := Token.quoted.inj value
      rw [← he, String.toList_ofList]
    exact isBare_of_readQuoted hb hq

/--
The pair adds a test for its name and exactly its value just if every character of the value stands
for itself between quotes. A backslash, a NUL or a line end in the value makes it another test, or
lets it end elsewhere.
-/
theorem selectorPart_standsFor_iff (pair : AttrPair) (hk : IsName pair.key.toList)
    (hi : pair.named "id" = false) (hc : pair.named "class" = false) :
    pair.selectorPart = .ok pair.testPart ∧
      (StandsFor pair.testPart pair.key pair.value ↔
        ∀ c ∈ pair.value.toList, isBare c = true) := by
  refine ⟨?_, isBare_of_standsFor hk, standsFor_testPart hk⟩
  rw [selectorPart, hi, hc]
  rfl

theorem selectorPart_standsFor_iff_brackets :
    (AttrPair.mk "title" "\"a\" > b, [c]").selectorPart =
        .ok (AttrPair.mk "title" "\"a\" > b, [c]").testPart ∧
      (StandsFor (AttrPair.mk "title" "\"a\" > b, [c]").testPart "title" "\"a\" > b, [c]" ↔
        ∀ c ∈ "\"a\" > b, [c]".toList, isBare c = true) :=
  selectorPart_standsFor_iff ⟨"title", "\"a\" > b, [c]"⟩ ⟨rfl, by simp; decide⟩ (by decide)
    (by decide)

/--
The backslash in front of the quote takes the one that should keep it in the value. The text is
three selectors then, and none of them tests for the value.
-/
theorem not_standsFor_backslash :
    tokenizeAttrs "title='\\\"],p,[x='" = .ok [⟨"title", "\\\"],p,[x="⟩] ∧
      (AttrPair.mk "title" "\\\"],p,[x=").selectorPart =
        .ok (AttrPair.mk "title" "\\\"],p,[x=").testPart ∧
      ¬ StandsFor (AttrPair.mk "title" "\\\"],p,[x=").testPart "title" "\\\"],p,[x=" ∧
      readSelectors (String.ofList (AttrPair.mk "title" "\\\"],p,[x=").testPart) =
        .ok [.compound [.attribute (equalTest "title" "\\")], .compound [.type "p"],
          .compound [.attribute (equalTest "x" "]")]] := by
  have name : IsName "title".toList := ⟨rfl, by simp; decide⟩
  have title : readQuoted '"' (escapeQuotes "\\\"],p,[x=".toList ++ ['"', ']']) =
      (['\\'], "],p,[x=\"]".toList, false) := by cbv
  have behind : tokens "],p,[x=\"]".toList =
      [.closeSquare, .comma, .ident "p", .comma, .openSquare, .ident "x", .delim '=',
        .quoted "]"] := by cbv
  have whole : tokens ((AttrPair.mk "title" "\\\"],p,[x=").testPart ++ []) = _ :=
    tokens_testPart name title
  have pieces : alternatives (readings (nest (
      [.openSquare, .ident "title", .delim '=', .quoted "\\"] ++
      [.closeSquare, .comma, .ident "p", .comma, .openSquare, .ident "x", .delim '=',
        .quoted "]"]))) =
      [readings [testComponent "title" "\\"], readings [.single (.ident "p")],
        readings [testComponent "x" "]"]] := rfl
  refine ⟨by cbv, rfl, ?_, ?_⟩
  · intro h
    have bare : isBare '\\' = true := isBare_of_standsFor name h '\\' (by decide)
    cases bare
  · rw [List.append_nil, behind] at whole
    rw [readSelectors, String.toList_ofList, whole, readList]
    refine (congrArg (List.mapM (readAlternative {})) pieces).trans ?_
    simp only [List.mapM_cons, List.mapM_nil, readAlternative_test, readAlternative_type]
    rfl

end PageHarvest.AttrPair
