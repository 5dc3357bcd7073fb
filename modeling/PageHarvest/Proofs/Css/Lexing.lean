import Mathlib
import PageHarvest.Css.Scan

namespace PageHarvest.Css

/-- A name that is written without escapes. -/
structure IsName (name : List Char) : Prop where
  starts : startsName name = true
  inside : ∀ c ∈ name, isNameChar c = true ∧ c ≠ '\x00'

/-- A name does not go on in the text, and what the text adds does not make it anything else. -/
def EndsName (rest : List Char) : Prop :=
  ∀ c ∈ rest.head?, isNameChar c = false ∧ c ≠ '\\' ∧ c ≠ '(' ∧ c ≠ '>'

variable {name rest : List Char} {c : Char}

theorem readName_append (h : ∀ c ∈ name, isNameChar c = true ∧ c ≠ '\x00')
    (hr : EndsName rest) : readName (name ++ rest) = (name, rest) := by
  induction name with
  | nil =>
    cases rest with
    | nil => simp [readName]
    | cons c rest =>
      obtain ⟨hc, hb, -, -⟩ := hr c rfl
      simp [readName, hc, hb]
  | cons c name ih =>
    rw [List.forall_mem_cons] at h
    obtain ⟨⟨hc, hz⟩, h⟩ := h
    rw [List.cons_append, readName, if_pos hc, ih h]
    simp [hz]

theorem isDigit_of_isNameStart (h : isNameStart c = true) : c.isDigit = false := by
  cases hd : c.isDigit with
  | false => rfl
  | true =>
    have hn : 48 ≤ c.val.toNat ∧ c.val.toNat ≤ 57 := by
      simpa [Char.isDigit, UInt32.le_iff_toNat_le] using hd
    simp only [isNameStart, Char.isAlpha, Char.isUpper, Char.isLower, isAscii, Bool.or_eq_true,
      Bool.and_eq_true, Bool.not_eq_true', decide_eq_true_eq, decide_eq_false_iff_not, beq_iff_eq,
      ge_iff_le, UInt32.le_iff_toNat_le, Char.reduceVal, UInt32.reduceToNat, Char.toNat] at h
    rcases h with (((h | h) | rfl) | rfl) | h
    · omega
    · omega
    · cases hd
    · cases hd
    · omega

theorem ne_of_holds {p : Char → Bool} {d : Char} (h : p c = true) (hd : p d = false) : c ≠ d := by
  rintro rfl
  rw [h] at hd
  cases hd

theorem startsName_of_isNameStart (h : isNameStart c = true) (s : List Char) :
    startsName (c :: s) = true := by
  have hh : c ≠ '-' := ne_of_holds h rfl
  have hb : c ≠ '\\' := ne_of_holds h rfl
  unfold startsName
  split <;> simp_all

theorem isSpace_of_isNameChar (h : isNameChar c = true) : isSpace c = false := by
  have ne {d : Char} (hd : isNameChar d = false) : (c == d) = false :=
    beq_eq_false_iff_ne.2 (ne_of_holds h hd)
  simp only [isSpace, isNewline, Bool.or_eq_false_iff]
  exact ⟨⟨ne rfl, ne rfl⟩, ⟨ne rfl, ne rfl⟩, ne rfl⟩

namespace IsName

theorem exists_cons (h : IsName name) : ∃ c tail, name = c :: tail := by
  cases name with
  | nil => exact (Bool.false_ne_true h.starts).elim
  | cons c tail => exact ⟨c, tail, rfl⟩

theorem cases_first (h : IsName name) :
    (∃ c tail, name = c :: tail ∧ isNameStart c = true) ∨
      ∃ d tail, name = '-' :: d :: tail ∧ (isNameStart d = true ∨ d = '-') := by
  have hs := h.starts
  unfold startsName at hs
  split at hs
  · rename_i d tail
    have hd := (h.inside d (by simp)).1
    have hb : (d == '\\') = false := beq_eq_false_iff_ne.2 (ne_of_holds hd rfl)
    rw [hb, Bool.or_false, Bool.or_eq_true, beq_iff_eq] at hs
    exact .inr ⟨d, tail, rfl, hs⟩
  · have hb := (h.inside '\\' List.mem_cons_self).1
    cases hb
  · exact .inl ⟨_, _, rfl, hs⟩
  · cases hs

theorem startsName_append (h : IsName name) (rest : List Char) :
    startsName (name ++ rest) = true := by
  rcases h.cases_first with ⟨c, tail, rfl, hc⟩ | ⟨d, tail, rfl, hd⟩
  · exact startsName_of_isNameStart hc (tail ++ rest)
  · rcases hd with hd | rfl
    · simp [startsName, hd]
    · simp [startsName]

theorem startsWithDigit_append (h : IsName name) (rest : List Char) :
    startsWithDigit (name ++ rest) = false := by
  rcases h.cases_first with ⟨c, tail, rfl, hc⟩ | ⟨d, tail, rfl, hd⟩
  · exact isDigit_of_isNameStart hc
  · rfl

theorem startsNumber_append (h : IsName (c :: name)) (rest : List Char) :
    startsNumber c (name ++ rest) = false := by
  rcases h.cases_first with ⟨c', tail, he, hc⟩ | ⟨d, tail, he, hd⟩
  · cases he
    have hdot : c ≠ '.' := ne_of_holds hc rfl
    have hplus : c ≠ '+' := ne_of_holds hc rfl
    have hminus : c ≠ '-' := ne_of_holds hc rfl
    simp [startsNumber, isDigit_of_isNameStart hc, hdot, hplus, hminus]
  · cases he
    have hdigits : startsDigits (d :: (tail ++ rest)) = false := by
      rcases hd with hd | rfl
      · have hdot : d ≠ '.' := ne_of_holds hd rfl
        unfold startsDigits
        split
        · simp_all
        · exact isDigit_of_isNameStart hd
      · rfl
    have hdash : '-'.isDigit = false := rfl
    simp [startsNumber, hdigits, hdash]

theorem startsCommentClose_append (h : IsName (c :: name)) (hr : EndsName rest) :
    startsCommentClose c (name ++ rest) = false := by
  unfold startsCommentClose
  split
  · rename_i tail he
    match name, he with
    | [], he =>
      obtain ⟨hc, -⟩ := hr '-' (by rw [← List.nil_append rest, he]; rfl)
      cases hc
    | [d], he =>
      have hrest : rest = '>' :: tail := List.tail_eq_of_cons_eq he
      obtain ⟨-, -, -, hc⟩ := hr '>' (by rw [hrest]; rfl)
      exact (hc rfl).elim
    | d :: e :: name, he =>
      obtain rfl : e = '>' := List.head_eq_of_cons_eq (List.tail_eq_of_cons_eq he)
      have hc := (h.inside '>' (by simp)).1
      cases hc
  · rfl

end IsName

theorem readNameToken_append (h : IsName name) (hr : EndsName rest) :
    readNameToken (name ++ rest) = (.ident (String.ofList name), rest) := by
  have hn := readName_append h.inside hr
  unfold readNameToken
  split
  · rename_i tail he
    rw [hn] at he
    have hrest : rest = '(' :: tail := he
    obtain ⟨-, -, hp, -⟩ := hr '(' (by rw [hrest]; rfl)
    exact (hp rfl).elim
  · rw [hn]

theorem readToken_name (h : IsName (c :: name)) (hr : EndsName rest) :
    readToken c (name ++ rest) = (some (.ident (String.ofList (c :: name))), rest) := by
  have hc := (h.inside c List.mem_cons_self).1
  have hspace := isSpace_of_isNameChar hc
  have hquote : c ≠ '"' := ne_of_holds hc rfl
  have hsingle : c ≠ '\'' := ne_of_holds hc rfl
  have hhash : c ≠ '#' := ne_of_holds hc rfl
  have hat : c ≠ '@' := ne_of_holds hc rfl
  have hname := readNameToken_append h hr
  have hstart := h.startsName_append rest
  rw [List.cons_append] at hname hstart
  simp [readToken, hspace, hquote, hsingle, hhash, hat, h.startsNumber_append rest,
    h.startsCommentClose_append hr, hstart, hname, emitted]

theorem tokens_of_readToken {s : List Char} {t : Token} (h : readToken c s = (some t, rest)) :
    tokens (c :: s) = t :: tokens rest := by
  rw [tokens, h]
  rfl

theorem tokens_name (h : IsName name) (hr : EndsName rest) :
    tokens (name ++ rest) = .ident (String.ofList name) :: tokens rest := by
  obtain ⟨c, tail, rfl⟩ := h.exists_cons
  exact tokens_of_readToken (readToken_name h hr)

theorem tokens_id (h : IsName name) (hr : EndsName rest) :
    tokens ('#' :: (name ++ rest)) = .idHash (String.ofList name) :: tokens rest := by
  refine tokens_of_readToken ?_
  have hash : readToken '#' (name ++ rest) = emitted (readHashToken (name ++ rest)) := rfl
  rw [hash]
  unfold readHashToken
  rw [if_pos (h.startsName_append rest), readName_append h.inside hr]
  rfl

theorem tokens_class (h : IsName name) (hr : EndsName rest) :
    tokens ('.' :: (name ++ rest)) =
      .delim '.' :: .ident (String.ofList name) :: tokens rest := by
  have number : startsNumber '.' (name ++ rest) = false := by
    simpa [startsNumber] using h.startsWithDigit_append rest
  have dot : readToken '.' (name ++ rest) = (some (.delim '.'), name ++ rest) := by
    simp only [readToken, number]
    rfl
  rw [tokens_of_readToken dot, tokens_name h hr]

/-- A character that stands for itself in a quoted text, if it is not the quote. -/
def isBare (c : Char) : Bool :=
  c != '\\' && c != '\x00' && !isNewline c

variable {s : List Char}

theorem readQuoted_quote (s : List Char) : readQuoted '"' ('"' :: s) = ([], s, false) := by
  rw [readQuoted]
  rfl

theorem readQuoted_newline (h : isNewline c = true) :
    readQuoted '"' (c :: s) = ([], c :: s, true) := by
  have hq : c ≠ '"' := by
    rintro rfl
    cases h
  rw [readQuoted, if_neg (by simpa using hq), if_pos h]

theorem readQuoted_char (hq : c ≠ '"') (hb : c ≠ '\\') (hn : isNewline c = false) :
    readQuoted '"' (c :: s) =
      ((if c == '\x00' then replacement else c) :: (readQuoted '"' s).1, (readQuoted '"' s).2) := by
  rw [readQuoted, if_neg (by simpa using hq), if_neg (by simpa using hn),
    if_neg (by simpa using hb)]

theorem readQuoted_continued (h : startsWithNewline s = true) :
    readQuoted '"' ('\\' :: s) = readQuoted '"' (dropNewline s) := by
  rw [readQuoted, if_neg (by decide), if_neg (by decide), if_pos (by decide), if_pos h]

theorem readQuoted_escape (h : startsWithNewline s = false) (hs : s ≠ []) :
    readQuoted '"' ('\\' :: s) =
      ((readEscape s).1 :: (readQuoted '"' (readEscape s).2).1,
        (readQuoted '"' (readEscape s).2).2) := by
  rw [readQuoted, if_neg (by decide), if_neg (by decide), if_pos (by decide),
    if_neg (by simpa using h), if_neg (by simpa using hs)]

/-- An escaped quote, or another character that is no digit and ends no line. -/
theorem readQuoted_escaped (hx : isHexDigit c = false) (hn : isNewline c = false)
    (hz : c ≠ '\x00') :
    readQuoted '"' ('\\' :: c :: s) = (c :: (readQuoted '"' s).1, (readQuoted '"' s).2) := by
  have escape : readEscape (c :: s) = (c, s) := by
    rw [readEscape, if_neg (by simpa using hx), if_neg (by simpa using hz)]
  have hs : startsWithNewline (c :: s) = false := hn
  rw [readQuoted_escape hs (List.cons_ne_nil c s), escape]

end PageHarvest.Css
