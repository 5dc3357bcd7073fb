import PageHarvest.Proofs.Python.Literal
import PageHarvest.Proofs.Text.Blank
import PageHarvest.Script.Statement
import Mathlib.Data.List.Basic

namespace PageHarvest.Script

open Python

theorem literalQuote_eq (s : List Char) : literalQuote s = '"' ∨ literalQuote s = '\'' := by
  unfold literalQuote
  split
  · exact .inr rfl
  · exact .inl rfl

theorem isQuote_literalQuote (s : List Char) : isQuote (literalQuote s) = true := by
  rcases literalQuote_eq s with h | h <;> rw [h] <;> rfl

theorem eq_of_isQuote {quote : Char} (hq : isQuote quote = true) : quote = '"' ∨ quote = '\'' := by
  simpa [isQuote] using hq

theorem ne_backslash_of_isQuote {quote : Char} (hq : isQuote quote = true) : quote ≠ '\\' := by
  rintro rfl
  cases hq

theorem toNat_lt_of_isControl {c : Char} (h : Text.isControl c = true) : c.toNat < 160 := by
  simp only [Text.isControl, Bool.or_eq_true, Bool.and_eq_true, decide_eq_true_eq] at h
  omega

theorem code_digits (n : Nat) (h : n < 160) :
    List.replicate (2 - (Nat.toDigits 16 n).length) '0' ++ Nat.toDigits 16 n =
      [hexDigit (Fin.ofNat 16 (n / 16)), hexDigit (Fin.ofNat 16 n)] := by
  revert n
  decide +kernel

theorem ofNat_code {c : Char} (h : Text.isControl c = true) :
    Char.ofNat (16 * (c.toNat / 16 % 16) + c.toNat % 16) = c := by
  have hn := toNat_lt_of_isControl h
  have he : 16 * (c.toNat / 16 % 16) + c.toNat % 16 = c.toNat := by omega
  rw [he, Char.ofNat_toNat]

theorem endsLine_of_not_isControl {c : Char} (h : Text.isControl c = false) :
    endsLine c = false := by
  simp only [endsLine, Bool.or_eq_false_iff, beq_eq_false_iff_ne]
  constructor <;> rintro rfl <;> cases h

theorem isControl_of_isQuote {quote : Char} (hq : isQuote quote = true) :
    Text.isControl quote = false := by
  rcases eq_of_isQuote hq with rfl | rfl <;> rfl

theorem isControl_hexDigit (d : Fin 16) : Text.isControl (hexDigit d) = false := by
  revert d
  decide

/-- A character is written with a letter behind a backslash, by its code, or as it is. -/
theorem literalChar_cases {quote : Char} (hq : isQuote quote = true) (c : Char) :
    (∃ e, literalChar quote c = ['\\', e] ∧ e ≠ 'x' ∧ escaped? e = some c ∧
      Text.isControl e = false) ∨
    (Text.isControl c = true ∧ literalChar quote c =
      ['\\', 'x', hexDigit (Fin.ofNat 16 (c.toNat / 16)), hexDigit (Fin.ofNat 16 c.toNat)]) ∨
    (literalChar quote c = [c] ∧ c ≠ '\\' ∧ c ≠ quote ∧ Text.isControl c = false) := by
  unfold literalChar
  split_ifs with h1 h2 h3 h4 h5 h6
  · obtain rfl := eq_of_beq h1
    exact .inl ⟨_, rfl, by decide, rfl, rfl⟩
  · obtain rfl := eq_of_beq h2
    exact .inl ⟨_, rfl, by decide, rfl, rfl⟩
  · obtain rfl := eq_of_beq h3
    exact .inl ⟨_, rfl, by decide, rfl, rfl⟩
  · obtain rfl := eq_of_beq h4
    exact .inl ⟨_, rfl, by decide, rfl, rfl⟩
  · obtain rfl := eq_of_beq h5
    rcases eq_of_isQuote hq with rfl | rfl <;> exact .inl ⟨_, rfl, by decide, rfl, rfl⟩
  · have hd := code_digits _ (toNat_lt_of_isControl h6)
    exact .inr (.inl ⟨h6, congrArg ('\\' :: 'x' :: ·) hd⟩)
  · exact .inr (.inr ⟨rfl, ne_of_beq_false (Bool.eq_false_iff.2 h1),
      ne_of_beq_false (Bool.eq_false_iff.2 h5), Bool.eq_false_iff.2 h6⟩)

/-- However a character is written, reading takes it back and goes on behind it. -/
theorem readBody_literalChar {quote : Char} (hq : isQuote quote = true) (c : Char)
    (t : List Char) :
    readBody quote (literalChar quote c ++ t) =
      (readBody quote t).map fun (s, rest) => (c :: s, rest) := by
  rcases literalChar_cases hq c with ⟨e, he, hx, hc, _⟩ | ⟨hc, he⟩ | ⟨he, hb, hne, hc⟩
  · rw [he]
    cases ht : readBody quote t <;> cases t <;> simp_all [readBody]
  · simp only [he, List.cons_append, List.nil_append, readBody, hexValue?_hexDigit]
    cases readBody quote t <;> simp [ofNat_code hc]
  · have hnull : c ≠ '\x00' := by
      rintro rfl
      cases hc
    rw [he, List.singleton_append, readBody, if_neg hne]
    · cases readBody quote t <;> simp [endsLine_of_not_isControl hc, hnull, hb]
    all_goals simp [hb]

theorem readBody_flatMap {quote : Char} (hq : isQuote quote = true) (s rest : List Char) :
    readBody quote (s.flatMap (literalChar quote) ++ quote :: rest) = some (s, rest) := by
  induction s with
  | nil =>
    have hb := ne_backslash_of_isQuote hq
    rw [List.flatMap_nil, List.nil_append, readBody, if_pos rfl] <;> simp [hb]
  | cons c s ih =>
    rw [List.flatMap_cons, List.append_assoc, readBody_literalChar hq, ih]
    rfl

theorem literalChar_eq_cons {quote : Char} (hq : isQuote quote = true) (c : Char) :
    ∃ d t, literalChar quote c = d :: t ∧ d ≠ quote := by
  have hb := (ne_backslash_of_isQuote hq).symm
  rcases literalChar_cases hq c with ⟨e, he, _⟩ | ⟨_, he⟩ | ⟨he, _, hne, _⟩
  · exact ⟨_, _, he, hb⟩
  · exact ⟨_, _, he, hb⟩
  · exact ⟨_, _, he, hne⟩

/-- A literal is read to its end, unless a quote behind an empty one goes on with it. -/
theorem readLiteral_literal_append (s rest : List Char) (h : rest.head? ≠ some (literalQuote s)) :
    readLiteral (literal s ++ rest) = some (s, rest) := by
  have hq := isQuote_literalQuote s
  have short : [literalQuote s, literalQuote s].isPrefixOf
      (s.flatMap (literalChar (literalQuote s)) ++ literalQuote s :: rest) = false := by
    cases s with
    | nil =>
      cases rest with
      | nil => rfl
      | cons d rest =>
        have hd : literalQuote [] ≠ d := fun he => h (congrArg some he.symm)
        simp [List.isPrefixOf, hd]
    | cons c s =>
      obtain ⟨d, t, he, hd⟩ := literalChar_eq_cons hq c
      simp [he, List.isPrefixOf, hd.symm]
  simp only [literal, List.cons_append, List.append_assoc, List.nil_append, readLiteral, hq,
    short, Bool.not_true, Bool.or_self, Bool.false_eq_true, if_false]
  exact readBody_flatMap hq s rest

theorem skipBlanks_literal_append (s rest : List Char) :
    skipBlanks (literal s ++ rest) = literal s ++ rest := by
  rcases literalQuote_eq s with h | h <;> simp [literal, skipBlanks, h]

theorem literalQuote_ne_of_not_isQuote {s : List Char} {c : Char} (hc : isQuote c = false) :
    c ≠ literalQuote s := by
  rintro rfl
  rw [isQuote_literalQuote] at hc
  cases hc

theorem readItems_of_literal {s item behind : List Char}
    (hs : skipBlanks s = literal item ++ behind) (hb : behind.head? ≠ some (literalQuote item)) :
    readItems s = match skipBlanks behind with
      | ']' :: rest => some ([item], rest)
      | ',' :: rest => (readItems rest).map fun (items, rest) => (item :: items, rest)
      | _ => none := by
  have hl := readLiteral_literal_append item behind hb
  rw [readItems]
  split
  · rename_i rest he
    rw [hs, literal, List.cons_append, List.cons_append] at he
    exact (literalQuote_ne_of_not_isQuote (by rfl) (List.cons.inj he).1.symm).elim
  · rw [hs]
    split
    · simp_all
    · rename_i item' behind' hl'
      cases hl.symm.trans hl'
      split
      · simp_all
      · rename_i rest he
        simp only [he]
        cases readItems rest <;> rfl
      · simp_all

/-- Texts that stand in a list start with a quote, so no blank is skipped before them. -/
theorem skipBlanks_joinWith (item : List Char) (items : List (List Char)) (t : List Char) :
    skipBlanks (Text.joinWith ", " ((item :: items).map literal) ++ t) =
      Text.joinWith ", " ((item :: items).map literal) ++ t := by
  cases items with
  | nil => simpa [Text.joinWith] using skipBlanks_literal_append item t
  | cons next items =>
    simp only [List.map_cons, Text.joinWith, List.intercalate_cons_cons, List.append_assoc]
    exact skipBlanks_literal_append item _

theorem readItems_joinWith (item : List Char) (items : List (List Char)) (s rest : List Char)
    (hs : skipBlanks s = Text.joinWith ", " ((item :: items).map literal) ++ ']' :: rest) :
    readItems s = some (item :: items, rest) := by
  -- blanks may stand before the items, as they do behind each comma
  induction items generalizing item s with
  | nil =>
    have hb : (']' :: rest).head? ≠ some (literalQuote item) := fun he =>
      literalQuote_ne_of_not_isQuote (by rfl) (Option.some.inj he)
    rw [readItems_of_literal (by simpa [Text.joinWith] using hs) hb]
    rfl
  | cons next items ih =>
    have hb (t : List Char) : (',' :: ' ' :: t).head? ≠ some (literalQuote item) := fun he =>
      literalQuote_ne_of_not_isQuote (by rfl) (Option.some.inj he)
    have hs' : skipBlanks s = literal item ++ ',' :: ' ' ::
        (Text.joinWith ", " ((next :: items).map literal) ++ ']' :: rest) := by
      simpa [Text.joinWith, List.intercalate_cons_cons] using hs
    have hr := ih next (' ' :: (Text.joinWith ", " ((next :: items).map literal) ++ ']' :: rest))
      (skipBlanks_joinWith next items _)
    rw [readItems_of_literal hs' (hb _)]
    simp only [skipBlanks, List.dropWhile_cons, Char.reduceBEq, Bool.false_eq_true, if_false, hr,
      Option.map_some]

theorem readList_listLiteral_append (items : List (List Char)) (rest : List Char) :
    readList (listLiteral items ++ rest) = some (items, rest) := by
  cases items with
  | nil =>
    rw [listLiteral, List.map_nil, Text.joinWith, List.intercalate_nil]
    simp only [List.cons_append, List.nil_append, readList]
    rw [readItems]
    rfl
  | cons item items =>
    have hs := skipBlanks_joinWith item items (']' :: rest)
    simp only [listLiteral, List.cons_append, List.append_assoc, List.nil_append, readList]
    exact readItems_joinWith item items _ rest hs

theorem isControl_of_mem_literalChar {quote c d : Char} (hq : isQuote quote = true)
    (h : d ∈ literalChar quote c) : Text.isControl d = false := by
  rcases literalChar_cases hq c with ⟨e, he, _, _, hc⟩ | ⟨_, he⟩ | ⟨he, _, _, hc⟩ <;>
    simp only [he, List.mem_cons, List.not_mem_nil, or_false] at h
  · rcases h with rfl | rfl
    · rfl
    · exact hc
  · rcases h with rfl | rfl | rfl | rfl
    · rfl
    · rfl
    · exact isControl_hexDigit _
    · exact isControl_hexDigit _
  · rw [h]
    exact hc

theorem isControl_of_mem_literal {s : List Char} {c : Char} (h : c ∈ literal s) :
    Text.isControl c = false := by
  have hq := isQuote_literalQuote s
  simp only [literal, List.cons_append, List.mem_cons, List.mem_append, List.mem_flatMap,
    List.not_mem_nil, or_false] at h
  rcases h with rfl | ⟨d, _, hd⟩ | rfl
  · exact isControl_of_isQuote hq
  · exact isControl_of_mem_literalChar hq hd
  · exact isControl_of_isQuote hq

theorem isControl_of_mem_listLiteral {items : List (List Char)} {c : Char}
    (h : c ∈ listLiteral items) : Text.isControl c = false := by
  simp only [listLiteral, List.cons_append, List.mem_cons, List.mem_append, List.not_mem_nil,
    or_false] at h
  rcases h with rfl | h | rfl
  · rfl
  · rcases Text.mem_joinWith h with h | ⟨part, hp, hc⟩
    · have hs : (", ".toList.all (!Text.isControl ·)) = true := rfl
      simpa using List.all_eq_true.1 hs c h
    · obtain ⟨item, _, rfl⟩ := List.mem_map.1 hp
      exact isControl_of_mem_literal hc
  · rfl

/--
The literal of a text is one literal on one line, from its first character to its last, and denotes
that text. The list of the literals of some texts is a list of these texts.
-/
theorem literal_denotes (s : List Char) (items : List (List Char)) :
    (readLiteral (literal s) = some (s, []) ∧ ∀ c ∈ literal s, endsLine c = false) ∧
      readList (listLiteral items) = some (items, []) := by
  refine ⟨⟨?_, ?_⟩, ?_⟩
  · simpa using readLiteral_literal_append s [] (by simp)
  · intro c hc
    exact endsLine_of_not_isControl (isControl_of_mem_literal hc)
  · simpa using readList_listLiteral_append items []

end PageHarvest.Script
