import PageHarvest.Json.Tree
import PageHarvest.Proofs.Text.Run

namespace PageHarvest.Json

/-- A character is written with a letter behind a backslash, by its code, or as it is. -/
theorem escapeChar_cases (c : Char) :
    (∃ e, escapeChar c = ['\\', e] ∧ e ≠ 'u' ∧ simpleEscape? e = some c) ∨
    (c.toNat < 0x20 ∧ escapeChar c = ['\\', 'u', '0', '0'] ++ hexByte c.toNat) ∨
    (escapeChar c = [c] ∧ c ≠ '"' ∧ c ≠ '\\' ∧ ¬c.toNat < 0x20) := by
  unfold escapeChar
  split_ifs with h1 h2 h3 h4 h5 h6 h7
  · rw [Bool.or_eq_true, beq_iff_eq, beq_iff_eq] at h1
    rcases h1 with rfl | rfl <;> exact .inl ⟨_, rfl, by decide, rfl⟩
  · obtain rfl := eq_of_beq h2
    exact .inl ⟨_, rfl, by decide, rfl⟩
  · obtain rfl := eq_of_beq h3
    exact .inl ⟨_, rfl, by decide, rfl⟩
  · obtain rfl := eq_of_beq h4
    exact .inl ⟨_, rfl, by decide, rfl⟩
  · obtain rfl := eq_of_beq h5
    exact .inl ⟨_, rfl, by decide, rfl⟩
  · obtain rfl := eq_of_beq h6
    exact .inl ⟨_, rfl, by decide, rfl⟩
  · exact .inr (.inl ⟨h7, rfl⟩)
  · simp only [Bool.or_eq_true, beq_iff_eq, not_or] at h1
    exact .inr (.inr ⟨rfl, h1.1, h1.2, h7⟩)

/-- The four digits that are written for a control character are its code. -/
theorem scanHex_hexByte {n : Nat} (h : n < 0x20) (t : List Char) :
    scanHex ('0' :: '0' :: (hexByte n ++ t)) = .ok (n, t) := by
  have hz : hexValue? '0' = some 0 := rfl
  simp only [scanHex, hexByte, hasFourBytes, List.cons_append, List.nil_append, Bool.not_true,
    Bool.false_eq_true, if_false, List.mapM_cons, List.mapM_nil, hz, hexValue?_hexDigit,
    Option.bind_eq_bind, Option.bind_some, Option.pure_def, List.foldl_cons, List.foldl_nil]
  congr 2
  omega

theorem scanCode_hexByte {c : Char} (h : c.toNat < 0x20) (t : List Char) :
    scanCode ('0' :: '0' :: (hexByte c.toNat ++ t)) = .ok (c, t) := by
  have trail : isTrailSurrogate c.toNat = false := by
    simp only [isTrailSurrogate, Bool.and_eq_false_iff, decide_eq_false_iff_not]
    omega
  have lead : isLeadSurrogate c.toNat = false := by
    simp only [isLeadSurrogate, Bool.and_eq_false_iff, decide_eq_false_iff_not]
    omega
  simp [scanCode, scanHex_hexByte h, trail, lead, bind, Except.bind, pure, Except.pure]

/-- However a character is written, reading takes it back and goes on behind it. -/
theorem readString_escapeChar (c : Char) (t : List Char) :
    readString (escapeChar c ++ t) = (readString t).map fun (cs, rest) => (c :: cs, rest) := by
  rcases escapeChar_cases c with ⟨e, he, hu, hc⟩ | ⟨hc, he⟩ | ⟨he, hq, hb, hc⟩
  · rw [he, List.cons_append, List.singleton_append, readString.eq_5 _ _ hu, hc]
  · have hs := scanCode_hexByte hc t
    rw [he, List.append_assoc]
    simp only [List.cons_append, List.nil_append]
    rw [readString, hs]
  · rw [he, List.singleton_append, readString, if_neg hc] <;> simp [hq, hb]

theorem skipString_escapeChar (c : Char) (t : List Char) :
    skipString (escapeChar c ++ t) = skipString t := by
  rcases escapeChar_cases c with ⟨e, he, hu, hc⟩ | ⟨hc, he⟩ | ⟨he, hq, hb, hc⟩
  · rw [he, List.cons_append, List.singleton_append, skipString.eq_5 _ _ hu, hc]
  · have hs := scanHex_hexByte hc t
    rw [he, List.append_assoc]
    simp only [List.cons_append, List.nil_append]
    rw [skipString, hs]
  · rw [he, List.singleton_append, skipString, if_neg hc] <;> simp [hq, hb]

theorem readString_flatMap (s rest : List Char) :
    readString (s.flatMap escapeChar ++ '"' :: rest) = .ok (s, rest) := by
  induction s with
  | nil => rw [List.flatMap_nil, List.nil_append, readString]
  | cons c s ih =>
    rw [List.flatMap_cons, List.append_assoc, readString_escapeChar, ih]
    rfl

theorem skipString_flatMap (s rest : List Char) :
    skipString (s.flatMap escapeChar ++ '"' :: rest) = .ok rest := by
  induction s with
  | nil => rw [List.flatMap_nil, List.nil_append, skipString]
  | cons c s ih => rw [List.flatMap_cons, List.append_assoc, skipString_escapeChar, ih]

theorem writeString_append (s : String) (rest : List Char) :
    writeString s ++ rest = '"' :: (s.toList.flatMap escapeChar ++ '"' :: rest) := by
  simp [writeString]

theorem followString_flatMap (s : String) (rest : List Char) :
    followString (s.toList.flatMap escapeChar ++ '"' :: rest) = .ok (.ok s, rest) := by
  rw [followString, readString_flatMap, skipString_flatMap]
  simp [Except.map]

def EndsNumber (rest : List Char) : Prop :=
  ∀ c ∈ rest.head?, c.isDigit = false ∧ c ≠ '.' ∧ isExponentMark c = false

theorem endsNumber_nil : EndsNumber [] := by
  intro c hc
  cases hc

theorem endsNumber_cons {c : Char} {rest : List Char}
    (h : (!c.isDigit && c != '.' && !isExponentMark c) = true) : EndsNumber (c :: rest) := by
  intro d hd
  obtain rfl : c = d := Option.some.inj hd
  simpa [and_assoc] using h

theorem EndsNumber.wholeRun_toDigits {rest : List Char} (h : EndsNumber rest) (n : Nat) :
    Text.WholeRun Char.isDigit (Nat.toDigits 10 n) rest where
  inside _ hc := Nat.isDigit_of_mem_toDigits (by decide) (by decide) hc
  boundary c hc := (h c hc).1

theorem toDigits_eq_cons (n : Nat) :
    ∃ d ds, Nat.toDigits 10 n = d :: ds ∧ d.isDigit = true := by
  obtain ⟨d, ds, hd⟩ := List.exists_cons_of_ne_nil (Nat.toDigits_ne_nil (n := n) (b := 10))
  have hmem : d ∈ Nat.toDigits 10 n := hd ▸ List.mem_cons_self
  exact ⟨d, ds, hd, Nat.isDigit_of_mem_toDigits (by decide) (by decide) hmem⟩

theorem head_toDigits_ne_zero {n : Nat} (h : 0 < n) : (Nat.toDigits 10 n).head? ≠ some '0' := by
  induction n using Nat.strongRecOn with
  | ind n ih =>
    rcases Nat.lt_or_ge n 10 with hn | hn
    · rw [Nat.toDigits_of_lt_base hn]
      simpa using h.ne'
    · have front := ih (n / 10) (by omega) (by omega)
      obtain ⟨d, ds, hd, _⟩ := toDigits_eq_cons (n / 10)
      rw [Nat.toDigits_of_base_le (by decide) hn, hd]
      rwa [hd] at front

theorem scanDigits_toDigits {rest : List Char} (h : EndsNumber rest) (n : Nat) (reading : Bool) :
    scanDigits reading (Nat.toDigits 10 n ++ rest) = .ok (Nat.toDigits 10 n, rest) := by
  have hrun := h.wholeRun_toDigits n
  rw [scanDigits, hrun.takeWhile_eq, hrun.dropWhile_eq]
  split
  · rename_i he
    exact (Nat.toDigits_ne_nil he).elim
  · rfl

theorem scanWhole_toDigits {rest : List Char} (h : EndsNumber rest) (n : Nat) (reading : Bool) :
    scanWhole reading (Nat.toDigits 10 n ++ rest) = .ok (Nat.toDigits 10 n, rest) := by
  simp only [scanWhole, scanDigits_toDigits h, bind, Except.bind]
  split
  · rename_i he
    have hz : n = 0 := by
      by_contra hn
      exact head_toDigits_ne_zero (Nat.pos_of_ne_zero hn) (by rw [he]; rfl)
    subst hz
    cases he
  · rfl

theorem scanFraction_of_endsNumber {rest : List Char} (h : EndsNumber rest) (reading : Bool) :
    scanFraction reading rest = .ok (none, rest) := by
  cases rest with
  | nil => rfl
  | cons c rest =>
    have hc := (h c rfl).2.1
    rw [scanFraction]
    simpa using hc

theorem scanExponent_of_endsNumber {rest : List Char} (h : EndsNumber rest) (reading : Bool) :
    scanExponent reading rest = .ok (none, rest) := by
  cases rest with
  | nil => rfl
  | cons c rest => simp [scanExponent, (h c rfl).2.2]

theorem scanNumber_toDigits {rest : List Char} (h : EndsNumber rest) (n : Nat) (reading : Bool) :
    scanNumber reading (Nat.toDigits 10 n ++ rest) =
      .ok (⟨false, Nat.toDigits 10 n, none, none⟩, rest) := by
  have hw := scanWhole_toDigits h n reading
  obtain ⟨d, ds, hd, hdigit⟩ := toDigits_eq_cons n
  have hminus : d ≠ '-' := by
    rintro rfl
    cases hdigit
  rw [hd, List.cons_append] at hw ⊢
  simp [scanNumber, hminus, hw, scanFraction_of_endsNumber h, scanExponent_of_endsNumber h, bind,
    Except.bind, pure, Except.pure]

theorem le_ofDigitChars (ds : List Char) (n : Nat) : n ≤ Nat.ofDigitChars 10 ds n := by
  induction ds generalizing n with
  | nil => simp
  | cons d ds ih =>
    rw [Nat.ofDigitChars_cons]
    exact Nat.le_trans (by omega) (ih _)

theorem accumulate_eq {ds : List Char} {n : Nat}
    (h : Nat.ofDigitChars 10 ds n < UInt64.size) :
    accumulate n ds = (Nat.ofDigitChars 10 ds n, []) := by
  induction ds generalizing n with
  | nil => simp [accumulate]
  | cons d ds ih =>
    rw [Nat.ofDigitChars_cons] at h ⊢
    have he : n * 10 + digitValue d = 10 * n + (d.toNat - '0'.toNat) := by
      rw [Nat.mul_comm]
      rfl
    have hlt := Nat.lt_of_le_of_lt (le_ofDigitChars ds _) h
    simp only [accumulate, he, if_pos hlt]
    exact ih h

theorem number_toDigits (n : UInt64) :
    Lexeme.number ⟨false, Nat.toDigits 10 n.toNat, none, none⟩ = .ok (.natural n) := by
  have hn : Nat.ofDigitChars 10 (Nat.toDigits 10 n.toNat) 0 < UInt64.size := by
    rw [Nat.ofDigitChars_ten_toDigits]
    exact n.toNat_lt_size
  simp [Lexeme.number, accumulate_eq hn, pure, Except.pure]

theorem chars_natural (n : UInt64) : (Number.natural n).chars = Nat.toDigits 10 n.toNat := by
  rw [Number.chars, Number.text, Nat.toString_eq_repr, Nat.toList_repr]

theorem followNumber_natural {rest : List Char} (h : EndsNumber rest) (n : UInt64) :
    followNumber ((Number.natural n).chars ++ rest) = (.number (.ok (.natural n)), rest) := by
  rw [chars_natural, followNumber, scanNumber_toDigits h]
  simp only [number_toDigits]

end PageHarvest.Json
