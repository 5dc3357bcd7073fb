import PageHarvest.Proofs.Attrs.Onward

namespace PageHarvest

open Attrs (isKeyChar isSeparator isQuote)
open Text (byteLength WholeRun)

namespace AttrFault

def offset? : AttrFault → Option Nat
  | missingEquals _ offset | unterminatedQuote _ offset | unexpectedChar _ offset
  | emptyKey offset => some offset
  | emptyValue _ => none

/-- The fault is that of a text which stands at `start`, where a pair may begin. -/
inductive Marks (start : Nat) : AttrFault → List Char → Prop
  | emptyKey {rest : List Char} : Marks start (.emptyKey start) ('=' :: rest)
  | unexpectedChar {found : Char} {rest : List Char} :
    isSeparator found = false → isKeyChar found = false → found ≠ '=' →
      Marks start (.unexpectedChar found start) (found :: rest)
  | missingEquals {key blanks rest : List Char} :
    key ≠ [] → WholeRun isKeyChar key (blanks ++ rest) → WholeRun Text.isBlank blanks rest →
      (∀ c ∈ rest.head?, c ≠ '=') →
      Marks start (.missingEquals (String.ofList key) (start + byteLength (key ++ blanks)))
        (key ++ blanks ++ rest)
  | unterminatedQuote {key beforeEquals afterEquals rest : List Char} {quote : Char} :
    key ≠ [] → (∀ c ∈ key, isKeyChar c = true) → (∀ c ∈ beforeEquals, Text.isBlank c = true) →
      (∀ c ∈ afterEquals, Text.isBlank c = true) → isQuote quote = true → quote ∉ rest →
      Marks start
        (.unterminatedQuote quote
          (start + byteLength (key ++ beforeEquals ++ '=' :: afterEquals)))
        (key ++ beforeEquals ++ '=' :: afterEquals ++ quote :: rest)

/-- The place is behind some of the characters, so no character is cut in two. -/
theorem Marks.exists_front {start : Nat} {fault : AttrFault} {s : List Char}
    (h : fault.Marks start s) :
    ∃ front behind, s = front ++ behind ∧ fault.offset? = some (start + byteLength front) := by
  cases h with
  | emptyKey => exact ⟨[], _, rfl, rfl⟩
  | unexpectedChar hs hk he => exact ⟨[], _, rfl, rfl⟩
  | missingEquals hn hk hb he => exact ⟨_, _, rfl, rfl⟩
  | unterminatedQuote hn hk hb ha hq hr => exact ⟨_, _, rfl, rfl⟩

end AttrFault

namespace Attrs

variable {offset : Nat} {s : List Char} {fault : AttrFault}

theorem exists_quote_of_scanValue (h : scanValue offset s = .error fault) :
    ∃ quote rest, s = quote :: rest ∧ isQuote quote = true ∧ quote ∉ rest ∧
      fault = .unterminatedQuote quote offset := by
  by_cases hq : ∀ c ∈ s.head?, isQuote c = false
  · rw [scanValue_of_not_quote hq] at h
    cases h
  · push Not at hq
    obtain ⟨quote, hc, hq⟩ := hq
    rw [ne_eq, Bool.not_eq_false] at hq
    obtain ⟨rest, rfl⟩ := List.head?_eq_some_iff.1 hc
    rw [scanValue, if_pos hq] at h
    split at h
    · rename_i hd
      cases h
      refine ⟨quote, rest, rfl, hq, ?_, rfl⟩
      intro hm
      have hne := List.dropWhile_eq_nil_iff.1 hd quote hm
      simp at hne
    · cases h

theorem marks_of_scanPair (h : scanPair offset s = .error fault)
    (hn : s.takeWhile isKeyChar ≠ []) : fault.Marks offset s := by
  have key := Text.wholeRun_takeWhile isKeyChar s
  have blanks := Text.wholeRun_takeWhile Text.isBlank (s.dropWhile isKeyChar)
  have wholeKey := List.takeWhile_append_dropWhile (p := isKeyChar) (l := s)
  have wholeBlanks :=
    List.takeWhile_append_dropWhile (p := Text.isBlank) (l := s.dropWhile isKeyChar)
  simp only [scanPair] at h
  split at h
  · rename_i r hr
    have after := Text.wholeRun_takeWhile Text.isBlank r
    have wholeAfter := List.takeWhile_append_dropWhile (p := Text.isBlank) (l := r)
    split at h
    · cases h
    · rename_i e hv
      obtain rfl := Except.error.inj h
      obtain ⟨quote, rest, hq, hquote, hrest, rfl⟩ := exists_quote_of_scanValue hv
      have marks : AttrFault.Marks offset _ _ :=
        .unterminatedQuote hn key.inside blanks.inside after.inside hquote hrest
      have text : s.takeWhile isKeyChar ++ (s.dropWhile isKeyChar).takeWhile Text.isBlank ++
          '=' :: r.takeWhile Text.isBlank ++ quote :: rest = s := by
        rw [List.append_assoc, List.cons_append, ← hq, wholeAfter, ← hr, List.append_assoc,
          wholeBlanks, wholeKey]
      have place : offset + byteLength (s.takeWhile isKeyChar ++
          (s.dropWhile isKeyChar).takeWhile Text.isBlank ++ '=' :: r.takeWhile Text.isBlank) =
          offset + byteLength (s.takeWhile isKeyChar) +
            byteLength ((s.dropWhile isKeyChar).takeWhile Text.isBlank) + 1 +
            byteLength (r.takeWhile Text.isBlank) := by
        have size : '='.utf8Size = 1 := rfl
        simp only [Text.byteLength_append, byteLength, size]
        omega
      rw [text, place] at marks
      exact marks
  · rename_i hne
    obtain rfl := Except.error.inj h
    have noEquals : ∀ c ∈ ((s.dropWhile isKeyChar).dropWhile Text.isBlank).head?, c ≠ '=' := by
      rintro c hc rfl
      obtain ⟨tail, ht⟩ := List.head?_eq_some_iff.1 hc
      exact hne tail ht
    rw [← wholeBlanks] at key
    have marks : AttrFault.Marks offset _ _ := .missingEquals hn key blanks noEquals
    rw [List.append_assoc, wholeBlanks, wholeKey, Text.byteLength_append, ← Nat.add_assoc] at marks
    exact marks

theorem exists_marks (h : scan offset s = .error fault) :
    ∃ cut : Cut, ∃ rest, cut.Before rest ∧ s = cut.text ++ rest ∧
      fault.Marks (offset + byteLength cut.text) rest := by
  fun_induction scan offset s with
  | case1 => cases h
  | case2 offset s start r hd =>
    cases h
    have run := Text.wholeRun_takeWhile isSeparator s
    refine ⟨.stop (s.takeWhile isSeparator), '=' :: r, .stop run.inside, ?_, .emptyKey⟩
    rw [Cut.text, ← hd, List.takeWhile_append_dropWhile]
  | case3 offset s start c r hd hc hk =>
    cases h
    have run := Text.wholeRun_takeWhile isSeparator s
    rw [hd] at run
    refine ⟨.stop (s.takeWhile isSeparator), c :: r, .stop run.inside, ?_,
      .unexpectedChar (run.boundary c rfl) (by simpa using hk) hc⟩
    rw [Cut.text, ← hd, List.takeWhile_append_dropWhile]
  | case4 offset s start c r hd hc hk e hp =>
    cases h
    have run := Text.wholeRun_takeWhile isSeparator s
    have key : (c :: r).takeWhile isKeyChar ≠ [] := by
      rw [List.takeWhile_cons, if_pos (by simpa using hk)]
      exact List.cons_ne_nil _ _
    refine ⟨.stop (s.takeWhile isSeparator), c :: r, .stop run.inside, ?_,
      marks_of_scanPair hp key⟩
    rw [Cut.text, ← hd, List.takeWhile_append_dropWhile]
  | case5 => cases h
  | case6 offset s start c r hd hc hk pair after rest hp e hr ih =>
    cases h
    have run := Text.wholeRun_takeWhile isSeparator s
    have key : (c :: r).takeWhile isKeyChar ≠ [] := by
      rw [List.takeWhile_cons, if_pos (by simpa using hk)]
      exact List.cons_ne_nil _ _
    obtain ⟨g, hg, rfl, ht⟩ := fits_of_scanPair hp key
    obtain ⟨cut, behind, hb, rfl, hm⟩ := ih hr
    rw [← ht, scanPair_of_fits hg] at hp
    cases hp
    refine ⟨.pair (s.takeWhile isSeparator) g cut, behind, .pair run.inside hg hb, ?_, ?_⟩
    · rw [Cut.text, List.append_assoc, List.append_assoc, ht, ← hd,
        List.takeWhile_append_dropWhile]
    · have place : start + byteLength g.text + byteLength cut.text =
          offset + byteLength (Cut.pair (s.takeWhile isSeparator) g cut).text := by
        simp only [start, Cut.text, Text.byteLength_append, Nat.add_assoc]
      rw [← place]
      exact hm

theorem scan_equals (offset : Nat) (rest : List Char) :
    scan offset ('=' :: rest) = .error (.emptyKey offset) := by
  rw [scan_eq]
  rfl

theorem scan_unexpected {c : Char} (hs : isSeparator c = false) (hk : isKeyChar c = false)
    (he : c ≠ '=') (offset : Nat) (rest : List Char) :
    scan offset (c :: rest) = .error (.unexpectedChar c offset) := by
  rw [scan_eq, List.dropWhile_cons_of_neg (by simp [hs]), List.takeWhile_cons_of_neg (by simp [hs])]
  simp only [he, if_false, hk, Bool.not_false, if_true]
  rfl

/-- A fault at the first character behind a cut stays, whatever follows that character. -/
theorem tokenizeAttrs_of_first {cut : Cut} {first : Char} {rest other : List Char}
    (hb : cut.Before (first :: rest))
    (hf : ∀ other, scan (byteLength cut.text) (first :: other) = .error fault) :
    tokenizeAttrs (String.ofList (cut.text ++ first :: other)) = .error fault := by
  have hb' : cut.Before (first :: other) := by
    apply hb.of_head
    rintro c ⟨⟩
    exact .inl rfl
  rw [tokenizeAttrs, String.toList_ofList, scan_cut hb', Nat.zero_add, hf]
  rfl

end Attrs

/--
A text that cannot be read is a text that can be, and behind it a pair that cannot: the fault names
the place of it, between two characters of the whole. Where that is the first character of the pair,
whatever follows it makes no difference.
-/
theorem tokenizeAttrs_fault {attrs : String} {fault : AttrFault}
    (h : tokenizeAttrs attrs = .error fault) :
    ∃ cut : Attrs.Cut, ∃ rest, cut.Before rest ∧ attrs.toList = cut.text ++ rest ∧
      tokenizeAttrs (String.ofList cut.text) = .ok cut.pairs ∧
      fault.Marks (byteLength cut.text) rest ∧
      (∃ front behind, attrs.toList = front ++ behind ∧ fault.offset? = some (byteLength front) ∧
        byteLength front ≤ attrs.utf8ByteSize) ∧
      ((∃ offset, fault = .emptyKey offset ∨ ∃ c, fault = .unexpectedChar c offset) →
        ∃ first behind, rest = first :: behind ∧
          ∀ other, tokenizeAttrs (String.ofList (cut.text ++ first :: other)) = .error fault) := by
  obtain ⟨cut, rest, hb, ht, hm⟩ := Attrs.exists_marks h
  rw [Nat.zero_add] at hm
  refine ⟨cut, rest, hb, ht, ?_, hm, ?_, ?_⟩
  · rw [tokenizeAttrs, String.toList_ofList]
    exact Attrs.scan_text hb.valid 0
  · obtain ⟨front, behind, rfl, ho⟩ := hm.exists_front
    refine ⟨cut.text ++ front, behind, ?_, ?_, ?_⟩
    · rw [ht, List.append_assoc]
    · rw [ho, Text.byteLength_append]
    · rw [← Attrs.byteLength_toList, ht, ← List.append_assoc, Text.byteLength_append _ behind]
      exact Nat.le_add_right _ _
  · rintro ⟨offset, rfl | ⟨c, rfl⟩⟩
    · cases hm with
      | @emptyKey behind =>
        refine ⟨'=', behind, rfl, ?_⟩
        intro other
        exact Attrs.tokenizeAttrs_of_first hb (Attrs.scan_equals _)
    · cases hm with
      | @unexpectedChar _ behind hs hk he =>
        refine ⟨c, behind, rfl, ?_⟩
        intro other
        exact Attrs.tokenizeAttrs_of_first hb (Attrs.scan_unexpected hs hk he _)

/-- The quote that is left open stands behind a blank of three bytes. -/
theorem tokenizeAttrs_fault_openQuote :
    tokenizeAttrs "a='é'b=\u2003\"c" = .error (.unterminatedQuote '"' 11) ∧
      ∃ cut : Attrs.Cut, ∃ rest, "a='é'b=\u2003\"c".toList = cut.text ++ rest ∧
        AttrFault.Marks (byteLength cut.text) (.unterminatedQuote '"' 11) rest := by
  have h : tokenizeAttrs "a='é'b=\u2003\"c" = .error (.unterminatedQuote '"' 11) := by cbv
  obtain ⟨cut, rest, -, ht, -, hm, -⟩ := tokenizeAttrs_fault h
  exact ⟨h, cut, rest, ht, hm⟩

end PageHarvest
