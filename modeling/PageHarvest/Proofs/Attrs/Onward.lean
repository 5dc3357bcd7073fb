import PageHarvest.Proofs.Attrs.Reading

namespace PageHarvest.Attrs

open Text (byteLength)

variable {rest rest' : List Char}

namespace Cut

/-- The cut stands in front of `rest`, where another pair may begin. -/
inductive Before (rest : List Char) : Cut → Prop
  | stop {separators : List Char} :
    (∀ c ∈ separators, isSeparator c = true) → Before rest (.stop separators)
  | pair {separators : List Char} {segment : Segment} {cut : Cut} :
    (∀ c ∈ separators, isSeparator c = true) → segment.Fits (cut.text ++ rest) →
      Before rest cut → Before rest (.pair separators segment cut)

variable {cut : Cut}

/-- Of what follows only the first character matters, and a comma may always follow. -/
theorem Before.of_head (h : cut.Before rest) (hh : ∀ c ∈ rest'.head?, c ∈ rest.head? ∨ c = ',') :
    cut.Before rest' := by
  induction h with
  | stop hs => exact .stop hs
  | @pair separators segment cut hs hg hr ih =>
    refine .pair hs (hg.of_head ?_) ih
    cases ht : cut.text with
    | nil => exact hh
    | cons d text =>
      rintro c ⟨⟩
      exact .inl rfl

theorem before_nil_iff : cut.Before [] ↔ cut.Valid := by
  constructor
  · intro h
    induction h with
    | stop hs => exact .stop hs
    | pair hs hg hr ih =>
      rw [List.append_nil] at hg
      exact .pair hs hg ih
  · intro h
    induction h with
    | stop hs => exact .stop hs
    | pair hs hg hr ih =>
      refine .pair hs ?_ ih
      rwa [List.append_nil]

theorem Before.valid (h : cut.Before rest) : cut.Valid :=
  before_nil_iff.1 (h.of_head nofun)

/-- Behind a whole text and a comma another pair may begin. -/
theorem Valid.before_comma (h : cut.Valid) (rest : List Char) : cut.Before (',' :: rest) := by
  apply (before_nil_iff.2 h).of_head
  rintro c ⟨⟩
  exact .inr rfl

end Cut

theorem scan_separators {separators : List Char} (h : ∀ c ∈ separators, isSeparator c = true)
    (offset : Nat) (rest : List Char) :
    scan offset (separators ++ rest) = scan (offset + byteLength separators) rest := by
  rw [scan_eq, scan_eq, List.dropWhile_append_of_pos h, List.takeWhile_append_of_pos h,
    Text.byteLength_append, Nat.add_assoc]

theorem scan_cut {cut : Cut} (h : cut.Before rest) (offset : Nat) :
    scan offset (cut.text ++ rest) =
      (scan (offset + byteLength cut.text) rest).map (cut.pairs ++ ·) := by
  induction h generalizing offset with
  | @stop separators hs =>
    rw [Cut.text, scan_separators hs]
    cases scan (offset + byteLength separators) rest <;> rfl
  | @pair separators segment cut hs hg hr ih =>
    rw [Cut.text, List.append_assoc, List.append_assoc, scan_segment hs hg, ih,
      ← List.append_assoc separators, Text.byteLength_append (separators ++ segment.text),
      Nat.add_assoc]
    cases scan (offset + (byteLength (separators ++ segment.text) + byteLength cut.text)) rest <;>
      rfl

/-- The place of a text shows in its faults and nowhere else. -/
theorem scanValue_add (n offset : Nat) (s : List Char) :
    scanValue (n + offset) s = ((scanValue offset s).mapError (AttrFault.shift n)).map
      fun (value, after, rest) => (value, n + after, rest) := by
  unfold scanValue
  cases s with
  | nil => rfl
  | cons c r =>
    dsimp only
    split
    · split
      · rfl
      · simp only [Nat.add_assoc]
        rfl
    · simp only [Nat.add_assoc]
      rfl

theorem scanPair_add (n offset : Nat) (s : List Char) :
    scanPair (n + offset) s = ((scanPair offset s).mapError (AttrFault.shift n)).map
      fun (pair, after, rest) => (pair, n + after, rest) := by
  unfold scanPair
  dsimp only
  split
  · rename_i r hr
    simp only [Nat.add_assoc, scanValue_add n]
    cases scanValue (offset + (byteLength (s.takeWhile isKeyChar) +
        (byteLength ((s.dropWhile isKeyChar).takeWhile Text.isBlank) +
          (1 + byteLength (r.takeWhile Text.isBlank))))) (r.dropWhile Text.isBlank) <;> rfl
  · simp only [Nat.add_assoc]
    rfl

theorem scan_add (n offset : Nat) (s : List Char) :
    scan (n + offset) s = (scan offset s).mapError (AttrFault.shift n) := by
  fun_induction scan offset s with
  | case1 offset s hd =>
    rw [scan_eq, hd]
    rfl
  | case2 offset s start r hd =>
    rw [scan_eq, hd, Nat.add_assoc]
    rfl
  | case3 offset s start c r hd hc hk =>
    rw [scan_eq, hd, Nat.add_assoc]
    simp only [hc, hk, if_false, if_true]
    rfl
  | case4 offset s start c r hd hc hk e hp =>
    rw [scan_of_key hd (by simpa using hk), Nat.add_assoc, scanPair_add, hp]
    rfl
  | case5 offset s start c r hd hc hk pair after rest hp pairs hr ih =>
    rw [scan_of_key hd (by simpa using hk), Nat.add_assoc, scanPair_add, hp]
    change (scan (n + after) rest).map (pair :: ·) = _
    rw [ih, hr]
    rfl
  | case6 offset s start c r hd hc hk pair after rest hp e hr ih =>
    rw [scan_of_key hd (by simpa using hk), Nat.add_assoc, scanPair_add, hp]
    change (scan (n + after) rest).map (pair :: ·) = _
    rw [ih, hr]
    rfl

theorem byteLength_toList (s : String) : byteLength s.toList = s.utf8ByteSize := by
  rw [Text.byteLength_eq_utf8ByteSize, String.ofList_toList]

theorem tokenizeAttrs_append_comma {attrs : String} {pairs : List AttrPair}
    (h : tokenizeAttrs attrs = .ok pairs) (next : String) :
    tokenizeAttrs (attrs ++ "," ++ next) =
      ((tokenizeAttrs next).mapError (AttrFault.shift (attrs.utf8ByteSize + 1))).map
        (pairs ++ ·) := by
  obtain ⟨cut, hv, ht, rfl⟩ := valid_of_scan h
  have text : (attrs ++ "," ++ next).toList = cut.text ++ ',' :: next.toList := by
    rw [String.toList_append, String.toList_append, ht, List.append_assoc]
    rfl
  have hc : ∀ c ∈ [','], isSeparator c = true := by simp [isSeparator]
  have comma (offset : Nat) : scan offset (',' :: next.toList) = scan (offset + 1) next.toList :=
    scan_separators hc offset next.toList
  rw [tokenizeAttrs, text, scan_cut (hv.before_comma _), comma, ht, byteLength_toList,
    Nat.zero_add, ← Nat.add_zero (attrs.utf8ByteSize + 1), scan_add]
  rfl

end PageHarvest.Attrs
