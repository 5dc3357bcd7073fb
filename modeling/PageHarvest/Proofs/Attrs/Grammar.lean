import Mathlib
import PageHarvest.Attrs.Scan
import PageHarvest.Proofs.Text.Run

namespace PageHarvest.Attrs

open Text (WholeRun)

inductive Written
  | quoted (quote : Char) (value : List Char)
  | bare (value : List Char)
deriving DecidableEq, Repr

namespace Written

def text : Written → List Char
  | quoted quote value => quote :: (value ++ [quote])
  | bare value => value

def value : Written → List Char
  | quoted _ value => value
  | bare value => value

/--
The value may stand in front of `rest`. Between quotes it goes up to the next quote of that kind;
bare it goes up to the next separator or the end, and a comma or the end follows where it is empty.
-/
inductive Fits : Written → List Char → Prop
  | quoted {quote : Char} {value rest : List Char} :
    isQuote quote = true → quote ∉ value → Fits (.quoted quote value) rest
  | bare {value rest : List Char} :
    (∀ c ∈ value.head?, isQuote c = false) → (∀ c ∈ value, isSeparator c = false) →
      (∀ c ∈ rest.head?, isSeparator c = true) → (value = [] → ∀ c ∈ rest.head?, c = ',') →
      Fits (.bare value) rest

end Written

/-- A pair as it is written. -/
structure Segment where
  key : List Char
  beforeEquals : List Char
  afterEquals : List Char
  value : Written
deriving DecidableEq, Repr

namespace Segment

def text (g : Segment) : List Char :=
  g.key ++ (g.beforeEquals ++ '=' :: (g.afterEquals ++ g.value.text))

def pair (g : Segment) : AttrPair :=
  ⟨String.ofList g.key, String.ofList g.value.value⟩

/-- The pair may stand in front of `rest`. -/
structure Fits (g : Segment) (rest : List Char) : Prop where
  key_ne_nil : g.key ≠ []
  key : ∀ c ∈ g.key, isKeyChar c = true
  beforeEquals : ∀ c ∈ g.beforeEquals, Text.isBlank c = true
  afterEquals : ∀ c ∈ g.afterEquals, Text.isBlank c = true
  value : g.value.Fits rest

end Segment

/-- An attribute text cut into pairs with separators before, between and behind them. -/
inductive Cut
  | stop (separators : List Char)
  | pair (separators : List Char) (segment : Segment) (rest : Cut)
deriving DecidableEq, Repr

namespace Cut

def text : Cut → List Char
  | stop separators => separators
  | pair separators segment rest => separators ++ (segment.text ++ rest.text)

def pairs : Cut → List AttrPair
  | stop _ => []
  | pair _ segment rest => segment.pair :: rest.pairs

inductive Valid : Cut → Prop
  | stop {separators : List Char} :
    (∀ c ∈ separators, isSeparator c = true) → Valid (.stop separators)
  | pair {separators : List Char} {segment : Segment} {rest : Cut} :
    (∀ c ∈ separators, isSeparator c = true) → segment.Fits rest.text → rest.Valid →
      Valid (.pair separators segment rest)

end Cut

theorem toNat_of_isKeyChar {c : Char} (h : isKeyChar c = true) :
    45 ≤ c.toNat ∧ c.toNat ≤ 122 := by
  rw [Char.toNat]
  simp only [isKeyChar, Char.isAlphanum, Char.isAlpha, Char.isUpper, Char.isLower, Char.isDigit,
    Bool.or_eq_true, Bool.and_eq_true, decide_eq_true_eq, beq_iff_eq, ge_iff_le,
    UInt32.le_iff_toNat_le, Char.reduceVal, UInt32.reduceToNat] at h
  rcases h with ((h | h) | rfl) | rfl
  · omega
  · omega
  · decide
  · decide

theorem isSeparator_of_isKeyChar {c : Char} (h : isKeyChar c = true) : isSeparator c = false := by
  have hn := toNat_of_isKeyChar h
  have hc : c ≠ ',' := by
    rintro rfl
    cases h
  simp only [isSeparator, Text.isBlank, Bool.or_eq_false_iff, Bool.and_eq_false_iff,
    decide_eq_false_iff_not, beq_eq_false_iff_ne]
  refine ⟨?_, hc⟩
  omega

theorem isSeparator_of_isQuote {c : Char} (h : isQuote c = true) : isSeparator c = false := by
  simp only [isQuote, Bool.or_eq_true, beq_iff_eq] at h
  obtain rfl | rfl := h <;> rfl

theorem isBlank_eq_false {c : Char} (h : isSeparator c = false) : Text.isBlank c = false :=
  (Bool.or_eq_false_iff.1 h).1

theorem isSeparator_of_isBlank {c : Char} (h : Text.isBlank c = true) : isSeparator c = true := by
  rw [isSeparator, h]
  rfl

theorem isKeyChar_of_isBlank {c : Char} (h : Text.isBlank c = true) : isKeyChar c = false := by
  cases hk : isKeyChar c with
  | false => rfl
  | true =>
    have hb := isBlank_eq_false (isSeparator_of_isKeyChar hk)
    rw [h] at hb
    cases hb

namespace Written.Fits

variable {w w' : Written} {rest rest' : List Char}

/-- A value in front of a text does not start with a blank. -/
theorem isBlank_head (h : w.Fits rest) : ∀ c ∈ (w.text ++ rest).head?, Text.isBlank c = false := by
  cases h with
  | quoted hq hv =>
    rintro c ⟨⟩
    exact isBlank_eq_false (isSeparator_of_isQuote hq)
  | @bare value _ hq hv hr he =>
    intro c hc
    cases value with
    | nil =>
      rw [he rfl c hc]
      rfl
    | cons first value =>
      obtain rfl : first = c := Option.some.inj hc
      exact isBlank_eq_false (hv first List.mem_cons_self)

theorem wholeRun_quoted {quote : Char} {value : List Char} (h : quote ∉ value)
    (rest : List Char) : WholeRun (· != quote) value (quote :: rest) where
  inside c hc := by
    rw [bne_iff_ne]
    rintro rfl
    exact h hc
  boundary := by
    rintro c ⟨⟩
    exact bne_self_eq_false' _

theorem wholeRun_bare {value : List Char} (hv : ∀ c ∈ value, isSeparator c = false)
    (hr : ∀ c ∈ rest.head?, isSeparator c = true) : WholeRun (!isSeparator ·) value rest where
  inside c hc := by rw [hv c hc]; rfl
  boundary c hc := by rw [hr c hc]; rfl

theorem not_quoted_eq_bare {quote : Char} {tail value : List Char}
    (h : isQuote quote = true) (h' : (Written.bare value).Fits rest) :
    quote :: tail ≠ value ++ rest := by
  intro ht
  cases h' with
  | bare hq hv hr he =>
    cases value with
    | nil =>
      have hc := he rfl quote (by rw [← List.nil_append rest, ← ht]; rfl)
      rw [hc] at h
      cases h
    | cons first value =>
      obtain rfl : quote = first := List.head_eq_of_cons_eq ht
      rw [hq quote rfl] at h
      cases h

/--
What fits in front of a text fits in front of one that is empty, starts in the same way or starts
with a comma.
-/
theorem of_head (h : w.Fits rest) (hh : ∀ c ∈ rest'.head?, c ∈ rest.head? ∨ c = ',') :
    w.Fits rest' := by
  cases h with
  | quoted hq hv => exact .quoted hq hv
  | bare hq hv hr he =>
    refine .bare hq hv ?_ ?_
    · intro c hc
      rcases hh c hc with hc | rfl
      · exact hr c hc
      · rfl
    · intro hn c hc
      rcases hh c hc with hc | rfl
      · exact he hn c hc
      · rfl

theorem unique (h : w.Fits rest) (h' : w'.Fits rest') (ht : w.text ++ rest = w'.text ++ rest') :
    w = w' ∧ rest = rest' := by
  cases h with
  | @quoted quote value _ hq hv =>
    cases h' with
    | @quoted quote' value' _ hq' hv' =>
      simp only [text, List.cons_append, List.append_assoc, List.nil_append, List.cons.injEq] at ht
      obtain ⟨rfl, ht⟩ := ht
      obtain ⟨rfl, hr⟩ := (wholeRun_quoted hv rest).unique (wholeRun_quoted hv' rest') ht
      exact ⟨rfl, List.tail_eq_of_cons_eq hr⟩
    | bare hq' hv' hr' he' => exact (not_quoted_eq_bare hq (.bare hq' hv' hr' he') ht).elim
  | bare hq hv hr he =>
    cases h' with
    | quoted hq' hv' => exact (not_quoted_eq_bare hq' (.bare hq hv hr he) ht.symm).elim
    | bare hq' hv' hr' he' =>
      obtain ⟨rfl, rfl⟩ := (wholeRun_bare hv hr).unique (wholeRun_bare hv' hr') ht
      exact ⟨rfl, rfl⟩

end Written.Fits

theorem Segment.text_append (g : Segment) (rest : List Char) :
    g.text ++ rest =
      g.key ++ (g.beforeEquals ++ '=' :: (g.afterEquals ++ (g.value.text ++ rest))) := by
  simp only [text, List.append_assoc, List.cons_append]

theorem Segment.text_append_ne_nil (g : Segment) (rest : List Char) : g.text ++ rest ≠ [] := by
  simp [Segment.text]

namespace Segment.Fits

variable {g g' : Segment} {rest rest' : List Char}

theorem wholeRun_key (h : g.Fits rest) :
    WholeRun isKeyChar g.key
      (g.beforeEquals ++ '=' :: (g.afterEquals ++ (g.value.text ++ rest))) where
  inside := h.key
  boundary c hc := by
    cases hb : g.beforeEquals with
    | nil =>
      rw [hb] at hc
      obtain rfl : '=' = c := Option.some.inj hc
      rfl
    | cons d blanks =>
      rw [hb] at hc
      obtain rfl : d = c := Option.some.inj hc
      exact isKeyChar_of_isBlank (h.beforeEquals d (by rw [hb]; exact List.mem_cons_self))

theorem wholeRun_beforeEquals (h : g.Fits rest) :
    WholeRun Text.isBlank g.beforeEquals ('=' :: (g.afterEquals ++ (g.value.text ++ rest))) where
  inside := h.beforeEquals
  boundary := by
    rintro c ⟨⟩
    rfl

theorem wholeRun_afterEquals (h : g.Fits rest) :
    WholeRun Text.isBlank g.afterEquals (g.value.text ++ rest) where
  inside := h.afterEquals
  boundary := h.value.isBlank_head

theorem of_head (h : g.Fits rest) (hh : ∀ c ∈ rest'.head?, c ∈ rest.head? ∨ c = ',') :
    g.Fits rest' :=
  { h with value := h.value.of_head hh }

theorem unique (h : g.Fits rest) (h' : g'.Fits rest') (ht : g.text ++ rest = g'.text ++ rest') :
    g = g' ∧ rest = rest' := by
  rw [text_append, text_append] at ht
  obtain ⟨hk, ht⟩ := h.wholeRun_key.unique h'.wholeRun_key ht
  obtain ⟨hb, ht⟩ := h.wholeRun_beforeEquals.unique h'.wholeRun_beforeEquals ht
  obtain ⟨ha, ht⟩ := h.wholeRun_afterEquals.unique h'.wholeRun_afterEquals
    (List.tail_eq_of_cons_eq ht)
  obtain ⟨hv, hr⟩ := h.value.unique h'.value ht
  cases g
  cases g'
  cases hk
  cases hb
  cases ha
  cases hv
  exact ⟨rfl, hr⟩

theorem exists_cons (h : g.Fits rest) :
    ∃ first tail, g.text ++ rest = first :: tail ∧ isKeyChar first = true := by
  obtain ⟨first, key, hk⟩ := List.exists_cons_of_ne_nil h.key_ne_nil
  refine ⟨first, _, by rw [g.text_append, hk, List.cons_append], h.key first ?_⟩
  rw [hk]
  exact List.mem_cons_self

theorem wholeRun_separators (h : g.Fits rest) {separators : List Char}
    (hs : ∀ c ∈ separators, isSeparator c = true) :
    WholeRun isSeparator separators (g.text ++ rest) where
  inside := hs
  boundary c hc := by
    obtain ⟨first, tail, ht, hk⟩ := h.exists_cons
    rw [ht] at hc
    obtain rfl : first = c := Option.some.inj hc
    exact isSeparator_of_isKeyChar hk

end Segment.Fits

theorem wholeRun_of_separators {separators : List Char}
    (hs : ∀ c ∈ separators, isSeparator c = true) : WholeRun isSeparator separators [] where
  inside := hs
  boundary := nofun

theorem Cut.Valid.unique {cut cut' : Cut} (h : cut.Valid) (h' : cut'.Valid)
    (ht : cut.text = cut'.text) : cut = cut' := by
  induction h generalizing cut' with
  | @stop separators hs =>
    cases h' with
    | stop hs' => exact congrArg Cut.stop ht
    | pair hs' hg' hr' =>
      have he : separators ++ [] = _ := (List.append_nil _).trans ht
      obtain ⟨-, hn⟩ := (wholeRun_of_separators hs).unique (hg'.wholeRun_separators hs') he
      exact (Segment.text_append_ne_nil _ _ hn.symm).elim
  | @pair separators g rest hs hg hr ih =>
    cases h' with
    | @stop separators' hs' =>
      have he : _ = separators' ++ [] := ht.trans (List.append_nil _).symm
      obtain ⟨-, hn⟩ := (hg.wholeRun_separators hs).unique (wholeRun_of_separators hs') he
      exact (Segment.text_append_ne_nil _ _ hn).elim
    | pair hs' hg' hr' =>
      obtain ⟨rfl, hb⟩ := (hg.wholeRun_separators hs).unique (hg'.wholeRun_separators hs') ht
      obtain ⟨rfl, hc⟩ := hg.unique hg' hb
      rw [ih hr' hc]

theorem Cut.Valid.isKeyChar_of_mem {cut : Cut} (h : cut.Valid) :
    ∀ pair ∈ cut.pairs, ∀ c ∈ pair.key.toList, isKeyChar c = true := by
  induction h with
  | stop hs => nofun
  | @pair separators g rest hs hg hr ih =>
    rw [pairs, List.forall_mem_cons]
    refine ⟨?_, ih⟩
    rw [Segment.pair, String.toList_ofList]
    exact hg.key

end PageHarvest.Attrs
