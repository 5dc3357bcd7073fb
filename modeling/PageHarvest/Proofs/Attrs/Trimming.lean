import PageHarvest.Proofs.Attrs.Reading
import PageHarvest.Proofs.Text.Blank

namespace PageHarvest.Attrs

/-- Behind the last pair a blank belongs to it, if its value is left out, and all else separates. -/
theorem Segment.Fits.exists_separator {g : Segment} (h : g.Fits []) {b : Char}
    (hb : isSeparator b = true) :
    g.Fits [b] ∨ ∃ g' : Segment, g'.Fits [] ∧ g'.text = g.text ++ [b] ∧ g'.pair = g.pair := by
  obtain ⟨key, before, after, value⟩ := g
  have hvalue := h.value
  cases hvalue with
  | quoted hq hv => exact .inl { h with value := .quoted hq hv }
  | @bare value _ hq hv hr he =>
    have separates : ∀ c ∈ [b].head?, isSeparator c = true := by
      rintro c ⟨⟩
      exact hb
    rcases Bool.or_eq_true_iff.1 hb with hblank | hcomma
    · by_cases hn : value = []
      · right
        refine ⟨⟨key, before, after ++ [b], .bare value⟩, ?_, ?_, rfl⟩
        · refine { h with afterEquals := List.forall_mem_append.2 ⟨h.afterEquals, ?_⟩ }
          simpa using hblank
        · simp [Segment.text, Written.text, hn]
      · left
        exact { h with value := .bare hq hv separates fun hnil => (hn hnil).elim }
    · left
      refine { h with value := .bare hq hv separates ?_ }
      rintro - c ⟨⟩
      exact beq_iff_eq.1 hcomma

theorem Segment.Fits.exists_of_separator {g : Segment} (h : g.Fits []) {s : List Char} {b : Char}
    (hb : isSeparator b = true) (ht : g.text = s ++ [b]) :
    ∃ g' : Segment, g'.Fits [] ∧ g'.text = s ∧ g'.pair = g.pair := by
  obtain ⟨key, before, after, value⟩ := g
  have last (front : List Char) (c : Char)
      (he : (Segment.mk key before after value).text = front ++ [c]) : front = s ∧ c = b := by
    obtain ⟨hfront, hc⟩ := List.append_inj' (he.symm.trans ht) rfl
    exact ⟨hfront, List.singleton_inj.1 hc⟩
  have hvalue := h.value
  cases hvalue with
  | @quoted quote value _ hq hv =>
    have hc := last (key ++ (before ++ '=' :: (after ++ quote :: value))) quote
      (by simp [Segment.text, Written.text])
    have hnot := isSeparator_of_isQuote hq
    rw [hc.2, hb] at hnot
    cases hnot
  | @bare value _ hq hv hr he =>
    rcases List.eq_nil_or_concat value with rfl | ⟨front, c, rfl⟩
    · rcases List.eq_nil_or_concat after with rfl | ⟨blanks, c, rfl⟩
      · have hc := last (key ++ before) '=' (by simp [Segment.text, Written.text])
        rw [← hc.2] at hb
        cases hb
      · have hc := last (key ++ (before ++ '=' :: blanks)) c
          (by simp [Segment.text, Written.text])
        refine ⟨⟨key, before, blanks, .bare []⟩, ?_, ?_, rfl⟩
        · refine { h with afterEquals := fun d hd => h.afterEquals d ?_ }
          rw [List.concat_eq_append]
          exact List.mem_append_left _ hd
        · rw [← hc.1]
          simp [Segment.text, Written.text]
    · have hc := last (key ++ (before ++ '=' :: (after ++ front))) c
        (by simp [Segment.text, Written.text])
      have hnot := hv c (by simp)
      rw [hc.2, hb] at hnot
      cases hnot

def CutAs (pairs : List AttrPair) (s : List Char) : Prop :=
  ∃ cut : Cut, cut.Valid ∧ cut.text = s ∧ cut.pairs = pairs

theorem tokenizeAttrs_eq_ok_iff {attrs : String} {pairs : List AttrPair} :
    tokenizeAttrs attrs = .ok pairs ↔ CutAs pairs attrs.toList :=
  tokenizeAttrs_exact.1 attrs pairs

namespace CutAs

variable {pairs : List AttrPair} {s : List Char} {b : Char}

theorem cons_separator (h : CutAs pairs s) (hb : isSeparator b = true) :
    CutAs pairs (b :: s) := by
  obtain ⟨cut, hv, rfl, rfl⟩ := h
  cases hv with
  | @stop separators hs =>
    exact ⟨.stop (b :: separators), .stop (List.forall_mem_cons.2 ⟨hb, hs⟩), rfl, rfl⟩
  | @pair separators g rest hs hg hr =>
    exact ⟨.pair (b :: separators) g rest, .pair (List.forall_mem_cons.2 ⟨hb, hs⟩) hg hr, rfl,
      rfl⟩

theorem of_cons_separator (h : CutAs pairs (b :: s)) (hb : isSeparator b = true) :
    CutAs pairs s := by
  obtain ⟨cut, hv, ht, rfl⟩ := h
  cases hv with
  | @stop separators hs =>
    obtain rfl : separators = b :: s := ht
    exact ⟨.stop s, .stop fun c hc => hs c (List.mem_cons_of_mem b hc), rfl, rfl⟩
  | @pair separators g rest hs hg hr =>
    cases separators with
    | nil =>
      obtain ⟨first, tail, he, hk⟩ := hg.exists_cons
      rw [Cut.text, List.nil_append, he, List.cons.injEq] at ht
      have hnot := isSeparator_of_isKeyChar hk
      rw [ht.1, hb] at hnot
      cases hnot
    | cons c separators =>
      rw [Cut.text, List.cons_append, List.cons.injEq] at ht
      refine ⟨.pair separators g rest, .pair (fun c hc => hs c ?_) hg hr, ht.2, rfl⟩
      exact List.mem_cons_of_mem _ hc

theorem concat_separator (h : CutAs pairs s) (hb : isSeparator b = true) :
    CutAs pairs (s ++ [b]) := by
  obtain ⟨cut, hv, rfl, rfl⟩ := h
  induction hv with
  | @stop separators hs =>
    refine ⟨.stop (separators ++ [b]), .stop ?_, rfl, rfl⟩
    exact List.forall_mem_append.2 ⟨hs, by simpa using hb⟩
  | @pair separators g rest hs hg hr ih =>
    obtain ⟨cut, hv, ht, hp⟩ := ih
    by_cases he : rest.text = []
    · rw [he] at hg ht
      rcases hg.exists_separator hb with hg' | ⟨g', hg', hg't, hg'p⟩
      · refine ⟨.pair separators g cut, .pair hs (ht ▸ hg') hv, ?_, ?_⟩
        · simp [Cut.text, ht, he]
        · simp [Cut.pairs, hp]
      · refine ⟨.pair separators g' rest, .pair hs (he ▸ hg') hr, ?_, ?_⟩
        · simp [Cut.text, he, hg't]
        · simp [Cut.pairs, hg'p]
    · have hfits : g.Fits cut.text := by
        refine hg.of_head fun c hc => .inl ?_
        rwa [ht, List.head?_append_of_ne_nil _ he] at hc
      refine ⟨.pair separators g cut, .pair hs hfits hv, ?_, ?_⟩
      · simp [Cut.text, ht]
      · simp [Cut.pairs, hp]

theorem of_concat_separator (h : CutAs pairs (s ++ [b])) (hb : isSeparator b = true) :
    CutAs pairs s := by
  obtain ⟨cut, hv, ht, rfl⟩ := h
  induction hv generalizing s with
  | @stop separators hs =>
    obtain rfl : separators = s ++ [b] := ht
    exact ⟨.stop s, .stop fun c hc => hs c (List.mem_append_left _ hc), rfl, rfl⟩
  | @pair separators g rest hs hg hr ih =>
    rcases List.eq_nil_or_concat rest.text with he | ⟨front, c, he⟩
    · rcases List.eq_nil_or_concat g.text with hg0 | ⟨front, c, hgt⟩
      · exact (Segment.text_append_ne_nil g [] (by rw [hg0, List.nil_append])).elim
      · rw [List.concat_eq_append] at hgt
        rw [Cut.text, he, List.append_nil, hgt, ← List.append_assoc] at ht
        obtain ⟨rfl, hcb⟩ := List.append_inj' ht rfl
        obtain rfl : c = b := by simpa using hcb
        rw [he] at hg
        obtain ⟨g', hg', hg't, hg'p⟩ := hg.exists_of_separator hb hgt
        refine ⟨.pair separators g' rest, .pair hs (he ▸ hg') hr, ?_, ?_⟩
        · simp [Cut.text, he, hg't]
        · simp [Cut.pairs, hg'p]
    · rw [List.concat_eq_append] at he
      rw [Cut.text, he, ← List.append_assoc, ← List.append_assoc] at ht
      obtain ⟨rfl, hcb⟩ := List.append_inj' ht rfl
      obtain rfl : c = b := by simpa using hcb
      obtain ⟨cut, hv, hct, hp⟩ := ih he
      have hfits : g.Fits cut.text := by
        refine hg.of_head fun d hd => .inl ?_
        rw [hct] at hd
        rw [he]
        exact List.mem_head?_append_of_mem_head? hd
      refine ⟨.pair separators g cut, .pair hs hfits hv, ?_, ?_⟩
      · simp [Cut.text, hct]
      · simp [Cut.pairs, hp]

theorem separators_append_iff {separators : List Char}
    (h : ∀ c ∈ separators, isSeparator c = true) :
    CutAs pairs (separators ++ s) ↔ CutAs pairs s := by
  induction separators with
  | nil => rfl
  | cons b separators ih =>
    rw [List.forall_mem_cons] at h
    rw [List.cons_append, ← ih h.2]
    exact ⟨fun hc => hc.of_cons_separator h.1, fun hc => hc.cons_separator h.1⟩

theorem append_separators_iff {separators : List Char}
    (h : ∀ c ∈ separators, isSeparator c = true) :
    CutAs pairs (s ++ separators) ↔ CutAs pairs s := by
  induction separators using List.reverseRecOn with
  | nil => rw [List.append_nil]
  | append_singleton separators b ih =>
    rw [List.forall_mem_append, List.forall_mem_singleton] at h
    rw [← List.append_assoc, ← ih h.1]
    exact ⟨fun hc => hc.of_concat_separator h.2, fun hc => hc.concat_separator h.2⟩

end CutAs

theorem tokenizeAttrs_between_separators {before attrs behind : String} {pairs : List AttrPair}
    (hbefore : ∀ c ∈ before.toList, isSeparator c = true)
    (hbehind : ∀ c ∈ behind.toList, isSeparator c = true) :
    tokenizeAttrs (before ++ attrs ++ behind) = .ok pairs ↔ tokenizeAttrs attrs = .ok pairs := by
  rw [tokenizeAttrs_eq_ok_iff, tokenizeAttrs_eq_ok_iff, String.toList_append, String.toList_append,
    CutAs.append_separators_iff hbehind, CutAs.separators_append_iff hbefore]

theorem tokenizeAttrs_trimmed {attrs : String} {pairs : List AttrPair} :
    tokenizeAttrs (Text.trimmed attrs) = .ok pairs ↔ tokenizeAttrs attrs = .ok pairs := by
  obtain ⟨before, behind, he, hbefore, hbehind⟩ := Text.exists_trim attrs.toList
  rw [tokenizeAttrs_eq_ok_iff, tokenizeAttrs_eq_ok_iff, Text.trimmed, String.toList_ofList, he,
    CutAs.append_separators_iff fun c hc => isSeparator_of_isBlank (hbehind c hc),
    CutAs.separators_append_iff fun c hc => isSeparator_of_isBlank (hbefore c hc), ← he]

end PageHarvest.Attrs
