import PageHarvest.Css.Query
import PageHarvest.Descriptor.Basic
import PageHarvest.Proofs.Css.Compound
import PageHarvest.Proofs.Descriptor.Trimming

namespace PageHarvest

namespace Css

theorem tokens_unmatchable :
    tokens unmatchable.toList = [.colon, .function "not", .delim '*', .closeParen] := by
  cbv

theorem nest_unmatchable :
    nest [.colon, .function "not", .delim '*', .closeParen] =
      [.single .colon, .block (.function "not") [.single (.delim '*')]] := by
  rfl

/-- A star that stands alone is everything, wherever a selector may stand. -/
theorem readList_star {mode : Mode} (hm : mode.relative = false) :
    readList mode (readings [.single (.delim '*')]) = .ok [.compound [.anyType]] := by
  have type : readType (readings [.single (.delim '*')]) = .ok ([.anyType], []) := rfl
  have compound : readCompound mode (readings [.single (.delim '*')]) = .ok ([.anyType], []) :=
    readCompound_eq rfl type (readSimples_nil mode)
  apply readList_of_readAlternative
  · intro x hx
    obtain rfl := List.mem_singleton.1 hx
    nofun
  · exact readAlternative_of_readCompound hm compound

theorem readSimple_not {content : List Component} {selectors : SelectorList}
    (h : readList { nested := true } (readings content) = .ok selectors) :
    readSimple {} (readings [.single .colon, .block (.function "not") content]) =
      .ok (some (.not selectors), []) := by
  have call : readSimple {} (readings [.single .colon, .block (.function "not") content]) =
      behind [] (((readList { nested := true } (readings content)).map .not).map some) := rfl
  rw [call, h]
  rfl

def notAnything : SelectorList :=
  [.compound [.not [.compound [.anyType]]]]

theorem readSelectors_unmatchable : readSelectors unmatchable = .ok notAnything := by
  have excluded := readSimples_cons (readSimple_not (readList_star rfl))
  rw [readSimples_nil] at excluded
  have untyped : readType (readings [.single .colon,
      .block (.function "not") [.single (.delim '*')]]) =
        .ok ([], readings [.single .colon, .block (.function "not") [.single (.delim '*')]]) := rfl
  rw [readSelectors, tokens_unmatchable, nest_unmatchable]
  apply readList_of_readAlternative
  · intro x hx
    rcases List.mem_cons.1 hx with rfl | hx
    · rintro ⟨⟩
    · obtain rfl := List.mem_singleton.1 hx
      rintro ⟨⟩
  · exact readAlternative_of_readCompound rfl (readCompound_eq rfl untyped excluded)

theorem selectorsOf_unmatchable : selectorsOf unmatchable = .ok (.ok notAnything) := by
  rw [selectorsOf, readSelectors_unmatchable]

theorem meetsAny_notAnything (s : Surroundings) (id : Html.NodeId) :
    s.meetsAny id notAnything = false := by
  rfl

theorem selectIn_notAnything (page : Html.Document) : selectIn page notAnything = [] := by
  rw [selectIn, List.filter_eq_nil_iff]
  intro id _
  rw [meetsAny_notAnything, Bool.and_false]
  exact Bool.false_ne_true

theorem selectBelow_notAnything (page : Html.Document) (scope : Html.NodeId) :
    selectBelow page scope notAnything = [] := by
  rw [selectBelow, List.filter_eq_nil_iff]
  intro id _
  rw [meetsAny_notAnything, Bool.and_false]
  exact Bool.false_ne_true

end Css

namespace Html.Document

theorem select_unmatchable (page : Document) : page.select unmatchable = .ok (.ok []) := by
  rw [select, Css.selectorsOf_unmatchable]
  exact congrArg (Except.ok ∘ Except.ok) (Css.selectIn_notAnything page)

theorem firstBelow?_notAnything (page : Document) (scope : NodeId) :
    page.firstBelow? scope Css.notAnything = none := by
  rw [firstBelow?, Css.selectBelow_notAnything, List.head?_nil]

end Html.Document

namespace AttrPair

/-- The pair lists classes, and there is none in the list, so it adds nothing to a selector. -/
def isIdle (pair : AttrPair) : Bool :=
  !pair.named "id" && pair.named "class" && (Text.words pair.value.toList).isEmpty

variable {pair : AttrPair} {part : List Char}

def isPartMark (c : Char) : Bool :=
  c == '#' || c == '.' || c == '['

theorem selectorPart_of_isIdle (h : pair.isIdle = true) : pair.selectorPart = .ok [] := by
  simp only [isIdle, Bool.and_eq_true, Bool.not_eq_true', List.isEmpty_iff] at h
  obtain ⟨⟨hi, hc⟩, hw⟩ := h
  rw [selectorPart, hi, if_neg Bool.false_ne_true, if_pos hc, classPart, hw, List.flatMap_nil]

theorem head?_of_selectorPart (h : pair.selectorPart = .ok part) (hp : pair.isIdle = false) :
    part.head?.any isPartMark = true := by
  rw [selectorPart] at h
  cases hi : pair.named "id" with
  | true =>
    rw [if_pos hi, idPart] at h
    cases hw : Text.words pair.value.toList with
    | nil =>
      rw [hw] at h
      cases h
    | cons first words =>
      rw [hw] at h
      cases h
      rfl
  | false =>
    rw [hi, if_neg Bool.false_ne_true] at h
    cases hc : pair.named "class" with
    | true =>
      rw [if_pos hc] at h
      cases h
      cases hw : Text.words pair.value.toList with
      | nil =>
        rw [isIdle, hi, hc, hw] at hp
        cases hp
      | cons first words =>
        rw [classPart, hw]
        rfl
    | false =>
      rw [hc, if_neg Bool.false_ne_true] at h
      cases h
      rfl

end AttrPair

theorem flatten_eq_nil_of_unmarked {pairs : List AttrPair} {parts : List (List Char)}
    (h : pairs.mapM AttrPair.selectorPart = .ok parts)
    (hm : ∀ c ∈ parts.flatten, AttrPair.isPartMark c = false) :
    parts.flatten = [] ∧ ∀ pair ∈ pairs, pair.isIdle = true := by
  induction pairs generalizing parts with
  | nil =>
    cases h
    exact ⟨rfl, nofun⟩
  | cons pair pairs ih =>
    rw [List.mapM_cons] at h
    obtain ⟨part, hpart, h⟩ := bind_eq_ok h
    obtain ⟨rest, hrest, h⟩ := bind_eq_ok h
    cases h
    rw [List.flatten_cons, List.forall_mem_append] at hm
    obtain ⟨he, hidle⟩ := ih hrest hm.2
    have idle : pair.isIdle = true := by
      by_contra hp
      obtain ⟨c, hc, hmark⟩ := (Option.any_eq_true _ _).1
        (AttrPair.head?_of_selectorPart hpart (Bool.eq_false_iff.2 hp))
      rw [hm.1 c (List.mem_of_head? hc)] at hmark
      cases hmark
    rw [AttrPair.selectorPart_of_isIdle idle] at hpart
    cases hpart
    refine ⟨?_, List.forall_mem_cons.2 ⟨idle, hidle⟩⟩
    rw [List.flatten_cons, he]
    rfl

theorem mapM_selectorPart_of_isIdle {pairs : List AttrPair}
    (h : ∀ pair ∈ pairs, pair.isIdle = true) :
    ∃ parts, pairs.mapM AttrPair.selectorPart = .ok parts ∧ parts.flatten = [] := by
  induction pairs with
  | nil => exact ⟨[], rfl, rfl⟩
  | cons pair pairs ih =>
    rw [List.forall_mem_cons] at h
    obtain ⟨parts, hm, he⟩ := ih h.2
    refine ⟨[] :: parts, ?_, he⟩
    rw [List.mapM_cons, AttrPair.selectorPart_of_isIdle h.1, hm]
    rfl

namespace ElementDescriptor

def IsFaulty (d : ElementDescriptor) : Prop :=
  ∃ fault, trySelector d.tag d.attrs = .error fault

/-- The tag is the text that stands for no selector, and the attributes add nothing to it. -/
structure SpellsUnmatchable (d : ElementDescriptor) : Prop where
  tag : Text.trimmed d.tag = unmatchable
  attrs : ∃ pairs, tokenizeAttrs d.attrs = .ok pairs ∧ ∀ pair ∈ pairs, pair.isIdle = true

variable {d : ElementDescriptor}

theorem trySelector_of_spellsUnmatchable (h : d.SpellsUnmatchable) :
    trySelector d.tag d.attrs = .ok unmatchable := by
  obtain ⟨pairs, hp, hidle⟩ := h.attrs
  obtain ⟨parts, hm, he⟩ := mapM_selectorPart_of_isIdle hidle
  apply trySelector_eq_ok_iff.2
  refine ⟨pairs, parts, hp, hm, ?_⟩
  rw [he, List.append_nil, ← h.tag, Text.trimmed]

/-- No id, class or attribute test is in that text, so nothing but the tag has put it there. -/
theorem spellsUnmatchable_of_trySelector (h : trySelector d.tag d.attrs = .ok unmatchable) :
    d.SpellsUnmatchable := by
  obtain ⟨pairs, parts, hp, hm, he⟩ := trySelector_eq_ok_iff.1 h
  have text : Text.trim d.tag.toList ++ parts.flatten = unmatchable.toList := by
    rw [he, String.toList_ofList]
  have unmarked : ∀ c ∈ parts.flatten, AttrPair.isPartMark c = false := by
    have whole : unmatchable.toList.all (!AttrPair.isPartMark ·) = true := rfl
    intro c hc
    rw [← text, List.all_append, Bool.and_eq_true] at whole
    simpa using List.all_eq_true.1 whole.2 c hc
  obtain ⟨none, idle⟩ := flatten_eq_nil_of_unmarked hm unmarked
  rw [none, List.append_nil] at text
  refine ⟨?_, pairs, hp, idle⟩
  rw [Text.trimmed, text, String.ofList_toList]

theorem selector_of_isFaulty (h : d.IsFaulty) : d.selector = unmatchable := by
  obtain ⟨fault, hf⟩ := h
  rw [selector, selectorOf, hf]

theorem selector_eq_unmatchable_iff :
    d.selector = unmatchable ↔ d.IsFaulty ∨ d.SpellsUnmatchable := by
  constructor
  · intro h
    rw [selector, selectorOf] at h
    cases hs : trySelector d.tag d.attrs with
    | error fault => exact .inl ⟨fault, hs⟩
    | ok selector =>
      rw [hs] at h
      cases h
      exact .inr (spellsUnmatchable_of_trySelector hs)
  · rintro (h | h)
    · exact selector_of_isFaulty h
    · rw [selector, selectorOf, trySelector_of_spellsUnmatchable h]

theorem not_isFaulty_of_spellsUnmatchable (h : d.SpellsUnmatchable) : ¬ d.IsFaulty := by
  rintro ⟨fault, hf⟩
  rw [trySelector_of_spellsUnmatchable h] at hf
  cases hf

end ElementDescriptor
end PageHarvest
