import PageHarvest.Proofs.Attrs.Trimming
import PageHarvest.Proofs.Descriptor.Meaning

namespace PageHarvest

theorem trySelector_eq_ok_iff {tag attrs selector : String} :
    trySelector tag attrs = .ok selector ↔
      ∃ pairs parts, tokenizeAttrs attrs = .ok pairs ∧
        pairs.mapM AttrPair.selectorPart = .ok parts ∧
        selector = String.ofList (Text.trim tag.toList ++ parts.flatten) := by
  constructor
  · intro h
    obtain ⟨pairs, hp⟩ := exists_pairs_of_trySelector h
    obtain ⟨parts, hparts⟩ := exists_parts_of_trySelector hp h
    exact ⟨pairs, parts, hp, hparts⟩
  · rintro ⟨pairs, parts, hp, hm, rfl⟩
    rw [trySelector]
    by_cases hb : Text.allBlank attrs = true
    · rw [if_pos hb]
      rw [tokenizeAttrs_of_allBlank hb] at hp
      cases hp
      rw [List.mapM_nil] at hm
      cases hm
      rw [List.flatten_nil, List.append_nil]
      rfl
    · rw [if_neg hb, hp]
      simp only [bind, Except.bind, hm]
      rfl

theorem trySelector_trimmed {tag attrs selector : String} :
    trySelector (Text.trimmed tag) (Text.trimmed attrs) = .ok selector ↔
      trySelector tag attrs = .ok selector := by
  have sameTag : Text.trim (Text.trimmed tag).toList = Text.trim tag.toList := by
    rw [Text.trimmed, String.toList_ofList, Text.trim_trim]
  simp only [trySelector_eq_ok_iff, Attrs.tokenizeAttrs_trimmed, sameTag]

theorem selectorOf_congr {tag attrs tag' attrs' : String}
    (h : ∀ selector,
      trySelector tag attrs = .ok selector ↔ trySelector tag' attrs' = .ok selector) :
    selectorOf tag attrs = selectorOf tag' attrs' := by
  unfold selectorOf
  cases hs : trySelector tag attrs with
  | ok selector => rw [(h selector).1 hs]
  | error fault =>
    cases hs' : trySelector tag' attrs' with
    | ok selector =>
      rw [(h selector).2 hs'] at hs
      cases hs
    | error fault' => rfl

theorem selectorOf_trimmed (tag attrs : String) :
    selectorOf (Text.trimmed tag) (Text.trimmed attrs) = selectorOf tag attrs := by
  apply selectorOf_congr
  intro selector
  exact trySelector_trimmed

theorem selectorOf_between_separators (tag : String) {before attrs behind : String}
    (hbefore : ∀ c ∈ before.toList, Attrs.isSeparator c = true)
    (hbehind : ∀ c ∈ behind.toList, Attrs.isSeparator c = true) :
    selectorOf tag (before ++ attrs ++ behind) = selectorOf tag attrs := by
  apply selectorOf_congr
  intro selector
  simp only [trySelector_eq_ok_iff, Attrs.tokenizeAttrs_between_separators hbefore hbehind]

end PageHarvest
