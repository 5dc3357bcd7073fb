import PageHarvest.Css.Query
import PageHarvest.Proofs.Attrs.Reading
import PageHarvest.Proofs.Descriptor.Test
import PageHarvest.Proofs.Except

namespace PageHarvest

open Attrs (isKeyChar)
open Css (Denotes IsName isBare equalTest)

/-- ASCII letters, digits, hyphens and underscores, with a letter first. -/
def isIdentifier (word : List Char) : Bool :=
  word.head?.any Char.isAlpha && word.all isKeyChar

namespace AttrPair

def conditions (pair : AttrPair) : List Css.Simple :=
  if pair.named "id" then ((Text.words pair.value.toList).take 1).map (.id <| String.ofList ·)
  else if pair.named "class" then
    (Text.words pair.value.toList).map (.class <| String.ofList ·)
  else [.attribute (equalTest pair.key pair.value)]

/-- The id and the classes are identifiers; another name starts like one, and its value is bare. -/
def isPlain (pair : AttrPair) : Bool :=
  if pair.named "id" then (Text.words pair.value.toList).head?.all isIdentifier
  else if pair.named "class" then (Text.words pair.value.toList).all isIdentifier
  else pair.key.toList.head?.any Char.isAlpha && pair.value.toList.all isBare

end AttrPair

theorem isNameChar_of_isKeyChar {c : Char} (h : isKeyChar c = true) :
    Css.isNameChar c = true ∧ c ≠ '\x00' := by
  constructor
  · simp only [isKeyChar, Char.isAlphanum, Bool.or_eq_true] at h
    simp only [Css.isNameChar, Css.isNameStart, Bool.or_eq_true]
    tauto
  · rintro rfl
    cases h

theorem isName_of_letter {word : List Char} (h : word.head?.any Char.isAlpha = true)
    (hw : ∀ c ∈ word, isKeyChar c = true) : IsName word where
  starts := by
    cases word with
    | nil => cases h
    | cons c tail =>
      have hc : Css.isNameStart c = true := by
        have hl : c.isAlpha = true := h
        rw [Css.isNameStart, hl]
        rfl
      exact Css.startsName_of_isNameStart hc tail
  inside c hc := isNameChar_of_isKeyChar (hw c hc)

theorem isName_of_isIdentifier {word : List Char} (h : isIdentifier word = true) :
    IsName word := by
  obtain ⟨hl, hw⟩ := Bool.and_eq_true_iff.1 h
  exact isName_of_letter hl (List.all_eq_true.1 hw)

section Parts

variable {pair : AttrPair} {pairs : List AttrPair} {part : List Char}

theorem AttrPair.denotes_idPart (h : pair.named "id" = true) (hp : pair.isPlain = true)
    (hs : pair.idPart = .ok part) : Denotes part pair.conditions := by
  rw [isPlain, if_pos h] at hp
  rw [conditions, if_pos h]
  cases hw : Text.words pair.value.toList with
  | nil =>
    rw [idPart, hw] at hs
    cases hs
  | cons first words =>
    rw [idPart, hw] at hs
    rw [hw] at hp
    cases hs
    exact Css.denotes_id (isName_of_isIdentifier hp)

theorem AttrPair.denotes_classPart (hi : pair.named "id" = false) (h : pair.named "class" = true)
    (hp : pair.isPlain = true) : Denotes pair.classPart pair.conditions := by
  rw [isPlain, hi, if_neg Bool.false_ne_true, if_pos h, List.all_eq_true] at hp
  rw [conditions, hi, if_neg Bool.false_ne_true, if_pos h, List.map_eq_flatMap, classPart]
  refine Denotes.flatMap ?_
  intro word hw
  exact Css.denotes_class (isName_of_isIdentifier (hp word hw))

theorem AttrPair.denotes_testPart (hk : ∀ c ∈ pair.key.toList, isKeyChar c = true)
    (hi : pair.named "id" = false) (hc : pair.named "class" = false) (hp : pair.isPlain = true) :
    Denotes pair.testPart pair.conditions := by
  rw [isPlain, hi, if_neg Bool.false_ne_true, hc, if_neg Bool.false_ne_true,
    Bool.and_eq_true] at hp
  rw [conditions, hi, if_neg Bool.false_ne_true, hc, if_neg Bool.false_ne_true]
  obtain ⟨hl, hv⟩ := hp
  have ends (rest : List Char) : Css.EndsName (pair.testPart ++ rest) := by
    rw [testPart_append]
    exact Css.endsName_cons (by decide)
  exact Css.denotes_test
    (tokens_testPart_of_isBare (isName_of_letter hl hk) (List.all_eq_true.1 hv)) ends

theorem AttrPair.denotes_selectorPart (hk : ∀ c ∈ pair.key.toList, isKeyChar c = true)
    (hp : pair.isPlain = true) (hs : pair.selectorPart = .ok part) :
    Denotes part pair.conditions := by
  rw [selectorPart] at hs
  cases hi : pair.named "id" with
  | true =>
    rw [if_pos hi] at hs
    exact denotes_idPart hi hp hs
  | false =>
    rw [hi, if_neg Bool.false_ne_true] at hs
    cases hc : pair.named "class" with
    | true =>
      rw [if_pos hc] at hs
      cases hs
      exact denotes_classPart hi hc hp
    | false =>
      rw [hc, if_neg Bool.false_ne_true] at hs
      cases hs
      exact denotes_testPart hk hi hc hp

theorem denotes_parts {parts : List (List Char)}
    (hk : ∀ pair ∈ pairs, ∀ c ∈ pair.key.toList, isKeyChar c = true)
    (hp : ∀ pair ∈ pairs, pair.isPlain = true)
    (hs : pairs.mapM AttrPair.selectorPart = .ok parts) :
    Denotes parts.flatten (pairs.flatMap AttrPair.conditions) := by
  induction pairs generalizing parts with
  | nil =>
    cases hs
    exact Denotes.nil
  | cons pair pairs ih =>
    rw [List.forall_mem_cons] at hk hp
    rw [List.mapM_cons] at hs
    obtain ⟨part, hpart, hs⟩ := bind_eq_ok hs
    obtain ⟨rest, hrest, hs⟩ := bind_eq_ok hs
    cases hs
    exact (AttrPair.denotes_selectorPart hk.1 hp.1 hpart).append (ih hk.2 hp.2 hrest)

end Parts

theorem tokenizeAttrs_of_allBlank {attrs : String} (h : Text.allBlank attrs = true) :
    tokenizeAttrs attrs = .ok [] := by
  refine Attrs.scan_of_separators ?_ 0
  intro c hc
  rw [Attrs.isSeparator, List.all_eq_true.1 h c hc]
  rfl

theorem exists_pairs_of_trySelector {tag attrs selector : String}
    (h : trySelector tag attrs = .ok selector) : ∃ pairs, tokenizeAttrs attrs = .ok pairs := by
  rw [trySelector] at h
  by_cases hb : Text.allBlank attrs = true
  · exact ⟨[], tokenizeAttrs_of_allBlank hb⟩
  · rw [if_neg hb] at h
    obtain ⟨pairs, hp, _⟩ := bind_eq_ok h
    exact ⟨pairs, hp⟩

theorem exists_parts_of_trySelector {tag attrs selector : String} {pairs : List AttrPair}
    (hp : tokenizeAttrs attrs = .ok pairs) (h : trySelector tag attrs = .ok selector) :
    ∃ parts, pairs.mapM AttrPair.selectorPart = .ok parts ∧
      selector = String.ofList (Text.trim tag.toList ++ parts.flatten) := by
  rw [trySelector] at h
  by_cases hb : Text.allBlank attrs = true
  · rw [if_pos hb] at h
    cases h
    rw [tokenizeAttrs_of_allBlank hb] at hp
    cases hp
    refine ⟨[], rfl, ?_⟩
    rw [List.flatten_nil, List.append_nil]
    rfl
  · rw [if_neg hb, hp] at h
    obtain ⟨parts, hm, he⟩ := bind_eq_ok (x := pairs.mapM AttrPair.selectorPart) h
    cases he
    exact ⟨parts, hm, rfl⟩

/--
A selector that is made from a plain description is read back as what the description says, with
nothing added, joined or left out.
-/
theorem trySelector_means {tag attrs selector : String} {pairs : List AttrPair}
    (ht : isIdentifier (Text.trim tag.toList) = true) (hp : tokenizeAttrs attrs = .ok pairs)
    (hs : ∀ pair ∈ pairs, pair.isPlain = true) (h : trySelector tag attrs = .ok selector) :
    Css.selectorsOf selector =
      .ok (.ok [.compound (.type (Text.trimmed tag) :: pairs.flatMap AttrPair.conditions)]) := by
  obtain ⟨parts, hm, rfl⟩ := exists_parts_of_trySelector hp h
  have meaning := denotes_parts (Attrs.isKeyChar_of_tokenizeAttrs hp) hs hm
  rw [Css.selectorsOf, meaning.readSelectors_type (isName_of_isIdentifier ht)]
  rfl

theorem trySelector_means_quoted :
    isIdentifier (Text.trim " div ".toList) = true ∧
      tokenizeAttrs "id=top class=' a  b' title='x\",[y]'" =
        .ok [⟨"id", "top"⟩, ⟨"class", " a  b"⟩, ⟨"title", "x\",[y]"⟩] ∧
      trySelector " div " "id=top class=' a  b' title='x\",[y]'" =
        .ok "div#top.a.b[title=\"x\\\",[y]\"]" ∧
      Css.selectorsOf "div#top.a.b[title=\"x\\\",[y]\"]" =
        .ok (.ok [.compound [.type "div", .id "top", .class "a", .class "b",
          .attribute (equalTest "title" "x\",[y]")]]) := by
  have tag : isIdentifier (Text.trim " div ".toList) = true := rfl
  have pairs : tokenizeAttrs "id=top class=' a  b' title='x\",[y]'" =
      .ok [⟨"id", "top"⟩, ⟨"class", " a  b"⟩, ⟨"title", "x\",[y]"⟩] := by cbv
  have selector : trySelector " div " "id=top class=' a  b' title='x\",[y]'" =
      .ok "div#top.a.b[title=\"x\\\",[y]\"]" := by
    have blank : Text.allBlank "id=top class=' a  b' title='x\",[y]'" = false := rfl
    rw [trySelector, blank, pairs]
    rfl
  refine ⟨tag, pairs, selector, trySelector_means tag pairs ?_ selector⟩
  simp only [List.forall_mem_cons, List.not_mem_nil, false_imp_iff, implies_true, and_true]
  exact ⟨rfl, rfl, rfl⟩

end PageHarvest
