import Mathlib
import PageHarvest.Proofs.Html.Order
import PageHarvest.Proofs.Html.Reading
import PageHarvest.Proofs.Text.Words

namespace PageHarvest.Html.Document

open Text (KeepsWords collapsed joinWith words)

variable {d : Document} {id : NodeId} {n : Nat}

def texts (d : Document) (id : NodeId) : List (List Char) :=
  ((d.descendants id).filterMap d.text?).map String.toList

def textContent (d : Document) (id : NodeId) : String :=
  String.ofList (d.texts id).flatten

def ownText (d : Document) (id : NodeId) : List (List Char) :=
  ((d.text? id).map String.toList).toList

theorem Linked.descendants_eq_children (h : d.Linked) (hx : d.Level root n id) :
    d.descendants id = (d.children id).flatMap fun c => c :: d.descendants c := by
  have hsize := h.level_lt_size hx
  obtain ⟨depth, hdepth⟩ : ∃ depth, d.nodes.size = depth + 1 := ⟨d.nodes.size - 1, by omega⟩
  rw [descendants_eq, hdepth, walk]
  refine List.flatMap_congr ?_
  intro c hc
  rw [descendants_eq, hdepth, walk_add 1]
  intro j y hy
  have first : d.Level id 1 c := .child .top hc
  have := h.level_lt_size (hx.trans (first.trans hy))
  omega

theorem Linked.texts_eq_children (h : d.Linked) (hx : d.Level root n id) :
    d.texts id = (d.children id).flatMap fun c => d.ownText c ++ d.texts c := by
  rw [texts, h.descendants_eq_children hx, List.filterMap_flatMap, List.map_flatMap]
  refine List.flatMap_congr ?_
  intro c _
  rw [List.filterMap_cons, ownText]
  cases d.text? c <;> rfl

theorem elementText_eq (d : Document) (id : NodeId) :
    d.elementText id = String.ofList (joinWith " " ((d.texts id).flatMap words)) := by
  rw [elementText, texts, List.flatMap_map]

theorem elementText_eq_collapsed (d : Document) (id : NodeId) :
    d.elementText id = collapsed (String.ofList (joinWith " " (d.texts id))) := by
  rw [elementText_eq, Text.collapsed_eq, String.toList_ofList, Text.words_joinWith_space]

theorem elementText_eq_iff_keepsWords (d : Document) (id : NodeId) :
    d.elementText id = collapsed (d.textContent id) ↔ KeepsWords (d.texts id) := by
  rw [elementText_eq, Text.collapsed_eq, textContent, String.toList_ofList, String.ofList_inj,
    Text.joinWith_flatMap_words_eq_iff]

/--
The text of an element is that of its texts with a space between any two of them. It is what they
spell one after the other, without idle blanks, exactly when no word goes on from one of them to the
next. So of two elements that spell the same, one with all words kept together, the other has the
same text exactly when its words are kept together too. In a page that has been read, what is taken
for the texts under an element of the tree are those of its children and those under them.
-/
theorem elementText_collapses_iff (d : Document) (id : NodeId) :
    d.elementText id = collapsed (String.ofList (joinWith " " (d.texts id))) ∧
    (d.elementText id = collapsed (d.textContent id) ↔ KeepsWords (d.texts id)) ∧
    (∀ (d' : Document) (id' : NodeId), d'.textContent id' = d.textContent id →
      KeepsWords (d.texts id) →
      (d'.elementText id' = d.elementText id ↔ KeepsWords (d'.texts id'))) ∧
    ∀ text, d = Document.parse text → d.InTree id →
      d.texts id = (d.children id).flatMap fun c => d.ownText c ++ d.texts c := by
  refine ⟨elementText_eq_collapsed d id, elementText_eq_iff_keepsWords d id, ?_, ?_⟩
  · intro d' id' same kept
    rw [(elementText_eq_iff_keepsWords d id).2 kept, ← same]
    exact elementText_eq_iff_keepsWords d' id'
  · rintro text rfl ⟨n, hn⟩
    exact (built_parse text).linked.texts_eq_children hn

def boldLetter : Document where
  nodes := #[
    { content := .document, children := [1] },
    { content := .element ⟨.html, "html", []⟩, parent := some 0, children := [2, 3] },
    { content := .element ⟨.html, "head", []⟩, parent := some 1 },
    { content := .element ⟨.html, "body", []⟩, parent := some 1, children := [4] },
    { content := .element ⟨.html, "p", []⟩, parent := some 3, children := [5, 6] },
    { content := .text "a", parent := some 4 },
    { content := .element ⟨.html, "b", []⟩, parent := some 4, children := [7] },
    { content := .text "b", parent := some 6 }]

/-- A bold letter is not set apart in what is spelled, but it is in the text. -/
theorem not_elementText_collapses_boldLetter :
    Document.parse "<p>a<b>b</b></p>" = boldLetter ∧ boldLetter.isHtml 4 "p" = true ∧
      boldLetter.textContent 4 = "ab" ∧ boldLetter.elementText 4 = "a b" ∧
      ¬boldLetter.elementText 4 = collapsed (boldLetter.textContent 4) := by
  have spelled : boldLetter.textContent 4 = "ab" := by cbv
  have shown : boldLetter.elementText 4 = "a b" := by cbv
  have same : collapsed "ab" = "ab" := by cbv
  refine ⟨by cbv, rfl, spelled, shown, ?_⟩
  rw [shown, spelled, same]
  decide

end PageHarvest.Html.Document
