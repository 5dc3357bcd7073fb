import PageHarvest.Css.Query
import PageHarvest.Proofs.Html.Order

namespace PageHarvest

open Html (Document NodeId)

namespace Css

/-- What the selector describes does not hang on the element that `:scope` stands for. -/
def Unscoped (page : Document) (selectors : SelectorList) : Prop :=
  ∀ id scope, ({ page := page, scope := some scope } : Surroundings).meetsAny id selectors =
    ({ page := page } : Surroundings).meetsAny id selectors

end Css

namespace Html.Document

variable {page : Document} {selectors : Css.SelectorList} {id : NodeId}

def describes (page : Document) (selectors : Css.SelectorList) (id : NodeId) : Bool :=
  page.isElement id && ({ page := page } : Css.Surroundings).meetsAny id selectors

def treeMatches (page : Document) (selectors : Css.SelectorList) : List NodeId :=
  (page.descendants root).filter (page.describes selectors)

theorem pairwise_selectIn (page : Document) (selectors : Css.SelectorList) :
    (Css.selectIn page selectors).Pairwise (· < ·) :=
  List.pairwise_lt_range.filter _

theorem nodup_selectIn (page : Document) (selectors : Css.SelectorList) :
    (Css.selectIn page selectors).Nodup :=
  List.nodup_range.filter _

theorem mem_selectIn_iff : id ∈ Css.selectIn page selectors ↔
    (page.parent? id).isSome = true ∧ page.describes selectors id = true := by
  rw [Css.selectIn, List.mem_filter, ids, List.mem_range, describes, Bool.and_eq_true,
    Bool.and_eq_true, Bool.and_eq_true]
  constructor
  · rintro ⟨-, ⟨he, hp⟩, hm⟩
    exact ⟨hp, he, hm⟩
  · rintro ⟨hp, he, hm⟩
    obtain ⟨p, hparent⟩ := Option.isSome_iff_exists.1 hp
    exact ⟨lt_size_of_parent? hparent, ⟨he, hp⟩, hm⟩

namespace Linked

theorem mem_treeMatches_iff (h : page.Linked) : id ∈ page.treeMatches selectors ↔
    page.InTree id ∧ page.describes selectors id = true := by
  rw [treeMatches, List.mem_filter, h.mem_descendants_iff]

theorem mem_selectIn_of_inTree (h : page.Linked) (ht : page.InTree id)
    (hd : page.describes selectors id = true) : id ∈ Css.selectIn page selectors :=
  mem_selectIn_iff.2 ⟨isSome_parent?_of_inTree h ht, hd⟩

theorem inOrder_treeMatches (h : page.Linked) (selectors : Css.SelectorList) :
    page.InOrder (page.treeMatches selectors) where
  inTree _ hid := (h.mem_treeMatches_iff.1 hid).1
  ordered := (h.pairwise_place.filter _).imp Nat.le_of_lt

theorem selectIn_eq_iff (h : page.Linked) :
    Css.selectIn page selectors = page.treeMatches selectors ↔
      page.Grown (Css.selectIn page selectors) := by
  rw [← inOrder_iff_grown (pairwise_selectIn page selectors)]
  constructor
  · intro he
    rw [he]
    exact h.inOrder_treeMatches selectors
  · intro ho
    have hn : (page.treeMatches selectors).Nodup := h.nodup_descendants.filter _
    refine ho.eq_of_mem_iff h (h.inOrder_treeMatches selectors) (nodup_selectIn _ _) hn ?_
    intro id
    rw [h.mem_treeMatches_iff]
    constructor
    · intro hid
      exact ⟨ho.inTree id hid, (mem_selectIn_iff.1 hid).2⟩
    · rintro ⟨ht, hd⟩
      exact h.mem_selectIn_of_inTree ht hd

/-- The first matches below elements in the order of the tree are in that order themselves. -/
theorem inOrder_firstBelow {containers : List NodeId} (h : page.Linked)
    (hc : page.InOrder containers) (hs : Css.Unscoped page selectors) :
    page.InOrder (containers.filterMap fun c => page.firstBelow? c selectors) := by
  have below (c : NodeId) : page.firstBelow? c selectors =
      ((page.descendants c).filter (page.describes selectors)).head? := by
    unfold firstBelow? Css.selectBelow
    congr 1
    refine List.filter_congr ?_
    intro x _
    rw [hs x c]
    rfl
  constructor
  · intro id hid
    obtain ⟨c, hcm, hf⟩ := List.mem_filterMap.1 hid
    rw [below] at hf
    have hm := List.mem_filter.1 (List.mem_of_head? hf)
    exact inTree_of_mem_descendants (hc.inTree c hcm) hm.1
  · rw [List.pairwise_filterMap]
    refine hc.ordered.imp_of_mem ?_
    intro c c' hcm hcm' hle x hx y hy
    rw [below] at hx hy
    exact h.place_head?_le (hc.inTree c hcm) (hc.inTree c' hcm') hle hx hy

end Linked
end Html.Document

end PageHarvest
