import PageHarvest.Proofs.Html.Reading
import PageHarvest.Proofs.Links.Account

namespace PageHarvest

open Html (Document NodeId)

namespace Harvest.Ledger

variable {page : Document} {baseUrl : Option String} {visited : List NodeId} {harvest : Harvest}
  {entries : List Entry}

theorem inOrder (h : Ledger page baseUrl visited harvest entries) (hv : page.InOrder visited) :
    page.InOrder (entries.map (·.element)) := by
  rw [h.elements]
  exact hv.filter _

theorem inOrder_iff_grown (h : Ledger page baseUrl visited harvest entries)
    (hv : visited.Pairwise (· < ·)) :
    page.InOrder (entries.map (·.element)) ↔ page.Grown (entries.map (·.element)) := by
  rw [h.elements]
  exact Document.inOrder_iff_grown (hv.filter _)

end Harvest.Ledger

/--
In a page that has been read, a selector finds every element of the tree that it describes, each
once. What it finds is exactly that, in the order of the tree, just if it was created in that order
and stands in the tree. The links of all anchors are in the order of the tree on the same terms, and
those within containers are if the containers are found in that order and the link's selector does
not look at `:scope`.
-/
theorem select_in_order_iff (text : String) :
    (∀ selector selectors, Css.selectorsOf selector = .ok (.ok selectors) →
      ∃ found, (Document.parse text).select selector = .ok (.ok found) ∧ found.Nodup ∧
        (∀ id, (Document.parse text).InTree id →
          (Document.parse text).describes selectors id = true → id ∈ found) ∧
        (found = (Document.parse text).treeMatches selectors ↔
          (Document.parse text).Grown found)) ∧
    (∀ baseUrl, ∃ anchors harvest entries,
      (Document.parse text).select anchorSelector = .ok (.ok anchors) ∧
        Harvest.allLinks (Document.parse text) baseUrl = .ok harvest ∧
        Harvest.Ledger (Document.parse text) baseUrl anchors harvest entries ∧
        ((Document.parse text).InOrder (entries.map (·.element)) ↔
          (Document.parse text).Grown (entries.map (·.element)))) ∧
    ∀ container link baseUrl containerSelectors linkSelectors,
      Css.selectorsOf container = .ok (.ok containerSelectors) →
      Css.selectorsOf link = .ok (.ok linkSelectors) →
      ∃ containers harvest entries,
        (Document.parse text).select container = .ok (.ok containers) ∧
          Harvest.containerLinks (Document.parse text) container link baseUrl = .ok harvest ∧
          Harvest.Ledger (Document.parse text) baseUrl
            (containers.filterMap fun c => (Document.parse text).firstBelow? c linkSelectors)
            harvest entries ∧
          ((Document.parse text).Grown containers →
            Css.Unscoped (Document.parse text) linkSelectors →
            (Document.parse text).InOrder (entries.map (·.element))) := by
  have linked := (Document.built_parse text).linked
  have selects {selector : String} {selectors : Css.SelectorList}
      (hs : Css.selectorsOf selector = .ok (.ok selectors)) :
      (Document.parse text).select selector =
        .ok (.ok (Css.selectIn (Document.parse text) selectors)) := by
    rw [Document.select, hs]
  refine ⟨?_, ?_, ?_⟩
  · intro selector selectors hs
    refine ⟨_, selects hs, Document.nodup_selectIn _ _, ?_, linked.selectIn_eq_iff⟩
    intro id ht hd
    exact linked.mem_selectIn_of_inTree ht hd
  · intro baseUrl
    obtain ⟨entries, ledger⟩ := Harvest.exists_ledger (Document.parse text) baseUrl
      (Css.selectIn (Document.parse text) Harvest.anchorSelectors)
    exact ⟨_, _, entries, Harvest.select_anchors _, Harvest.allLinks_eq _ _, ledger,
      ledger.inOrder_iff_grown (Document.pairwise_selectIn _ _)⟩
  · intro container link baseUrl containerSelectors linkSelectors hc hl
    obtain ⟨entries, ledger⟩ := Harvest.exists_ledger (Document.parse text) baseUrl
      ((Css.selectIn (Document.parse text) containerSelectors).filterMap fun c =>
        (Document.parse text).firstBelow? c linkSelectors)
    refine ⟨_, _, entries, selects hc, Harvest.containerLinks_of_selectors (selects hc) hl, ledger,
      ?_⟩
    intro grown unscoped
    have ordered := (Document.inOrder_iff_grown (Document.pairwise_selectIn _ _)).2 grown
    exact ledger.inOrder (linked.inOrder_firstBelow ordered unscoped)

example : (Document.parse "<ul><li>1<li>2").select "li" =
    .ok (.ok ((Document.parse "<ul><li>1<li>2").treeMatches [.compound [.type "li"]])) := by
  cbv

/-- A link that does not fit its table goes before it, but is found behind an earlier link in it. -/
theorem not_select_in_order_misplacedLink :
    Css.selectorsOf anchorSelector = .ok (.ok Harvest.anchorSelectors) ∧
      ¬ ∃ found,
        (Document.parse "<table><td><a href=in>in</a><tr><a href=out>out").select anchorSelector =
            .ok (.ok found) ∧
          found =
            (Document.parse "<table><td><a href=in>in</a><tr><a href=out>out").treeMatches
              Harvest.anchorSelectors := by
  refine ⟨Harvest.selectorsOf_anchors, ?_⟩
  rintro ⟨found, hf, rfl⟩
  have hfound : (Document.parse "<table><td><a href=in>in</a><tr><a href=out>out").select
      anchorSelector = .ok (.ok [8, 11]) := by
    cbv
  have htree : (Document.parse "<table><td><a href=in>in</a><tr><a href=out>out").treeMatches
      Harvest.anchorSelectors = [11, 8] := by
    cbv
  rw [hfound, htree] at hf
  cases hf

end PageHarvest
