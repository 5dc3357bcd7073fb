import PageHarvest.Proofs.Links.Answer
import PageHarvest.Proofs.Probe.Scoped
import PageHarvest.Proofs.Text.Blank

namespace PageHarvest

open Css (SelectorList Untold)
open Html (Document NodeId)

namespace Harvest

variable {page : Document} {base : LinkBase} {selectors : SelectorList}

def leadsNowhere (page : Document) (id : NodeId) : Bool :=
  match (page.element? id).bind (·.attribute? "href") with
  | none => true
  | some href => Text.allBlank href

def deadEnds (page : Document) (selectors : SelectorList) (containers : List NodeId) :
    List NodeId :=
  containers.filter fun c => (page.firstBelow? c selectors).any (leadsNowhere page)

theorem href?_isSome (page : Document) (id : NodeId) :
    (href? page id).isSome = !leadsNowhere page id := by
  unfold href? leadsNowhere
  cases page.element? id with
  | none => rfl
  | some element =>
    cases hh : element.attribute? "href" with
    | none => simp [hh]
    | some href =>
      simp only [Option.bind_eq_bind, Option.bind_some, hh]
      cases hb : Text.allBlank href with
      | true => simp [Text.trimmed_eq_empty_iff.2 hb]
      | false =>
        have hne : Text.trimmed href ≠ "" := by
          intro he
          rw [Text.trimmed_eq_empty_iff.1 he] at hb
          cases hb
        simp [hne]

theorem length_links_cons (id : NodeId) (found : List NodeId) :
    (ofElements page base (id :: found)).links.length =
      (if leadsNowhere page id then 0 else 1) + (ofElements page base found).links.length := by
  have hs := href?_isSome page id
  cases hh : href? page id with
  | none =>
    rw [hh] at hs
    have hl : leadsNowhere page id = true := by simpa using hs.symm
    simp [ofElements, hh, hl]
  | some href =>
    rw [hh] at hs
    have hl : leadsNowhere page id = false := by simpa using hs.symm
    simp [ofElements, hh, hl, Nat.add_comm]

theorem length_links_add_deadEnds (containers : List NodeId) :
    (ofElements page base
          (containers.filterMap fun c => page.firstBelow? c selectors)).links.length +
        (deadEnds page selectors containers).length =
      (containers.filter fun c => (page.firstBelow? c selectors).isSome).length := by
  induction containers with
  | nil => rfl
  | cons c containers ih =>
    unfold deadEnds at ih ⊢
    cases hm : page.firstBelow? c selectors with
    | none => simpa [hm] using ih
    | some id =>
      cases hl : leadsNowhere page id with
      | true =>
        simp [hm, hl, length_links_cons, ← ih]
        omega
      | false =>
        simp [hm, hl, length_links_cons, ← ih]
        omega

variable {container link : String} {baseUrl : Option String}

theorem containerLinks_of_select_eq_error {message : String}
    (h : page.select container = .ok (.error message)) :
    containerLinks page container link baseUrl = .ok (refused container message) := by
  simp [containerLinks, h, bind, Except.bind, pure, Except.pure]

theorem containerLinks_of_selectors {containers : List NodeId}
    (h : page.select container = .ok (.ok containers))
    (hs : Css.selectorsOf link = .ok (.ok selectors)) :
    containerLinks page container link baseUrl =
      .ok (ofElements page (.ofText baseUrl)
        (containers.filterMap fun c => page.firstBelow? c selectors)) := by
  simp [containerLinks, h, hs, bind, Except.bind, pure, Except.pure]

theorem links_of_no_containers {harvest : Harvest} (h : page.select container = .ok (.ok []))
    (hr : containerLinks page container link baseUrl = .ok harvest) : harvest.links = [] := by
  rcases hs : Css.selectorsOf link with e | message | selectors
  · simp [containerLinks, h, hs, bind, Except.bind] at hr
  · have hm := containerLinks_of_refused baseUrl (.link h) (Css.refused_of_selectorsOf hs)
    rw [hm] at hr
    cases hr
    rfl
  · rw [containerLinks_of_selectors h hs] at hr
    cases hr
    rfl

theorem exists_containerLinks_of_no_containers (h : page.select container = .ok (.ok []))
    (hl : ¬ Untold link) : ∃ harvest, containerLinks page container link baseUrl = .ok harvest := by
  rw [exists_containerLinks_eq_ok_iff]
  intro selector hr
  cases hr with
  | container => exact (Css.exists_select_eq_ok_iff page).1 ⟨_, h⟩
  | link => exact hl

end Harvest

section

variable {page : Document} {c l : ElementDescriptor} {summary : String} {probe : Probe.Result}
  (baseUrl : Option String)

/-- Where the probe counts containers, the harvest is short of the count by the dead ends. -/
theorem containerLinks_of_total (h : Probe.Outcome page c l summary probe) {n : Nat}
    (hn : probe.total = some n) :
    ∃ harvest containers selectors,
      Harvest.containerLinks page c.selector l.selector baseUrl = .ok harvest ∧
      page.select c.selector = .ok (.ok containers) ∧
      Css.selectorsOf l.selector = .ok (.ok selectors) ∧
      containers.length = n ∧ harvest.refusal = none ∧
      harvest.links.length + (Harvest.deadEnds page selectors containers).length = probe.count := by
  obtain ⟨containers, selector, selectors, hf, -, hs, hr, hlength, hcount⟩ := h.exists_of_total hn
  obtain ⟨-, rfl⟩ := Probe.selectorFor_eq_ok_iff.1 hs
  have hfound := Probe.select_of_find hf
  refine ⟨_, containers, selectors, Harvest.containerLinks_of_selectors hfound hr, hfound, hr,
    hlength, rfl, ?_⟩
  rw [hcount]
  exact Harvest.length_links_add_deadEnds containers

/-- Where there is no container, the harvest is empty, unless nothing can be said of the link. -/
theorem containerLinks_of_noContainers (h : Probe.Outcome page c l summary probe)
    (hs : probe.status = .noContainers) :
    (∀ harvest, Harvest.containerLinks page c.selector l.selector baseUrl = .ok harvest →
      harvest.links = []) ∧
    (¬ Untold l.selector →
      ∃ harvest, Harvest.containerLinks page c.selector l.selector baseUrl = .ok harvest) := by
  have hfound := Probe.select_of_find (h.find_of_noContainers hs)
  constructor
  · intro harvest hr
    exact Harvest.links_of_no_containers hfound hr
  · intro hl
    exact Harvest.exists_containerLinks_of_no_containers hfound hl

theorem containerLinks_of_unresolved (h : Probe.Outcome page c l summary probe)
    (hs : probe.status = .containerUnresolved) (hc : c.hasTag = true)
    (hne : c.selector ≠ unmatchable) :
    ∃ harvest, Harvest.containerLinks page c.selector l.selector baseUrl = .ok harvest ∧
      harvest.refusal.isSome = true := by
  rcases h.find_of_unresolved hs with hu | ⟨message, hf⟩
  · rw [hc] at hu
    cases hu
  · rw [Probe.find_of_ne hne] at hf
    exact ⟨_, Harvest.containerLinks_of_select_eq_error hf, rfl⟩

end

/--
What a probe of a link within containers says of the harvest with the same selectors: what it
counts is the links and the dead ends, where there is no container there is no link, and where the
container cannot be looked for the harvest is refused.
-/
theorem containerLinks_agrees_with_probe {page : Document} {c l : ElementDescriptor}
    {probe : Probe.Result} (baseUrl : Option String)
    (h : Probe.run page .linkField l (.within c) = .ok probe) :
    (∀ n, probe.total = some n → ∃ harvest containers selectors,
      Harvest.containerLinks page c.selector l.selector baseUrl = .ok harvest ∧
      page.select c.selector = .ok (.ok containers) ∧
      Css.selectorsOf l.selector = .ok (.ok selectors) ∧
      containers.length = n ∧ harvest.refusal = none ∧
      harvest.links.length ≤ probe.count ∧ probe.count ≤ n ∧
      probe.count - harvest.links.length = (Harvest.deadEnds page selectors containers).length) ∧
    (probe.status = .noContainers →
      (∀ harvest, Harvest.containerLinks page c.selector l.selector baseUrl = .ok harvest →
        harvest.links = []) ∧
      (¬ Untold l.selector →
        ∃ harvest, Harvest.containerLinks page c.selector l.selector baseUrl = .ok harvest)) ∧
    (probe.status = .containerUnresolved → c.hasTag = true → c.selector ≠ unmatchable →
      ∃ harvest, Harvest.containerLinks page c.selector l.selector baseUrl = .ok harvest ∧
        harvest.refusal.isSome = true) := by
  cases ht : l.hasTag with
  | false =>
    rw [Probe.run_of_hasTag_eq_false ht] at h
    cases h
    exact ⟨by nofun, by nofun, by nofun⟩
  | true =>
    obtain ⟨summary, ho⟩ := Probe.exists_outcome rfl ht h
    refine ⟨?_, containerLinks_of_noContainers baseUrl ho, containerLinks_of_unresolved baseUrl ho⟩
    intro n hn
    obtain ⟨harvest, containers, selectors, hr, hf, hs, hlength, hrefusal, hcount⟩ :=
      containerLinks_of_total baseUrl ho hn
    refine ⟨harvest, containers, selectors, hr, hf, hs, hlength, hrefusal, ?_, ?_, ?_⟩
    · omega
    · exact (ho.total_bounds hn).2
    · omega

theorem containerLinks_agrees_with_probe_shelf :
    Probe.run Probe.shelf .linkField { tag := "a" } (.within { tag := "li" }) =
        .ok ⟨2, some 3, "2 of 3 containers have a matching link", .matched⟩ ∧
      ∃ harvest containers selectors,
        Harvest.containerLinks Probe.shelf "li" "a" none = .ok harvest ∧
        containers.length = 3 ∧ harvest.refusal = none ∧ harvest.links.length ≤ 2 ∧
        2 - harvest.links.length = (Harvest.deadEnds Probe.shelf selectors containers).length := by
  have h : Probe.run Probe.shelf .linkField { tag := "a" } (.within { tag := "li" }) =
      .ok ⟨2, some 3, "2 of 3 containers have a matching link", .matched⟩ := by
    cbv
  have container : ElementDescriptor.selector { tag := "li" } = "li" := by cbv
  have link : ElementDescriptor.selector { tag := "a" } = "a" := by cbv
  obtain ⟨harvest, containers, selectors, hr, -, -, hlength, hrefusal, hle, -, hcount⟩ :=
    (containerLinks_agrees_with_probe none h).1 3 rfl
  rw [container, link] at hr
  exact ⟨h, harvest, containers, selectors, hr, hlength, hrefusal, hle, hcount⟩

end PageHarvest
