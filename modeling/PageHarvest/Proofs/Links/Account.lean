import PageHarvest.Proofs.Css.Selected
import PageHarvest.Proofs.Links.Agreement

namespace PageHarvest

open Css (Untold)
open Html (Document NodeId)

theorem Url.text_ne_empty (u : Url) : u.text ≠ "" := by
  intro h
  have hc : u.chars = [] := by
    rw [← String.toList_ofList (l := u.chars)]
    exact congrArg String.toList h
  simp [Url.chars] at hc

def Unbased (baseUrl : Option String) : Prop :=
  ∀ text ∈ baseUrl, Text.allBlank text = true

inductive BaseRead : Option String → Except Url.Fault Url → Prop
  | intro {text : String} {read : Except Url.Fault Url} :
    Text.allBlank text = false → Url.parse (Text.trimmed text) = read → BaseRead (some text) read

theorem Unbased.not_baseRead {baseUrl : Option String} {read : Except Url.Fault Url}
    (hu : Unbased baseUrl) : ¬ BaseRead baseUrl read := by
  rintro (⟨hb, hp⟩)
  rw [hu _ rfl] at hb
  cases hb

theorem BaseRead.unique {baseUrl : Option String} {read read' : Except Url.Fault Url}
    (h : BaseRead baseUrl read) (h' : BaseRead baseUrl read') : read = read' := by
  cases h with
  | intro hb hp =>
    cases h' with
    | intro hb' hp' => exact hp.symm.trans hp'

theorem BaseRead.exists_text {baseUrl : Option String} {read : Except Url.Fault Url}
    (h : BaseRead baseUrl read) : ∃ text, baseUrl = some text := by
  cases h with
  | intro hb hp => exact ⟨_, rfl⟩

theorem base_cases (baseUrl : Option String) :
    Unbased baseUrl ∨ (∃ base, BaseRead baseUrl (.ok base)) ∨
      ∃ fault, BaseRead baseUrl (.error fault) := by
  cases baseUrl with
  | none => exact .inl nofun
  | some text =>
    cases hb : Text.allBlank text with
    | true =>
      left
      rintro _ ⟨⟩
      exact hb
    | false =>
      right
      cases hp : Url.parse (Text.trimmed text) with
      | ok base => exact .inl ⟨base, .intro hb hp⟩
      | error fault => exact .inr ⟨fault, .intro hb hp⟩

namespace LinkBase

variable {baseUrl : Option String} {text : String} {base : Url} {fault : Url.Fault}

theorem ofText_of_unbased (h : Unbased baseUrl) : ofText baseUrl = absent := by
  cases baseUrl with
  | none => rfl
  | some text =>
    have hb := Text.trimmed_eq_empty_iff.2 (h text rfl)
    simp [ofText, hb, Option.filter]

theorem filter_trimmed (h : Text.allBlank text = false) :
    ((some text).map Text.trimmed).filter (· ≠ "") = some (Text.trimmed text) := by
  have hne : Text.trimmed text ≠ "" := by
    intro he
    rw [Text.trimmed_eq_empty_iff.1 he] at h
    cases h
  simp [Option.filter, hne]

theorem ofText_of_read (h : BaseRead baseUrl (.ok base)) : ofText baseUrl = url base := by
  cases h with
  | intro hb hp =>
    unfold ofText
    rw [filter_trimmed hb]
    simp only [hp]

theorem ofText_of_fault (h : BaseRead (some text) (.error fault)) :
    ofText (some text) = invalid (Text.trimmed text) fault := by
  cases h with
  | intro hb hp =>
    unfold ofText
    rw [filter_trimmed hb]
    simp only [hp]

theorem link_eq (b : LinkBase) (text raw : String) :
    b.link text raw = { text := text, href := (b.link text raw).href, selected := true } := by
  unfold link
  split <;> rfl

end LinkBase

namespace Harvest

variable {page : Document} {baseUrl : Option String} {visited : List NodeId} {harvest : Harvest}

/-- A visited element that has an address, and what came of that address. -/
structure Entry where
  element : NodeId
  /-- The address on the page, without the blanks around it. -/
  raw : String
  /-- The address of the link. -/
  href : String
  warning? : Option LinkWarning

namespace Entry

/-- The address of an element, without the blanks around it. -/
structure Stands (page : Document) (e : Entry) : Prop where
  exists_attribute : ∃ element written, page.element? e.element = some element ∧
    element.attribute? "href" = some written ∧ e.raw = Text.trimmed written
  raw_ne_empty : e.raw ≠ ""

/-- What may come of an address, by what is known of the base. -/
inductive Settled : Option String → Entry → Prop
  | unbased {baseUrl : Option String} {id : NodeId} {raw : String} :
    Unbased baseUrl → Settled baseUrl ⟨id, raw, raw, none⟩
  | misbased {text : String} {fault : Url.Fault} {id : NodeId} {raw : String} :
    BaseRead (some text) (.error fault) →
      Settled (some text) ⟨id, raw, raw,
        some ⟨raw, s!"base URL '{Text.trimmed text}' is invalid: {fault.message}"⟩⟩
  | resolved {baseUrl : Option String} {base url : Url} {id : NodeId} {raw : String} :
    BaseRead baseUrl (.ok base) → base.join raw = .ok url →
      Settled baseUrl ⟨id, raw, url.text, none⟩
  | unresolved {baseUrl : Option String} {base : Url} {fault : Url.Fault} {id : NodeId}
      {raw : String} :
    BaseRead baseUrl (.ok base) → base.join raw = .error fault →
      Settled baseUrl ⟨id, raw, raw, some ⟨raw, fault.message⟩⟩

def link (page : Document) (e : Entry) : Link where
  text := page.elementText e.element
  href := e.href
  selected := true

variable {e : Entry}

theorem Settled.href_ne_empty (h : e.Settled baseUrl) (hr : e.raw ≠ "") : e.href ≠ "" := by
  cases h with
  | unbased hb => exact hr
  | misbased hb => exact hr
  | resolved hb hj => exact Url.text_ne_empty _
  | unresolved hb hj => exact hr

/-- Without a base the address stays as it is, and nothing is amiss. -/
theorem Settled.of_unbased (h : e.Settled baseUrl) (hu : Unbased baseUrl) :
    e.href = e.raw ∧ e.warning? = none := by
  cases h with
  | unbased hb => exact ⟨rfl, rfl⟩
  | misbased hb => exact (hu.not_baseRead hb).elim
  | resolved hb hj => exact (hu.not_baseRead hb).elim
  | unresolved hb hj => exact (hu.not_baseRead hb).elim

theorem Settled.of_fault {fault : Url.Fault} (h : e.Settled baseUrl)
    (hb : BaseRead baseUrl (.error fault)) :
    e.href = e.raw ∧ e.warning?.map (·.href) = some e.raw := by
  cases h with
  | unbased hu => exact (hu.not_baseRead hb).elim
  | misbased hb' => exact ⟨rfl, rfl⟩
  | resolved hb' hj => cases hb.unique hb'
  | unresolved hb' hj => cases hb.unique hb'

theorem settled_ofText (baseUrl : Option String) (id : NodeId) (text raw : String) :
    Settled baseUrl ⟨id, raw, ((LinkBase.ofText baseUrl).link text raw).href,
      (LinkBase.ofText baseUrl).warning? raw⟩ := by
  rcases base_cases baseUrl with hu | ⟨base, hb⟩ | ⟨fault, hb⟩
  · rw [LinkBase.ofText_of_unbased hu]
    exact .unbased hu
  · rw [LinkBase.ofText_of_read hb]
    cases hj : base.join raw with
    | ok url =>
      have hr : (LinkBase.url base).resolve raw = .ok url.text := by
        simp [LinkBase.resolve, resolveHref, hj, Except.map]
      simp only [LinkBase.link, LinkBase.warning?, hr]
      exact .resolved hb hj
    | error fault =>
      have hr : (LinkBase.url base).resolve raw = .error fault.message := by
        simp [LinkBase.resolve, resolveHref, hj, Except.map]
      simp only [LinkBase.link, LinkBase.warning?, hr]
      exact .unresolved hb hj
  · obtain ⟨text, rfl⟩ := hb.exists_text
    rw [LinkBase.ofText_of_fault hb]
    exact .misbased hb

end Entry

/-- The entries behind a harvest, in the order of the visits. -/
structure Ledger (page : Document) (baseUrl : Option String) (visited : List NodeId)
    (harvest : Harvest) (entries : List Entry) : Prop where
  elements : entries.map (·.element) = visited.filter (!leadsNowhere page ·)
  stands : ∀ e ∈ entries, e.Stands page
  settled : ∀ e ∈ entries, e.Settled baseUrl
  links : harvest.links = entries.map (·.link page)
  warnings : harvest.warnings = entries.filterMap (·.warning?)

theorem href?_eq_some_iff {e : Entry} : href? page e.element = some e.raw ↔ e.Stands page := by
  unfold href?
  constructor
  · intro h
    obtain ⟨element, he, h⟩ := Option.bind_eq_some_iff.1 h
    obtain ⟨written, hw, h⟩ := Option.bind_eq_some_iff.1 h
    dsimp only at h
    split at h
    · cases h
    · rename_i hne
      have hr : Text.trimmed written = e.raw := Option.some.inj h
      exact ⟨⟨element, written, he, hw, hr.symm⟩, hr ▸ hne⟩
  · rintro ⟨⟨element, written, he, hw, hr⟩, hne⟩
    rw [hr] at hne
    simp [he, hw, hr, hne]

theorem leadsNowhere_iff {id : NodeId} : leadsNowhere page id = true ↔ href? page id = none := by
  have hs := href?_isSome page id
  cases hh : href? page id with
  | none =>
    rw [hh] at hs
    simpa using hs.symm
  | some raw =>
    rw [hh] at hs
    simpa using hs.symm

theorem ofElements_of_none {base : LinkBase} {id : NodeId} (h : href? page id = none) :
    ofElements page base (id :: visited) = ofElements page base visited := by
  simp [ofElements, h]

theorem links_ofElements_of_some {base : LinkBase} {id : NodeId} {raw : String}
    (h : href? page id = some raw) : (ofElements page base (id :: visited)).links =
      base.link (page.elementText id) raw :: (ofElements page base visited).links := by
  simp [ofElements, h]

theorem warnings_ofElements_of_some {base : LinkBase} {id : NodeId} {raw : String}
    (h : href? page id = some raw) : (ofElements page base (id :: visited)).warnings =
      (base.warning? raw).toList ++ (ofElements page base visited).warnings := by
  cases hw : base.warning? raw <;> simp [ofElements, h, hw]

/-- Every visit that finds an address makes an entry. -/
theorem exists_ledger (page : Document) (baseUrl : Option String) (visited : List NodeId) :
    ∃ entries, Ledger page baseUrl visited (ofElements page (.ofText baseUrl) visited) entries := by
  induction visited with
  | nil => exact ⟨[], rfl, nofun, nofun, rfl, rfl⟩
  | cons id visited ih =>
    obtain ⟨entries, h⟩ := ih
    cases hh : href? page id with
    | none =>
      have hl : leadsNowhere page id = true := leadsNowhere_iff.2 hh
      rw [ofElements_of_none hh]
      refine ⟨entries, { h with elements := ?_ }⟩
      rw [h.elements, List.filter_cons_of_neg (by simp [hl])]
    | some raw =>
      have hl : leadsNowhere page id = false := by
        rw [Bool.eq_false_iff, ne_eq, leadsNowhere_iff, hh]
        nofun
      have settled := Entry.settled_ofText baseUrl id (page.elementText id) raw
      refine ⟨_ :: entries, ?_, List.forall_mem_cons.2 ⟨href?_eq_some_iff.1 hh, h.stands⟩,
        List.forall_mem_cons.2 ⟨settled, h.settled⟩, ?_, ?_⟩
      · rw [List.map_cons, h.elements, List.filter_cons_of_pos (by simp [hl])]
      · rw [links_ofElements_of_some hh, h.links, List.map_cons, LinkBase.link_eq]
        rfl
      · rw [warnings_ofElements_of_some hh, h.warnings, List.filterMap_cons]
        cases (LinkBase.ofText baseUrl).warning? raw <;> rfl

namespace Ledger

variable {entries : List Entry}

theorem raws (h : Ledger page baseUrl visited harvest entries) :
    entries.map (·.raw) = visited.filterMap (href? page) := by
  have found : (entries.map (·.element)).filterMap (href? page) = entries.map (·.raw) := by
    rw [List.filterMap_map, ← List.filterMap_eq_map]
    refine List.filterMap_congr ?_
    intro e he
    exact href?_eq_some_iff.2 (h.stands e he)
  rw [← found, h.elements, List.filterMap_filter]
  refine List.filterMap_congr ?_
  intro id _
  have hs := href?_isSome page id
  cases hl : leadsNowhere page id with
  | true =>
    rw [leadsNowhere_iff] at hl
    rw [hl, if_neg (by simp)]
  | false => rfl

theorem hrefs (h : Ledger page baseUrl visited harvest entries)
    (hr : ∀ e ∈ entries, e.href = e.raw) :
    harvest.links.map (·.href) = visited.filterMap (href? page) := by
  rw [← h.raws, h.links, List.map_map]
  exact List.map_congr_left hr

end Ledger

/-- What can be relied on in the harvest of the elements that were visited. -/
structure Accounts (page : Document) (baseUrl : Option String) (visited : List NodeId)
    (harvest : Harvest) : Prop where
  refusal : harvest.refusal = none
  exists_ledger : ∃ entries, Ledger page baseUrl visited harvest entries
  kept : ∀ link ∈ harvest.links, link.selected = true ∧ link.href ≠ ""
  texts : harvest.links.map (·.text) =
    (visited.filter (!leadsNowhere page ·)).map page.elementText
  unbased : Unbased baseUrl →
    harvest.links.map (·.href) = visited.filterMap (href? page) ∧ harvest.warnings = []
  misbased : ∀ fault, BaseRead baseUrl (.error fault) →
    harvest.links.map (·.href) = visited.filterMap (href? page) ∧
      harvest.warnings.map (·.href) = harvest.links.map (·.href)

theorem Ledger.accounts {entries : List Entry}
    (h : Ledger page baseUrl visited harvest entries) (hr : harvest.refusal = none) :
    Accounts page baseUrl visited harvest where
  refusal := hr
  exists_ledger := ⟨entries, h⟩
  kept := by
    intro link hl
    rw [h.links] at hl
    obtain ⟨e, he, rfl⟩ := List.mem_map.1 hl
    exact ⟨rfl, (h.settled e he).href_ne_empty (h.stands e he).raw_ne_empty⟩
  texts := by
    rw [h.links, ← h.elements, List.map_map, List.map_map]
    rfl
  unbased hu := by
    have kept (e : Entry) (he : e ∈ entries) := (h.settled e he).of_unbased hu
    refine ⟨h.hrefs fun e he => (kept e he).1, ?_⟩
    rw [h.warnings, List.filterMap_eq_nil_iff]
    intro e he
    exact (kept e he).2
  misbased fault hb := by
    have kept (e : Entry) (he : e ∈ entries) := (h.settled e he).of_fault hb
    have hrefs := h.hrefs fun e he => (kept e he).1
    refine ⟨hrefs, ?_⟩
    rw [hrefs, ← h.raws, h.warnings, List.map_filterMap, ← List.filterMap_eq_map]
    refine List.filterMap_congr ?_
    intro e he
    exact (kept e he).2

theorem accounts_ofElements (page : Document) (baseUrl : Option String) (visited : List NodeId) :
    Accounts page baseUrl visited (ofElements page (.ofText baseUrl) visited) := by
  obtain ⟨entries, h⟩ := exists_ledger page baseUrl visited
  exact h.accounts rfl

def anchorSelectors : Css.SelectorList :=
  [.compound [.type "a", .attribute ⟨"href", false, none⟩]]

theorem selectorsOf_anchors : Css.selectorsOf anchorSelector = .ok (.ok anchorSelectors) := by
  cbv

theorem select_anchors (page : Document) :
    page.select anchorSelector = .ok (.ok (Css.selectIn page anchorSelectors)) := by
  rw [Document.select, selectorsOf_anchors]

theorem mem_anchors_iff {id : NodeId} :
    id ∈ Css.selectIn page anchorSelectors ↔
      (page.parent? id).isSome = true ∧ ∃ element, page.element? id = some element ∧
        element.name = "a" ∧ (element.attribute? "href").isSome = true := by
  have meets : ({ page := page } : Css.Surroundings).meetsAny id anchorSelectors = true ↔
      ∃ element, page.element? id = some element ∧ element.name = "a" ∧
        (element.attribute? "href").isSome = true := by
    rw [anchorSelectors, Css.Surroundings.meetsAny, Css.Surroundings.meetsComplex,
      Css.Surroundings.meetsAll, Css.Surroundings.meetsAll, Css.Surroundings.meetsAll,
      Css.Surroundings.meets, Css.Surroundings.meets, Css.Surroundings.meetsAny]
    cases he : page.element? id with
    | none => simp
    | some element =>
      have hn : Css.wantedName element "a" = "a" := by
        unfold Css.wantedName
        split <;> rfl
      have hh : Css.wantedName element "href" = "href" := by
        unfold Css.wantedName
        split <;> rfl
      simp [hn, hh, Css.AttributeTest.holds, Html.Element.attribute?]
  rw [Document.mem_selectIn_iff, Document.describes, Bool.and_eq_true, meets]
  refine and_congr_right ?_
  intro _
  constructor
  · rintro ⟨-, hm⟩
    exact hm
  · intro hm
    refine ⟨?_, hm⟩
    obtain ⟨element, he, -⟩ := hm
    rw [Document.isElement, he]
    rfl

/-- What a harvest within containers says: the account of what it visits, or that it is refused. -/
inductive Reports (page : Document) (container link : String) (baseUrl : Option String)
    (harvest : Harvest) : Prop
  | accounts {containers : List NodeId} {selectors : Css.SelectorList} :
    page.select container = .ok (.ok containers) → Css.selectorsOf link = .ok (.ok selectors) →
      Accounts page baseUrl (containers.filterMap fun c => page.firstBelow? c selectors) harvest →
      Reports page container link baseUrl harvest
  | refused {selector : String} {fault : Css.Fault} :
    Reads page container link selector → Css.readSelectors selector = .error fault →
      harvest.links = [] → harvest.warnings = [] → harvest.refusal.isSome = true →
      Reports page container link baseUrl harvest

theorem exists_reports {container link : String}
    (h : ∀ selector, Reads page container link selector → ¬ Untold selector) :
    ∃ harvest, containerLinks page container link baseUrl = .ok harvest ∧
      Reports page container link baseUrl harvest := by
  obtain ⟨found, hf⟩ := (Css.exists_select_eq_ok_iff page).2 (h container .container)
  cases found with
  | error message =>
    obtain ⟨fault, hr, -⟩ := Css.refused_of_select hf
    exact ⟨_, containerLinks_of_select_eq_error hf, .refused .container hr rfl rfl rfl⟩
  | ok containers =>
    obtain ⟨read, hs⟩ := Css.exists_selectorsOf_eq_ok_iff.2 (h link (.link hf))
    cases read with
    | error message =>
      have hrefused := Css.refused_of_selectorsOf hs
      have ⟨fault, hr, _⟩ := hrefused
      exact ⟨_, containerLinks_of_refused baseUrl (.link hf) hrefused,
        .refused (.link hf) hr rfl rfl rfl⟩
    | ok selectors =>
      exact ⟨_, containerLinks_of_selectors hf hs,
        .accounts hf hs (accounts_ofElements page baseUrl _)⟩

theorem texts_containerLinks {container link : String} {baseUrl' : Option String}
    {harvest' : Harvest} (h : containerLinks page container link baseUrl = .ok harvest)
    (h' : containerLinks page container link baseUrl' = .ok harvest') :
    harvest.links.map (·.text) = harvest'.links.map (·.text) := by
  have told := exists_containerLinks_eq_ok_iff.1 ⟨harvest, h⟩
  obtain ⟨found, hf⟩ := (Css.exists_select_eq_ok_iff page).2 (told container .container)
  cases found with
  | error message =>
    rw [containerLinks_of_select_eq_error hf] at h h'
    cases h
    cases h'
    rfl
  | ok containers =>
    obtain ⟨read, hs⟩ := Css.exists_selectorsOf_eq_ok_iff.2 (told link (.link hf))
    cases read with
    | error message =>
      have hr := Css.refused_of_selectorsOf hs
      rw [containerLinks_of_refused _ (.link hf) hr] at h h'
      cases h
      cases h'
      rfl
    | ok selectors =>
      rw [containerLinks_of_selectors hf hs] at h h'
      cases h
      cases h'
      exact (accounts_ofElements page baseUrl _).texts.trans
        (accounts_ofElements page baseUrl' _).texts.symm

theorem allLinks_eq (page : Document) (baseUrl : Option String) :
    allLinks page baseUrl =
      .ok (ofElements page (.ofText baseUrl) (Css.selectIn page anchorSelectors)) := by
  simp [allLinks, select_anchors, bind, Except.bind, pure, Except.pure]

end Harvest

/--
A harvest of all links accounts for the anchors of the page. A harvest within containers accounts
for the first match in each container, or says which selector is refused, just if every selector
that it reads is one or is refused with a message. The base has no say in the texts.
-/
theorem reports_iff (page : Document) :
    (∀ baseUrl, ∃ anchors harvest, page.select anchorSelector = .ok (.ok anchors) ∧
      (∀ id, id ∈ anchors ↔ (page.parent? id).isSome = true ∧
        ∃ element, page.element? id = some element ∧ element.name = "a" ∧
          (element.attribute? "href").isSome = true) ∧
      Harvest.allLinks page baseUrl = .ok harvest ∧
      Harvest.Accounts page baseUrl anchors harvest) ∧
    (∀ container link baseUrl,
      (∃ harvest, Harvest.containerLinks page container link baseUrl = .ok harvest ∧
        Harvest.Reports page container link baseUrl harvest) ↔
      ∀ selector, Harvest.Reads page container link selector → ¬ Untold selector) ∧
    (∀ baseUrl baseUrl' harvest harvest', Harvest.allLinks page baseUrl = .ok harvest →
      Harvest.allLinks page baseUrl' = .ok harvest' →
      harvest.links.map (·.text) = harvest'.links.map (·.text)) ∧
    ∀ container link baseUrl baseUrl' harvest harvest',
      Harvest.containerLinks page container link baseUrl = .ok harvest →
      Harvest.containerLinks page container link baseUrl' = .ok harvest' →
      harvest.links.map (·.text) = harvest'.links.map (·.text) := by
  refine ⟨?_, ?_, ?_, ?_⟩
  · intro baseUrl
    exact ⟨_, _, Harvest.select_anchors page, fun _ => Harvest.mem_anchors_iff,
      Harvest.allLinks_eq page baseUrl, Harvest.accounts_ofElements page baseUrl _⟩
  · intro container link baseUrl
    constructor
    · rintro ⟨harvest, hh, -⟩
      exact Harvest.exists_containerLinks_eq_ok_iff.1 ⟨harvest, hh⟩
    · exact Harvest.exists_reports
  · intro baseUrl baseUrl' harvest harvest' h h'
    rw [Harvest.allLinks_eq] at h h'
    cases h
    cases h'
    exact (Harvest.accounts_ofElements page baseUrl _).texts.trans
      (Harvest.accounts_ofElements page baseUrl' _).texts.symm
  · intro container link baseUrl baseUrl' harvest harvest' h h'
    exact Harvest.texts_containerLinks h h'

/-- A star behind the type of the link is refused, but there is no report that says so. -/
theorem not_reports_star :
    (∃ fault, Css.readSelectors "a*" = .error fault) ∧
      ¬ ∃ harvest, Harvest.containerLinks (Document.parse "<p>x</p>") "p" "a*" none = .ok harvest ∧
        Harvest.Reports (Document.parse "<p>x</p>") "p" "a*" none harvest := by
  have hr : Css.readSelectors "a*" = .error (.unexpected (.delim '*')) := by
    cbv
  refine ⟨⟨_, hr⟩, ?_⟩
  rintro ⟨harvest, hh, -⟩
  have hs : Css.selectorsOf "p" = .ok (.ok [.compound [.type "p"]]) := by
    cbv
  have hf : (Document.parse "<p>x</p>").select "p" =
      .ok (.ok (Css.selectIn (Document.parse "<p>x</p>") [.compound [.type "p"]])) := by
    rw [Document.select, hs]
  have told := Harvest.exists_containerLinks_eq_ok_iff.1 ⟨harvest, hh⟩
  exact told "a*" (.link hf) ⟨_, hr, .unexpected (.delim '*')⟩

end PageHarvest
