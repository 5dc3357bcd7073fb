import PageHarvest.Links.Filter
import PageHarvest.Links.Harvest
import PageHarvest.Proofs.Url.Ends

namespace PageHarvest

open Html (Document NodeId)
open Text (trimmed)

variable {links : List Link} {accepted : List String}

namespace Link

def decided (accepted : List String) (l : Link) : Link :=
  { l with selected := (accepted.map trimmed).contains l.href }

/-- Two links that differ at most in whether they are selected. -/
structure Same (l m : Link) : Prop where
  text : m.text = l.text
  href : m.href = l.href

/-- The link that the filter makes of another one: it is selected if its address was accepted. -/
structure DecidedFrom (accepted : List String) (l m : Link) : Prop extends Same l m where
  selected_iff : m.selected = true ↔ ∃ entry ∈ accepted, l.href = trimmed entry

theorem decidedFrom_decided (accepted : List String) (l : Link) :
    DecidedFrom accepted l (l.decided accepted) where
  text := rfl
  href := rfl
  selected_iff := by simp [decided, eq_comm]

theorem Same.decided_eq {l m : Link} (h : Same l m) (accepted : List String) :
    m.decided accepted = l.decided accepted := by
  rw [decided, decided, h.text, h.href]

theorem decided_congr {accepted' : List String}
    (h : ∀ href, href ∈ accepted'.map trimmed ↔ href ∈ accepted.map trimmed) (l : Link) :
    l.decided accepted' = l.decided accepted := by
  rw [decided, decided, List.contains_eq_mem, List.contains_eq_mem, decide_eq_decide.2 (h l.href)]

end Link

namespace FilteredLinks

theorem links_decideFrom (kept : Nat) (accepted : List String) (links : List Link) :
    (decideFrom kept accepted links).links =
      links.map fun l => { l with selected := accepted.contains l.href } := by
  induction links generalizing kept with
  | nil => rfl
  | cons l rest ih => rw [decideFrom, ih, List.map_cons]

theorem kept_decideFrom (kept : Nat) (accepted : List String) (links : List Link) :
    (decideFrom kept accepted links).kept =
      kept + (decideFrom kept accepted links).links.countP (·.selected) := by
  induction links generalizing kept with
  | nil => rfl
  | cons l rest ih =>
    rw [decideFrom]
    dsimp only
    rw [ih, links_decideFrom, List.countP_cons]
    cases accepted.contains l.href with
    | true =>
      rw [if_pos rfl, if_pos rfl]
      omega
    | false => rfl

end FilteredLinks

theorem filterLinks_eq (links : List Link) (accepted : List String) :
    filterLinks links accepted =
      { links := links.map (Link.decided accepted)
        kept := (links.map (Link.decided accepted)).countP (·.selected) } := by
  have decided : (filterLinks links accepted).links = links.map (Link.decided accepted) :=
    FilteredLinks.links_decideFrom 0 (accepted.map trimmed) links
  have counted : (filterLinks links accepted).kept =
      0 + (filterLinks links accepted).links.countP (·.selected) :=
    FilteredLinks.kept_decideFrom 0 (accepted.map trimmed) links
  rw [decided, Nat.zero_add] at counted
  rw [← counted, ← decided]

theorem filterLinks_eq_of_map {links links' : List Link} {accepted accepted' : List String}
    (h : links'.map (Link.decided accepted') = links.map (Link.decided accepted)) :
    filterLinks links' accepted' = filterLinks links accepted := by
  rw [filterLinks_eq, filterLinks_eq, h]

theorem map_decided_of_same {before : List Link} (h : List.Forall₂ Link.Same links before)
    (accepted : List String) :
    before.map (Link.decided accepted) = links.map (Link.decided accepted) := by
  induction h with
  | nil => rfl
  | cons same _ ih => rw [List.map_cons, List.map_cons, same.decided_eq, ih]

theorem forall₂_decidedFrom (links : List Link) (accepted : List String) :
    List.Forall₂ (Link.DecidedFrom accepted) links (filterLinks links accepted).links := by
  rw [filterLinks_eq, List.forall₂_map_right_iff]
  exact List.forall₂_same.2 fun l _ => l.decidedFrom_decided accepted

theorem filterLinks_filterLinks (links : List Link) (first second : List String) :
    filterLinks (filterLinks links first).links second = filterLinks links second :=
  filterLinks_eq_of_map
    (map_decided_of_same ((forall₂_decidedFrom links first).imp fun _ _ h => h.toSame) second)

theorem decided_own {l : Link} (hl : l ∈ links) (hr : trimmed l.href = l.href) :
    l.decided (links.map (·.href)) = { l with selected := true } := by
  have own : ((links.map (·.href)).map trimmed).contains l.href = true := by
    rw [List.contains_iff_mem, List.map_map]
    exact List.mem_map.2 ⟨l, hl, hr⟩
  rw [Link.decided, own]

theorem filterLinks_own (h : ∀ l ∈ links, trimmed l.href = l.href) :
    filterLinks links (links.map (·.href)) =
      { links := links.map fun l => { l with selected := true }, kept := links.length } := by
  have all : links.map (Link.decided (links.map (·.href))) =
      links.map fun l => { l with selected := true } :=
    List.map_congr_left fun l hl => decided_own hl (h l hl)
  rw [filterLinks_eq, all]
  simp

namespace Harvest

variable {page : Document}

theorem trimmed_href? {id : NodeId} {href : String} (h : href? page id = some href) :
    trimmed href = href := by
  obtain ⟨element, -, h⟩ := Option.bind_eq_some_iff.1 h
  obtain ⟨raw, -, h⟩ := Option.bind_eq_some_iff.1 h
  dsimp only at h
  split at h
  · cases h
  · cases h
    rw [trimmed, trimmed, String.toList_ofList, Text.trim_trim]

theorem firm_of_ofText {text : Option String} {base : Url} (h : LinkBase.ofText text = .url base) :
    base.Firm := by
  unfold LinkBase.ofText at h
  split at h
  · cases h
  · split at h
    · rename_i parsed
      cases h
      exact Url.firm_of_parse parsed
    · cases h

theorem trimmed_of_resolve {baseUrl : Option String} {href resolved : String}
    (h : (LinkBase.ofText baseUrl).resolve href = .ok resolved) (hr : trimmed href = href) :
    trimmed resolved = resolved := by
  cases hb : LinkBase.ofText baseUrl with
  | absent =>
    rw [hb] at h
    cases h
    exact hr
  | url base =>
    rw [hb, LinkBase.resolve] at h
    split at h
    · rename_i joined
      cases h
      obtain ⟨u, hu, rfl⟩ := map_eq_ok joined
      exact (Url.firm_of_join (firm_of_ofText hb) hu).trimmed_text
    · cases h
  | invalid text fault =>
    rw [hb] at h
    cases h

theorem trimmed_href_link (baseUrl : Option String) {text href : String}
    (hr : trimmed href = href) :
    trimmed ((LinkBase.ofText baseUrl).link text href).href =
      ((LinkBase.ofText baseUrl).link text href).href := by
  unfold LinkBase.link
  split
  · rename_i resolved
    exact trimmed_of_resolve resolved hr
  · exact hr

theorem trimmed_href_ofElements {baseUrl : Option String} {found : List NodeId} {l : Link}
    (hl : l ∈ (ofElements page (.ofText baseUrl) found).links) : trimmed l.href = l.href := by
  obtain ⟨⟨id, href⟩, hid, rfl⟩ := List.mem_map.1 hl
  obtain ⟨id', -, hid'⟩ := List.mem_filterMap.1 hid
  obtain ⟨href', found, hhref⟩ := Option.map_eq_some_iff.1 hid'
  cases hhref
  exact trimmed_href_link baseUrl (trimmed_href? found)

theorem trimmed_href_allLinks {baseUrl : Option String} {h : Harvest}
    (hh : allLinks page baseUrl = .ok h) : ∀ l ∈ h.links, trimmed l.href = l.href := by
  unfold allLinks at hh
  obtain ⟨found, -, hh⟩ := bind_eq_ok hh
  cases found with
  | error message =>
    cases hh
    exact nofun
  | ok anchors =>
    cases hh
    exact fun l => trimmed_href_ofElements

theorem trimmed_href_containerLinks {container link : String} {baseUrl : Option String}
    {h : Harvest} (hh : containerLinks page container link baseUrl = .ok h) :
    ∀ l ∈ h.links, trimmed l.href = l.href := by
  unfold containerLinks at hh
  obtain ⟨found, -, hh⟩ := bind_eq_ok hh
  cases found with
  | error message =>
    cases hh
    exact nofun
  | ok containers =>
    obtain ⟨selectors, -, hh⟩ := bind_eq_ok hh
    cases selectors with
    | error message =>
      cases hh
      exact nofun
    | ok selectors =>
      cases hh
      exact fun l => trimmed_href_ofElements

end Harvest

/--
After filtering, a link is selected just if its address is an accepted one, blanks around that one
aside; nothing else about the links changes, and as many are counted as are selected. The outcome is
the same whatever was selected before, in whatever order, how often and with whatever blanks around
them the addresses were accepted, and whatever filter came before. The links' own addresses keep
every link if they have no blanks around them, as the ones of both kinds of harvests.
-/
theorem filterLinks_decides (links : List Link) (accepted : List String) :
    List.Forall₂ (Link.DecidedFrom accepted) links (filterLinks links accepted).links ∧
    (∀ h : Harvest, h.links = links →
      (h.filtered accepted).selectedCount = (filterLinks links accepted).kept) ∧
    (∀ before, List.Forall₂ Link.Same links before →
      filterLinks before accepted = filterLinks links accepted) ∧
    (∀ accepted', (∀ href, href ∈ accepted'.map trimmed ↔ href ∈ accepted.map trimmed) →
      filterLinks links accepted' = filterLinks links accepted) ∧
    (∀ second, filterLinks (filterLinks links accepted).links second = filterLinks links second) ∧
    filterLinks (filterLinks links accepted).links accepted = filterLinks links accepted ∧
    ((∀ l ∈ links, trimmed l.href = l.href) → filterLinks links (links.map (·.href)) =
      { links := links.map fun l => { l with selected := true }, kept := links.length }) ∧
    (∀ page baseUrl h, Harvest.allLinks page baseUrl = .ok h →
      ∀ l ∈ h.links, trimmed l.href = l.href) ∧
    ∀ page container link baseUrl h, Harvest.containerLinks page container link baseUrl = .ok h →
      ∀ l ∈ h.links, trimmed l.href = l.href := by
  refine ⟨forall₂_decidedFrom links accepted, ?_, ?_, ?_, filterLinks_filterLinks links accepted,
    filterLinks_filterLinks links accepted accepted, filterLinks_own,
    fun _ _ _ => Harvest.trimmed_href_allLinks,
    fun _ _ _ _ _ => Harvest.trimmed_href_containerLinks⟩
  · rintro h rfl
    rw [Harvest.selectedCount, Harvest.filtered, filterLinks_eq, List.countP_eq_length_filter]
  · intro before same
    exact filterLinks_eq_of_map (map_decided_of_same same accepted)
  · intro accepted' same
    exact filterLinks_eq_of_map (List.map_congr_left fun l _ => l.decided_congr same)

def storyLinks : List Link :=
  [⟨"One", "https://a.test/1", true⟩, ⟨"Two", "https://a.test/2", false⟩,
    ⟨"Again", "https://a.test/1", true⟩]

theorem filterLinks_decides_storyLinks :
    (∀ href, href ∈ ["https://a.test/2", "https://a.test/2\n"].map trimmed ↔
      href ∈ [" https://a.test/2 "].map trimmed) ∧
    filterLinks storyLinks ["https://a.test/2", "https://a.test/2\n"] =
      filterLinks storyLinks [" https://a.test/2 "] ∧
    (∀ l ∈ storyLinks, trimmed l.href = l.href) ∧
    (filterLinks storyLinks (storyLinks.map (·.href))).kept = 3 := by
  obtain ⟨-, -, -, padded, -, -, own, -, -⟩ := filterLinks_decides storyLinks [" https://a.test/2 "]
  have same : ∀ href, href ∈ ["https://a.test/2", "https://a.test/2\n"].map trimmed ↔
      href ∈ [" https://a.test/2 "].map trimmed := by
    have both : ["https://a.test/2", "https://a.test/2\n"].map trimmed =
        ["https://a.test/2", "https://a.test/2"] := by decide
    have one : [" https://a.test/2 "].map trimmed = ["https://a.test/2"] := by decide
    simp [both, one]
  have plain : ∀ l ∈ storyLinks, trimmed l.href = l.href := by decide
  exact ⟨same, padded _ same, plain, congrArg (·.kept) (own plain)⟩

end PageHarvest
