import PageHarvest.Proofs.Descriptor.Unmatchable
import PageHarvest.Proofs.Links.Agreement
import PageHarvest.Proofs.Text.Lines

namespace PageHarvest

open Css (Refused)
open Html (Document NodeId)

namespace Harvest

variable {page : Document} {container link : String} {base : Option String}

theorem containerLinks_unmatchable {selectors : Css.SelectorList}
    (h : Css.selectorsOf link = .ok (.ok selectors)) :
    containerLinks page unmatchable link base = .ok {} := by
  rw [containerLinks_of_selectors page.select_unmatchable h]
  rfl

theorem containerLinks_of_unmatchable_link {found : List NodeId}
    (h : page.select container = .ok (.ok found)) :
    containerLinks page container unmatchable base = .ok {} := by
  rw [containerLinks_of_selectors h Css.selectorsOf_unmatchable]
  simp only [Html.Document.firstBelow?_notAnything, List.filterMap_none]
  rfl

end Harvest

namespace Probe

variable {page : Document} {kind : Kind} {d x container : ElementDescriptor} {scope : Scope}

/-- What a probe says of a description whose attributes it cannot read. -/
def unreadable (d : ElementDescriptor) : String :=
  "could not read attrs '" ++ Text.trimmed d.attrs ++ "'"

theorem unreadable_eq (d : ElementDescriptor) :
    unreadable d = "could not read attrs '" ++ Text.trimmed d.attrs ++ "'" :=
  rfl

theorem selectorFor_unmatchable (h : d.selector = unmatchable) :
    selectorFor d = .error (unreadable d) := by
  rw [selectorFor, if_pos h, unreadable_eq]

theorem find_unmatchable (h : d.selector = unmatchable) :
    find page d = .ok (.error (unreadable d)) := by
  rw [find, selectorFor_unmatchable h]

/-- The probe needs the selector of the description itself. -/
inductive Tries (page : Document) : Kind → Scope → Prop
  | container {kind : Kind} {scope : Scope} : kind.isContainer = true → Tries page kind scope
  | onPage : Tries page .field .page
  /-- Where there is no container, nothing is looked for in it. -/
  | within {kind : Kind} {container : ElementDescriptor} {found : List NodeId} :
    kind.isContainer = false → container.hasTag = true →
      find page container = .ok (.ok found) → found ≠ [] → Tries page kind (.within container)

theorem run_unmatchable (ht : d.hasTag = true) (h : d.selector = unmatchable)
    (hs : Tries page kind scope) : run page kind d scope = .ok (.invalid (unreadable d)) := by
  cases hs with
  | container hk =>
    rw [run_of_isContainer hk ht, find_unmatchable h]
    rfl
  | onPage =>
    rw [run_field_page ht, find_unmatchable h]
    rfl
  | within hk hc hf hne =>
    obtain ⟨summary, hw⟩ := run_within hk ht
    obtain ⟨c, cs, rfl⟩ := List.exists_cons_of_ne_nil hne
    rw [hw, runWithin_of_selectorFor_eq_error hc hf (selectorFor_unmatchable h)]

theorem head?_of_message? {fault : Css.Fault} {message : String}
    (h : fault.message? = some message) : message.toList.head? ≠ some 'c' := by
  cases fault with
  | unexpected t =>
    obtain ⟨text, -, rfl⟩ := Option.map_eq_some_iff.1 h
    rw [String.toList_append, String.toList_append, Text.toList_of_eq rfl]
    nofun
  | pseudoNameExpected t =>
    obtain ⟨text, -, rfl⟩ := Option.map_eq_some_iff.1 h
    rw [String.toList_append, String.toList_append, Text.toList_of_eq rfl]
    nofun
  | endOfText =>
    cases h
    rw [Text.toList_of_eq rfl]
    nofun
  | _ =>
    cases h
    rw [String.toList_append, Text.toList_of_eq rfl]
    nofun

/-- A selector that is refused is never put down to the attributes. -/
theorem not_refused_unreadable (text : String) (d : ElementDescriptor) :
    ¬ Refused text (unreadable d) := by
  rintro ⟨fault, -, hm⟩
  apply head?_of_message? hm
  rw [unreadable_eq, String.toList_append, String.toList_append, Text.toList_of_eq rfl]
  rfl

theorem invalid_inj {m n : String} (h : Result.invalid m = .invalid n) : m = n := by
  injection h with _ _ _ hs
  exact Status.selectorInvalid.inj hs

theorem ofCount_ne_selectorInvalid (count : Nat) (message : String) :
    Status.ofCount count ≠ .selectorInvalid message := by
  rcases Status.ofCount_cases count with h | h <;> rw [h] <;> nofun

/-- A search on the page that is made is not put down to the attributes. -/
theorem conclude_ne_unreadable {view : List NodeId → Result} {selector : String}
    (hv : ∀ found, ∃ count, (view found).status = .ofCount count) :
    (page.select selector).map (conclude view) ≠ .ok (.invalid (unreadable d)) := by
  intro h
  obtain ⟨found, hf, he⟩ := map_eq_ok h
  cases found with
  | error message =>
    obtain rfl := invalid_inj he
    exact not_refused_unreadable selector d (Css.refused_of_select hf)
  | ok found =>
    obtain ⟨count, hcount⟩ := hv found
    rw [conclude] at he
    rw [he] at hcount
    exact ofCount_ne_selectorInvalid count _ hcount.symm

theorem Outcome.of_selectorInvalid {summary message : String} {r : Result}
    (h : Outcome page container d summary r) (hs : r.status = .selectorInvalid message) :
    (∃ found, container.hasTag = true ∧ find page container = .ok (.ok found) ∧ found ≠ []) ∧
      Unusable d message := by
  cases h with
  | untagged | unfound | empty => cases hs
  | unusable hc hf hne hu =>
    cases hs
    exact ⟨⟨_, hc, hf, hne⟩, hu⟩
  | counted => exact (ofCount_ne_selectorInvalid _ _ hs).elim

theorem tries_of_run (ht : d.hasTag = true)
    (h : run page kind d scope = .ok (.invalid (unreadable d))) : Tries page kind scope := by
  cases hk : kind.isContainer with
  | true => exact .container hk
  | false =>
    cases scope with
    | page =>
      cases kind with
      | container | linkContainer => cases hk
      | field => exact .onPage
      | linkField =>
        rw [run_linkField_page ht] at h
        have status := congrArg Result.status (Except.ok.inj h)
        cases status
    | within container =>
      obtain ⟨summary, ho⟩ := exists_outcome hk ht h
      obtain ⟨⟨found, hc, hf, hne⟩, -⟩ := ho.of_selectorInvalid rfl
      exact .within hk hc hf hne

theorem not_unusable_unreadable (h : d.selector ≠ unmatchable) : ¬ Unusable d (unreadable d) := by
  intro hu
  cases hu with
  | attrs hs =>
    rw [selectorFor_of_ne h] at hs
    cases hs
  | selector hs hr => exact not_refused_unreadable _ d hr

theorem selector_of_run (ht : d.hasTag = true)
    (h : run page kind d scope = .ok (.invalid (unreadable d))) : d.selector = unmatchable := by
  by_contra hd
  cases tries_of_run ht h with
  | container hk =>
    rw [run_of_isContainer hk ht, find_of_ne hd] at h
    exact conclude_ne_unreadable (fun found => ⟨_, rfl⟩) h
  | onPage =>
    rw [run_field_page ht, find_of_ne hd] at h
    exact conclude_ne_unreadable (fun found => ⟨_, rfl⟩) h
  | within hk =>
    obtain ⟨summary, ho⟩ := exists_outcome hk ht h
    exact not_unusable_unreadable hd (ho.of_selectorInvalid rfl).2

/-- The probe says that it cannot read the attributes just if it needs a selector and has none. -/
theorem run_eq_unreadable_iff (ht : d.hasTag = true) :
    run page kind d scope = .ok (.invalid (unreadable d)) ↔
      Tries page kind scope ∧ d.selector = unmatchable := by
  constructor
  · intro h
    exact ⟨tries_of_run ht h, selector_of_run ht h⟩
  · rintro ⟨hs, hd⟩
    exact run_unmatchable ht hd hs

/--
The probe gives up on a container for which the page could have been asked: there is nothing wrong
with its selector.
-/
structure GivesUp (page : Document) (kind : Kind) (x container : ElementDescriptor) : Prop where
  unresolved : run page kind x (.within container) = .ok .containerUnresolved
  accepted : ∃ selectors, Css.selectorsOf container.selector = .ok (.ok selectors)

theorem givesUp_iff (hk : kind.isContainer = false) (hx : x.hasTag = true) (ht : d.hasTag = true) :
    GivesUp page kind x d ↔ d.selector = unmatchable := by
  constructor
  · rintro ⟨hr, selectors, hs⟩
    by_contra h
    obtain ⟨summary, ho⟩ := exists_outcome hk hx hr
    have asked : find page d = .ok (.ok (Css.selectIn page selectors)) := by
      rw [find_of_ne h, Document.select, hs]
    rcases ho.find_of_unresolved rfl with hu | ⟨message, hf⟩
    · rw [ht] at hu
      cases hu
    · rw [asked] at hf
      cases hf
  · intro h
    have within : ∃ summary, run page kind x (.within d) = runWithin page d x summary :=
      run_within hk hx
    obtain ⟨summary, hw⟩ := within
    constructor
    · rw [hw, runWithin_of_refused ht (find_unmatchable h)]
    · rw [h]
      exact ⟨_, Css.selectorsOf_unmatchable⟩

/-- What tells that a description is held to have no selector, each just if `fault`. -/
structure BlamedJustIf (d : ElementDescriptor) (fault : Prop) : Prop where
  selector : d.selector = unmatchable ↔ fault
  probed : ∀ (page : Document) (kind : Kind) (scope : Scope),
    run page kind d scope = .ok (.invalid (unreadable d)) ↔ Tries page kind scope ∧ fault
  scope : ∀ (page : Document) (kind : Kind) (x : ElementDescriptor),
    kind.isContainer = false → x.hasTag = true → (GivesUp page kind x d ↔ fault)

theorem blamedJustIf_unmatchable (ht : d.hasTag = true) :
    BlamedJustIf d (d.selector = unmatchable) where
  selector := Iff.rfl
  probed _ _ _ := run_eq_unreadable_iff ht
  scope _ _ _ hk hx := givesUp_iff hk hx ht

theorem BlamedJustIf.congr {fault other : Prop} (h : BlamedJustIf d fault) (he : fault ↔ other) :
    BlamedJustIf d other := by
  rwa [← propext he]

theorem not_blamedJustIf_isFaulty (h : d.SpellsUnmatchable) : ¬ BlamedJustIf d d.IsFaulty := by
  intro hb
  apply ElementDescriptor.not_isFaulty_of_spellsUnmatchable h
  exact hb.selector.1 (ElementDescriptor.selector_eq_unmatchable_iff.2 (.inr h))

/--
The attributes are blamed when they are at fault, and when the tag spells the selector of a
description without one. Where it does not, they are blamed just when they are at fault.
-/
theorem blamedJustIf_isFaulty_iff (ht : d.hasTag = true) :
    BlamedJustIf d (d.IsFaulty ∨ d.SpellsUnmatchable) ∧
      (BlamedJustIf d d.IsFaulty ↔ ¬ d.SpellsUnmatchable) := by
  have blamed := (blamedJustIf_unmatchable ht).congr ElementDescriptor.selector_eq_unmatchable_iff
  refine ⟨blamed, ?_, ?_⟩
  · intro h hs
    exact not_blamedJustIf_isFaulty hs h
  · intro hs
    exact blamed.congr (or_iff_left hs)

theorem blamedJustIf_isFaulty_iff_openQuote :
    ElementDescriptor.hasTag ⟨"div", "class=\"open"⟩ = true ∧
      BlamedJustIf ⟨"div", "class=\"open"⟩
        (ElementDescriptor.IsFaulty ⟨"div", "class=\"open"⟩) := by
  have tagged : ElementDescriptor.hasTag ⟨"div", "class=\"open"⟩ = true := by decide
  refine ⟨tagged, (blamedJustIf_isFaulty_iff tagged).2.2 ?_⟩
  intro h
  exact absurd h.tag (by decide)

/-- With no attributes at all there is nothing that could not be read. -/
theorem not_blamedJustIf_isFaulty_noAttrs :
    trySelector ":not(*)" "" = .ok unmatchable ∧
      (∀ page, run page .container ⟨":not(*)", ""⟩ .page =
        .ok (.invalid "could not read attrs ''")) ∧
      ¬ BlamedJustIf ⟨":not(*)", ""⟩ (ElementDescriptor.IsFaulty ⟨":not(*)", ""⟩) := by
  have spelled : ElementDescriptor.SpellsUnmatchable ⟨":not(*)", ""⟩ :=
    { tag := by decide, attrs := ⟨[], by cbv, nofun⟩ }
  have unmatched := ElementDescriptor.selector_eq_unmatchable_iff.2 (.inr spelled)
  refine ⟨ElementDescriptor.trySelector_of_spellsUnmatchable spelled, ?_, ?_⟩
  · intro page
    rw [run_unmatchable (by decide) unmatched (.container rfl)]
    have message : unreadable ⟨":not(*)", ""⟩ = "could not read attrs ''" := by
      decide +kernel
    rw [message]
  · exact not_blamedJustIf_isFaulty spelled

end Probe

namespace ElementDescriptor

variable {d : ElementDescriptor}

/-- A description whose attributes are at fault finds nothing, and no call fails over it. -/
theorem finds_nothing_of_isFaulty (h : d.IsFaulty) (page : Document) :
    page.select d.selector = .ok (.ok []) ∧
      page.count d.selector = .ok (.ok 0) ∧
      (d.hasTag = true → ∀ kind scope,
        kind.isContainer = true ∨ kind = .field ∧ scope = .page →
          ∃ r message, Probe.run page kind d scope = .ok r ∧
            r.status = .selectorInvalid message ∧ r.count = 0) ∧
      (∀ link selectors base, Css.selectorsOf link = .ok (.ok selectors) →
        Harvest.containerLinks page d.selector link base =
          .ok { links := [], warnings := [], refusal := none }) ∧
      ∀ container selectors base, Css.selectorsOf container = .ok (.ok selectors) →
        Harvest.containerLinks page container d.selector base =
          .ok { links := [], warnings := [], refusal := none } := by
  have unmatched := selector_of_isFaulty h
  refine ⟨?_, ?_, ?_, ?_, ?_⟩
  · rw [unmatched, page.select_unmatchable]
  · rw [unmatched, Document.count, page.select_unmatchable]
    rfl
  · intro ht kind scope hs
    refine ⟨.invalid (Probe.unreadable d), Probe.unreadable d, ?_, rfl, rfl⟩
    apply Probe.run_unmatchable ht unmatched
    rcases hs with hk | ⟨rfl, rfl⟩
    · exact .container hk
    · exact .onPage
  · intro link selectors base hl
    rw [unmatched, Harvest.containerLinks_unmatchable hl]
  · intro container selectors base hc
    have found : page.select container = .ok (.ok (Css.selectIn page selectors)) := by
      rw [Document.select, hc]
    rw [unmatched, Harvest.containerLinks_of_unmatchable_link found]

theorem finds_nothing_of_isFaulty_openQuote :
    IsFaulty ⟨"div", "class=\"open"⟩ ∧ Css.selectorsOf "a" = .ok (.ok [.compound [.type "a"]]) ∧
      Harvest.containerLinks (.parse "<div><a href=x>x</a></div>")
          (selector ⟨"div", "class=\"open"⟩) "a" none =
        .ok { links := [], warnings := [], refusal := none } := by
  have faulty : IsFaulty ⟨"div", "class=\"open"⟩ :=
    ⟨.unterminatedQuote '"' 6, by decide +kernel⟩
  have accepted : Css.selectorsOf "a" = .ok (.ok [.compound [.type "a"]]) := by cbv
  refine ⟨faulty, accepted, ?_⟩
  exact (finds_nothing_of_isFaulty faulty _).2.2.2.1 _ _ _ accepted

end ElementDescriptor
end PageHarvest
