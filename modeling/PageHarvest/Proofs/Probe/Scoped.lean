import PageHarvest.Proofs.Probe.Answer

namespace PageHarvest.Probe

open Css (Refused SelectorList Unreportable)
open Html (Document NodeId)

theorem Status.isError_eq_false_iff {s : Status} : s.isError = false ↔ s = .matched := by
  cases s <;> simp [isError]

theorem Status.ofCount_eq_matched_iff {count : Nat} : ofCount count = .matched ↔ 1 ≤ count := by
  unfold ofCount
  split_ifs with h
  · simp [h]
  · exact ⟨fun _ => Nat.one_le_iff_ne_zero.2 h, fun _ => rfl⟩

theorem Status.ofCount_cases (count : Nat) :
    ofCount count = .noMatches ∨ ofCount count = .matched := by
  unfold ofCount
  split_ifs with h
  · exact .inl rfl
  · exact .inr rfl

theorem Kind.isContainer_eq_false_iff {kind : Kind} :
    kind.isContainer = false ↔ kind = .field ∨ kind = .linkField := by
  cases kind <;> simp [isContainer]

namespace Result

/-- The status of a result tells whether something was counted. -/
structure Coherent (r : Result) : Prop where
  isError_iff : r.isError = true ↔ r.count = 0
  matched_iff : r.status = .matched ↔ 1 ≤ r.count

theorem coherent_of_matched_iff {r : Result} (h : r.status = .matched ↔ 1 ≤ r.count) :
    r.Coherent where
  isError_iff := by
    have hm := Status.isError_eq_false_iff (s := r.status)
    rw [isError, ← Bool.not_eq_false, hm, h]
    omega
  matched_iff := h

theorem coherent_of_ofCount {r : Result} (h : r.status = .ofCount r.count) : r.Coherent := by
  apply coherent_of_matched_iff
  rw [h]
  exact Status.ofCount_eq_matched_iff

theorem coherent_failure {status : Status} (h : status ≠ .matched) (preview : String) :
    (failure status preview).Coherent := by
  apply coherent_of_matched_iff
  constructor
  · intro hs
    exact (h hs).elim
  · intro hc
    exact (Nat.not_succ_le_zero 0 hc).elim

end Result

/-- A search on the whole page counts against nothing. -/
theorem coherent_of_search {view : List NodeId → Result} {r : Result}
    {search : Except Unreportable (Except String (List NodeId))}
    (h : search.map (conclude view) = .ok r) (ht : ∀ found, (view found).total = none)
    (hv : ∀ found, (view found).Coherent) : r.total = none ∧ r.Coherent := by
  rcases search with e | message | found
  · cases h
  · cases h
    exact ⟨rfl, Result.coherent_failure (by nofun) _⟩
  · cases h
    exact ⟨ht found, hv found⟩

theorem coherent_countContainers (count : Nat) : (countContainers count).Coherent :=
  Result.coherent_of_ofCount rfl

theorem selectorFor_eq_ok_iff {d : ElementDescriptor} {selector : String} :
    selectorFor d = .ok selector ↔ d.selector ≠ unmatchable ∧ d.selector = selector := by
  unfold selectorFor
  split_ifs with h <;> simp [h]

theorem selectorFor_of_ne {d : ElementDescriptor} (h : d.selector ≠ unmatchable) :
    selectorFor d = .ok d.selector :=
  selectorFor_eq_ok_iff.2 ⟨h, rfl⟩

theorem find_of_ne {page : Document} {d : ElementDescriptor} (h : d.selector ≠ unmatchable) :
    find page d = page.select d.selector := by
  rw [find, selectorFor_of_ne h]

theorem select_of_find {page : Document} {d : ElementDescriptor} {found : List NodeId}
    (h : find page d = .ok (.ok found)) : page.select d.selector = .ok (.ok found) := by
  by_cases hd : d.selector = unmatchable
  · simp [find, selectorFor, hd] at h
  · rw [← find_of_ne hd, h]

/-- Why a description gives no selectors. -/
inductive Unusable (d : ElementDescriptor) : String → Prop
  | attrs {message : String} : selectorFor d = .error message → Unusable d message
  | selector {selector message : String} :
    selectorFor d = .ok selector → Refused selector message → Unusable d message

/-- The ways in which a probe within containers ends, in the order in which they are tried. -/
inductive Outcome (page : Document) (container d : ElementDescriptor) (summary : String) :
    Result → Prop
  | untagged : container.hasTag = false → Outcome page container d summary .containerUnresolved
  | unfound {message : String} :
    container.hasTag = true → find page container = .ok (.error message) →
      Outcome page container d summary .containerUnresolved
  | empty :
    container.hasTag = true → find page container = .ok (.ok []) →
      Outcome page container d summary .noContainers
  | unusable {found : List NodeId} {message : String} :
    container.hasTag = true → find page container = .ok (.ok found) → found ≠ [] →
      Unusable d message → Outcome page container d summary (.invalid message)
  | counted {found : List NodeId} {selector : String} {selectors : SelectorList} :
    container.hasTag = true → find page container = .ok (.ok found) → found ≠ [] →
      selectorFor d = .ok selector → Css.selectorsOf selector = .ok (.ok selectors) →
      Outcome page container d summary (countHolders page found selectors summary)

section

variable {page : Document} {kind : Kind} {container d : ElementDescriptor} {scope : Scope}
  {summary : String} {r : Result}

theorem outcome_of_runWithin (h : runWithin page container d summary = .ok r) :
    Outcome page container d summary r := by
  cases hc : container.hasTag with
  | false =>
    rw [runWithin_of_hasTag_eq_false hc] at h
    cases h
    exact .untagged hc
  | true =>
    rcases hf : find page container with e | message | _ | ⟨c, cs⟩
    · rw [runWithin_of_find_eq_error hc hf] at h
      cases h
    · rw [runWithin_of_refused hc hf] at h
      cases h
      exact .unfound hc hf
    · rw [runWithin_of_no_containers hc hf] at h
      cases h
      exact .empty hc hf
    · have hne : c :: cs ≠ [] := List.cons_ne_nil c cs
      cases hs : selectorFor d with
      | error message =>
        rw [runWithin_of_selectorFor_eq_error hc hf hs] at h
        cases h
        exact .unusable hc hf hne (.attrs hs)
      | ok selector =>
        rw [runWithin_of_selectorFor_eq_ok hc hf hs] at h
        rcases hr : Css.selectorsOf selector with e | message | selectors
        · rw [hr] at h
          cases h
        · rw [hr] at h
          cases h
          exact .unusable hc hf hne (.selector hs (Css.refused_of_selectorsOf hr))
        · rw [hr] at h
          cases h
          exact .counted hc hf hne hs hr

theorem exists_outcome (hk : kind.isContainer = false) (ht : d.hasTag = true)
    (h : run page kind d (.within container) = .ok r) :
    ∃ summary, Outcome page container d summary r := by
  have within : ∃ summary, run page kind d (.within container) =
      runWithin page container d summary := run_within hk ht
  obtain ⟨summary, hw⟩ := within
  rw [hw] at h
  exact ⟨summary, outcome_of_runWithin h⟩

theorem Outcome.coherent (h : Outcome page container d summary r) : r.Coherent := by
  cases h with
  | untagged => exact Result.coherent_failure (by nofun) _
  | unfound => exact Result.coherent_failure (by nofun) _
  | empty => exact Result.coherent_failure (by nofun) _
  | unusable => exact Result.coherent_failure (by nofun) _
  | counted => exact Result.coherent_of_ofCount rfl

theorem status_countHolders_ne (page : Document) (found : List NodeId) (selectors : SelectorList)
    (summary : String) :
    (countHolders page found selectors summary).status ≠ .containerUnresolved ∧
      (countHolders page found selectors summary).status ≠ .noContainers := by
  have hs : (countHolders page found selectors summary).status = .noMatches ∨
      (countHolders page found selectors summary).status = .matched :=
    Status.ofCount_cases _
  rcases hs with hs | hs <;> rw [hs] <;> exact ⟨nofun, nofun⟩

theorem Outcome.exists_of_total (h : Outcome page container d summary r) {n : Nat}
    (hn : r.total = some n) :
    ∃ found selector selectors, find page container = .ok (.ok found) ∧ found ≠ [] ∧
      selectorFor d = .ok selector ∧ Css.selectorsOf selector = .ok (.ok selectors) ∧
      found.length = n ∧
      r.count = (found.filter fun c => (page.firstBelow? c selectors).isSome).length := by
  cases h with
  | untagged => cases hn
  | unfound => cases hn
  | empty => cases hn
  | unusable => cases hn
  | counted hc hf hne hs hr => exact ⟨_, _, _, hf, hne, hs, hr, Option.some.inj hn, rfl⟩

theorem Outcome.total_bounds (h : Outcome page container d summary r) {n : Nat}
    (hn : r.total = some n) : 1 ≤ n ∧ r.count ≤ n := by
  obtain ⟨found, selector, selectors, -, hne, -, -, rfl, hcount⟩ := h.exists_of_total hn
  rw [hcount]
  exact ⟨List.length_pos_iff.2 hne, List.length_filter_le _ _⟩

theorem Outcome.find_of_noContainers (h : Outcome page container d summary r)
    (hs : r.status = .noContainers) : find page container = .ok (.ok []) := by
  cases h with
  | untagged => cases hs
  | unfound => cases hs
  | empty hc hf => exact hf
  | unusable => cases hs
  | counted => exact ((status_countHolders_ne _ _ _ _).2 hs).elim

theorem Outcome.find_of_unresolved (h : Outcome page container d summary r)
    (hs : r.status = .containerUnresolved) :
    container.hasTag = false ∨ ∃ message, find page container = .ok (.error message) := by
  cases h with
  | untagged hc => exact .inl hc
  | unfound hc hf => exact .inr ⟨_, hf⟩
  | empty => cases hs
  | unusable => cases hs
  | counted => exact ((status_countHolders_ne _ _ _ _).1 hs).elim

/-- What a run comes to: nothing is looked for, the page is searched, or containers are. -/
theorem run_cases (h : run page kind d scope = .ok r) :
    (∃ container summary, scope = .within container ∧ kind.isContainer = false ∧
      Outcome page container d summary r) ∨ (r.total = none ∧ r.Coherent) := by
  cases ht : d.hasTag with
  | false =>
    rw [run_of_hasTag_eq_false ht] at h
    cases h
    exact .inr ⟨rfl, Result.coherent_failure (by nofun) _⟩
  | true =>
    cases hk : kind.isContainer with
    | true =>
      rw [run_of_isContainer hk ht] at h
      exact .inr (coherent_of_search h (fun _ => rfl) fun found =>
        coherent_countContainers found.length)
    | false =>
      cases scope with
      | within container =>
        obtain ⟨summary, ho⟩ := exists_outcome hk ht h
        exact .inl ⟨container, summary, rfl, rfl, ho⟩
      | page =>
        cases kind with
        | container => cases hk
        | linkContainer => cases hk
        | field =>
          rw [run_field_page ht] at h
          exact .inr (coherent_of_search h (fun _ => rfl) fun _ => Result.coherent_of_ofCount rfl)
        | linkField =>
          rw [run_linkField_page ht] at h
          cases h
          exact .inr ⟨rfl, Result.coherent_failure (by nofun) _⟩

end

theorem run_container_of_find {page : Document} {container : ElementDescriptor}
    {found : Except String (List NodeId)} (hc : container.hasTag = true)
    (hf : find page container = .ok found) (scope : Scope) :
    run page .container container scope =
      .ok (conclude (fun found => countContainers found.length) found) := by
  rw [run_of_isContainer rfl hc, hf]
  rfl

/--
What a probe within containers has to do with the probe of the container by itself. Whatever stands
against the container is told as such; else the containers are those that its own probe counts,
unless the description is at fault.
-/
structure Result.AgreesWith (r own : Result) (d : ElementDescriptor) : Prop where
  unresolved_iff : r.status = .containerUnresolved ↔
    own.status = .emptyTag ∨ ∃ message, own.status = .selectorInvalid message
  noContainers_iff : r.status = .noContainers ↔ own.status = .noMatches
  otherwise : r.status ≠ .containerUnresolved → r.status ≠ .noContainers →
    own.status = .matched ∧
      ((∃ message, r.status = .selectorInvalid message ∧ Unusable d message) ∨
        r.total = some own.count)

theorem Result.agreesWith_of_matched {r own : Result} {d : ElementDescriptor}
    (ho : own.status = .matched) (hu : r.status ≠ .containerUnresolved)
    (hn : r.status ≠ .noContainers)
    (h : (∃ message, r.status = .selectorInvalid message ∧ Unusable d message) ∨
      r.total = some own.count) : r.AgreesWith own d where
  unresolved_iff := by simp [ho, hu]
  noContainers_iff := by simp [ho, hn]
  otherwise _ _ := ⟨ho, h⟩

theorem Outcome.agreesWith {page : Document} {container d : ElementDescriptor} {summary : String}
    {r : Result} (h : Outcome page container d summary r) (scope : Scope) :
    ∃ own, run page .container container scope = .ok own ∧ r.AgreesWith own d := by
  have matched {found : List NodeId} (hne : found ≠ []) :
      (countContainers found.length).status = .matched :=
    Status.ofCount_eq_matched_iff.2 (List.length_pos_iff.2 hne)
  cases h with
  | untagged hc =>
    refine ⟨.emptyTag, run_of_hasTag_eq_false hc, ?_⟩
    constructor
    · exact iff_of_true rfl (.inl rfl)
    · exact iff_of_false (by nofun) (by nofun)
    · intro hu
      exact (hu rfl).elim
  | unfound hc hf =>
    refine ⟨_, run_container_of_find hc hf scope, ?_⟩
    constructor
    · exact iff_of_true rfl (.inr ⟨_, rfl⟩)
    · exact iff_of_false (by nofun) (by nofun)
    · intro hu
      exact (hu rfl).elim
  | empty hc hf =>
    refine ⟨_, run_container_of_find hc hf scope, ?_⟩
    constructor
    · exact iff_of_false (by nofun) (by rintro (ho | ⟨message, ho⟩) <;> cases ho)
    · exact iff_of_true rfl rfl
    · intro _ hn
      exact (hn rfl).elim
  | @unusable found message hc hf hne hu =>
    refine ⟨_, run_container_of_find hc hf scope, ?_⟩
    exact Result.agreesWith_of_matched (matched hne) (by nofun) (by nofun) (.inl ⟨message, rfl, hu⟩)
  | @counted found selector selectors hc hf hne hs hr =>
    refine ⟨_, run_container_of_find hc hf scope, ?_⟩
    obtain ⟨hu, hn⟩ := status_countHolders_ne page found selectors summary
    exact Result.agreesWith_of_matched (matched hne) hu hn (.inr rfl)

/--
Every result tells by its status whether something was counted, and has a total only for a probe
within containers, of which there is one then and which bound the count. Such a probe agrees with
the probe of the container by itself, which gives a result too.
-/
theorem run_agrees_with_container (page : Document) :
    (∀ kind d scope r, run page kind d scope = .ok r →
      (r.isError = true ↔ r.count = 0) ∧ (r.status = .matched ↔ 1 ≤ r.count) ∧
      ∀ n, r.total = some n →
        (kind = .field ∨ kind = .linkField) ∧ (∃ container, scope = .within container) ∧
          1 ≤ n ∧ r.count ≤ n) ∧
    ∀ kind d container r, (kind = .field ∨ kind = .linkField) → d.hasTag = true →
      run page kind d (.within container) = .ok r → ∀ scope,
        ∃ own, run page .container container scope = .ok own ∧ r.AgreesWith own d := by
  constructor
  · intro kind d scope r h
    rcases run_cases h with ⟨container, summary, rfl, hk, ho⟩ | ⟨ht, hr⟩
    · refine ⟨ho.coherent.isError_iff, ho.coherent.matched_iff, fun n hn => ?_⟩
      exact ⟨Kind.isContainer_eq_false_iff.1 hk, ⟨container, rfl⟩, ho.total_bounds hn⟩
    · refine ⟨hr.isError_iff, hr.matched_iff, fun n hn => ?_⟩
      rw [ht] at hn
      cases hn
  · intro kind d container r hk ht h scope
    obtain ⟨summary, ho⟩ := exists_outcome (Kind.isContainer_eq_false_iff.2 hk) ht h
    exact ho.agreesWith scope

/-- A list of three items: a link, a link without an address, and no link. -/
def shelf : Document where
  nodes := #[
    { content := .document, children := [1] },
    { content := .element ⟨.html, "ul", []⟩, parent := some 0, children := [2, 4, 6] },
    { content := .element ⟨.html, "li", []⟩, parent := some 1, children := [3] },
    { content := .element ⟨.html, "a", [{ name := "href", value := "/first" }]⟩, parent := some 2 },
    { content := .element ⟨.html, "li", []⟩, parent := some 1, children := [5] },
    { content := .element ⟨.html, "a", [{ name := "href", value := " " }]⟩, parent := some 4 },
    { content := .element ⟨.html, "li", []⟩, parent := some 1 }]

theorem run_agrees_with_container_shelf :
    (Kind.field = .field ∨ Kind.field = .linkField) ∧
      ElementDescriptor.hasTag { tag := "a" } = true ∧
      run shelf .field { tag := "a" } (.within { tag := "li" }) =
        .ok ⟨2, some 3, "2 of 3 containers have a match", .matched⟩ ∧
      ∃ own, run shelf .container { tag := "li" } .page = .ok own ∧ own.status = .matched ∧
        own.count = 3 := by
  have ht : ElementDescriptor.hasTag { tag := "a" } = true := by decide
  have h : run shelf .field { tag := "a" } (.within { tag := "li" }) =
      .ok ⟨2, some 3, "2 of 3 containers have a match", .matched⟩ := by
    cbv
  refine ⟨.inl rfl, ht, h, ?_⟩
  obtain ⟨own, hown, hagrees⟩ :=
    (run_agrees_with_container shelf).2 .field _ _ _ (.inl rfl) ht h .page
  have resolved : Status.matched ≠ .containerUnresolved := by
    intro hs
    cases hs
  have contained : Status.matched ≠ .noContainers := by
    intro hs
    cases hs
  obtain ⟨hmatched, ⟨message, hm, _⟩ | htotal⟩ := hagrees.otherwise resolved contained
  · cases hm
  · exact ⟨own, hown, hmatched, (Option.some.inj htotal).symm⟩

end PageHarvest.Probe
