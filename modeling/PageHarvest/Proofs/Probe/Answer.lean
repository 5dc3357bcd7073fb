import Mathlib
import PageHarvest.Probe.Run
import PageHarvest.Proofs.Css.Refusal

namespace PageHarvest.Probe

open Css (Unreportable Untold Refused)
open Html (Document NodeId)

/--
The selectors that a probe reads, each with the result that it gives when the selector is refused
with a message.
-/
inductive Reads (page : Document) :
    Kind → ElementDescriptor → Scope → String → (String → Result) → Prop
  | container {kind : Kind} {d : ElementDescriptor} {scope : Scope} {selector : String} :
    kind.isContainer = true → d.hasTag = true → selectorFor d = .ok selector →
      Reads page kind d scope selector .invalid
  | onPage {d : ElementDescriptor} {selector : String} :
    d.hasTag = true → selectorFor d = .ok selector → Reads page .field d .page selector .invalid
  | scope {kind : Kind} {d container : ElementDescriptor} {selector : String} :
    kind.isContainer = false → d.hasTag = true → container.hasTag = true →
      selectorFor container = .ok selector →
      Reads page kind d (.within container) selector fun _ => .containerUnresolved
  /-- Only where there is a container is the description itself read. -/
  | within {kind : Kind} {d container : ElementDescriptor} {selector : String} {c : NodeId}
      {cs : List NodeId} :
    kind.isContainer = false → d.hasTag = true → container.hasTag = true →
      find page container = .ok (.ok (c :: cs)) → selectorFor d = .ok selector →
      Reads page kind d (.within container) selector .invalid

theorem exists_find_eq_ok_iff {page : Document} {d : ElementDescriptor} :
    (∃ found, find page d = .ok found) ↔
      ∀ selector, selectorFor d = .ok selector → ¬ Untold selector := by
  unfold find
  cases selectorFor d with
  | error message => simp
  | ok selector => simp [Css.exists_select_eq_ok_iff]

theorem find_of_refused {page : Document} {d : ElementDescriptor} {selector message : String}
    (hs : selectorFor d = .ok selector) (h : Refused selector message) :
    find page d = .ok (.error message) := by
  rw [find, hs]
  exact Css.select_of_refused h

theorem find_of_untold {page : Document} {d : ElementDescriptor} {selector : String}
    (hs : selectorFor d = .ok selector) (h : Untold selector) : ∃ e, find page d = .error e := by
  cases hf : find page d with
  | error e => exact ⟨e, rfl⟩
  | ok found => exact (exists_find_eq_ok_iff.1 ⟨found, hf⟩ selector hs h).elim

def conclude (view : List NodeId → Result) : Except String (List NodeId) → Result
  | .error message => .invalid message
  | .ok found => view found

section

variable {page : Document} {kind : Kind} {d container : ElementDescriptor} {scope : Scope}

theorem run_of_hasTag_eq_false (ht : d.hasTag = false) :
    run page kind d scope = .ok .emptyTag := by
  simp [run, ht, pure, Except.pure]

theorem run_of_isContainer (hk : kind.isContainer = true) (ht : d.hasTag = true) :
    run page kind d scope =
      (find page d).map (conclude fun found => countContainers found.length) := by
  cases kind with
  | container | linkContainer =>
    rcases hf : find page d with e | message | found <;>
      simp [run, ht, hf, bind, Except.bind, pure, Except.pure, Except.map, conclude]
  | field | linkField => cases hk

theorem run_field_page (ht : d.hasTag = true) :
    run page .field d .page = (find page d).map (conclude (showTexts page)) := by
  rcases hf : find page d with e | message | found <;>
    simp [run, ht, hf, bind, Except.bind, pure, Except.pure, Except.map, conclude]

theorem run_linkField_page (ht : d.hasTag = true) :
    run page .linkField d .page = .ok .containerUnresolved := by
  simp [run, ht, pure, Except.pure]

/-- Within containers a field and a link differ only in how the result is put into words. -/
theorem run_within (hk : kind.isContainer = false) (ht : d.hasTag = true) :
    ∃ summary, run page kind d (.within container) = runWithin page container d summary := by
  cases kind with
  | container | linkContainer => cases hk
  | field => exact ⟨"containers have a match", by simp [run, ht]⟩
  | linkField => exact ⟨"containers have a matching link", by simp [run, ht]⟩

variable {summary : String}

theorem runWithin_of_hasTag_eq_false (hc : container.hasTag = false) :
    runWithin page container d summary = .ok .containerUnresolved := by
  simp [runWithin, hc, pure, Except.pure]

theorem runWithin_of_find_eq_error {e : Unreportable} (hc : container.hasTag = true)
    (hf : find page container = .error e) : runWithin page container d summary = .error e := by
  simp [runWithin, hc, hf, bind, Except.bind]

theorem runWithin_of_refused {message : String} (hc : container.hasTag = true)
    (hf : find page container = .ok (.error message)) :
    runWithin page container d summary = .ok .containerUnresolved := by
  simp [runWithin, hc, hf, bind, Except.bind, pure, Except.pure]

theorem runWithin_of_no_containers (hc : container.hasTag = true)
    (hf : find page container = .ok (.ok [])) :
    runWithin page container d summary = .ok .noContainers := by
  simp [runWithin, hc, hf, bind, Except.bind, pure, Except.pure]

theorem runWithin_of_selectorFor_eq_error {c : NodeId} {cs : List NodeId} {message : String}
    (hc : container.hasTag = true) (hf : find page container = .ok (.ok (c :: cs)))
    (hs : selectorFor d = .error message) :
    runWithin page container d summary = .ok (.invalid message) := by
  simp [runWithin, hc, hf, hs, bind, Except.bind, pure, Except.pure]

theorem runWithin_of_selectorFor_eq_ok {c : NodeId} {cs : List NodeId} {selector : String}
    (hc : container.hasTag = true) (hf : find page container = .ok (.ok (c :: cs)))
    (hs : selectorFor d = .ok selector) :
    runWithin page container d summary = (Css.selectorsOf selector).map fun
      | .error message => .invalid message
      | .ok selectors => countHolders page (c :: cs) selectors summary := by
  rcases hr : Css.selectorsOf selector with e | message | selectors <;>
    simp [runWithin, hc, hf, hs, hr, bind, Except.bind, pure, Except.pure, Except.map]

end

theorem run_of_refused {page : Document} {kind : Kind} {d : ElementDescriptor} {scope : Scope}
    {selector message : String} {refusal : String → Result}
    (hr : Reads page kind d scope selector refusal) (h : Refused selector message) :
    run page kind d scope = .ok (refusal message) := by
  cases hr with
  | container hk ht hs =>
    rw [run_of_isContainer hk ht, find_of_refused hs h]
    rfl
  | onPage ht hs =>
    rw [run_field_page ht, find_of_refused hs h]
    rfl
  | scope hk ht hc hs =>
    obtain ⟨summary, hw⟩ := run_within hk ht
    rw [hw, runWithin_of_refused hc (find_of_refused hs h)]
  | within hk ht hc hf hs =>
    -- the description is not looked for on the page, so its selector is read by itself
    obtain ⟨summary, hw⟩ := run_within hk ht
    rw [hw, runWithin_of_selectorFor_eq_ok hc hf hs, Css.selectorsOf_of_refused h]
    rfl

/-- A selector about which nothing can be said takes the probe with it. -/
theorem run_of_untold {page : Document} {kind : Kind} {d : ElementDescriptor} {scope : Scope}
    {selector : String} {refusal : String → Result}
    (hr : Reads page kind d scope selector refusal) (h : Untold selector) :
    ∃ e, run page kind d scope = .error e := by
  cases hr with
  | container hk ht hs =>
    obtain ⟨e, he⟩ := find_of_untold hs h
    rw [run_of_isContainer hk ht, he]
    exact ⟨e, rfl⟩
  | onPage ht hs =>
    obtain ⟨e, he⟩ := find_of_untold hs h
    rw [run_field_page ht, he]
    exact ⟨e, rfl⟩
  | scope hk ht hc hs =>
    obtain ⟨summary, hw⟩ := run_within hk ht
    obtain ⟨e, he⟩ := find_of_untold hs h
    exact ⟨e, by rw [hw, runWithin_of_find_eq_error hc he]⟩
  | within hk ht hc hf hs =>
    obtain ⟨summary, hw⟩ := run_within hk ht
    obtain ⟨e, he⟩ := Css.selectorsOf_of_untold h
    rw [hw, runWithin_of_selectorFor_eq_ok hc hf hs, he]
    exact ⟨e, rfl⟩

theorem exists_runWithin_of_told {page : Document} {kind : Kind} {d container : ElementDescriptor}
    (hk : kind.isContainer = false) (ht : d.hasTag = true)
    (h : ∀ selector refusal, Reads page kind d (.within container) selector refusal →
      ¬ Untold selector) (summary : String) :
    ∃ r, runWithin page container d summary = .ok r := by
  cases hc : container.hasTag with
  | false => exact ⟨_, runWithin_of_hasTag_eq_false hc⟩
  | true =>
    obtain ⟨found, hf⟩ := exists_find_eq_ok_iff.2 fun selector hs =>
      h selector _ (.scope hk ht hc hs)
    rcases found with message | _ | ⟨c, cs⟩
    · exact ⟨_, runWithin_of_refused hc hf⟩
    · exact ⟨_, runWithin_of_no_containers hc hf⟩
    · cases hs : selectorFor d with
      | error message => exact ⟨_, runWithin_of_selectorFor_eq_error hc hf hs⟩
      | ok selector =>
        obtain ⟨selectors, hr⟩ :=
          Css.exists_selectorsOf_eq_ok_iff.2 (h selector _ (.within hk ht hc hf hs))
        exact ⟨_, by rw [runWithin_of_selectorFor_eq_ok hc hf hs, hr]; rfl⟩

theorem exists_run_of_told {page : Document} {kind : Kind} {d : ElementDescriptor} {scope : Scope}
    (h : ∀ selector refusal, Reads page kind d scope selector refusal → ¬ Untold selector) :
    ∃ r, run page kind d scope = .ok r := by
  cases ht : d.hasTag with
  | false => exact ⟨_, run_of_hasTag_eq_false ht⟩
  | true =>
    cases hk : kind.isContainer with
    | true =>
      obtain ⟨found, hf⟩ := exists_find_eq_ok_iff.2 fun selector hs =>
        h selector _ (.container hk ht hs)
      exact ⟨_, by rw [run_of_isContainer hk ht, hf]; rfl⟩
    | false =>
      cases scope with
      | page =>
        cases kind with
        | container | linkContainer => cases hk
        | field =>
          obtain ⟨found, hf⟩ := exists_find_eq_ok_iff.2 fun selector hs =>
            h selector _ (.onPage ht hs)
          exact ⟨_, by rw [run_field_page ht, hf]; rfl⟩
        | linkField => exact ⟨_, run_linkField_page ht⟩
      | within container =>
        have hw : ∃ summary, run page kind d (.within container) =
            runWithin page container d summary := run_within hk ht
        obtain ⟨summary, hw⟩ := hw
        rw [hw]
        exact exists_runWithin_of_told hk ht h summary

/-- A probe gives a result just if there is something to say about each selector that it reads. -/
theorem exists_run_eq_ok_iff {page : Document} {kind : Kind} {d : ElementDescriptor}
    {scope : Scope} :
    (∃ r, run page kind d scope = .ok r) ↔
      ∀ selector refusal, Reads page kind d scope selector refusal → ¬ Untold selector := by
  constructor
  · rintro ⟨r, hr⟩ selector refusal hs hu
    obtain ⟨e, he⟩ := run_of_untold hs hu
    rw [he] at hr
    cases hr
  · exact exists_run_of_told

end PageHarvest.Probe
