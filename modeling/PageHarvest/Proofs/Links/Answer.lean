import PageHarvest.Links.Harvest
import PageHarvest.Proofs.Probe.Answer

namespace PageHarvest

open Css (Untold Refused)
open Html (Document NodeId)

namespace Harvest

/-- The selectors that a harvest reads: the link's only if the container's can be looked for. -/
inductive Reads (page : Document) (container link : String) : String → Prop
  | container : Reads page container link container
  | link {found : List NodeId} :
    page.select container = .ok (.ok found) → Reads page container link link

variable {page : Document} {container link selector : String}

theorem containerLinks_of_refused {message : String} (base : Option String)
    (hr : Reads page container link selector) (h : Refused selector message) :
    containerLinks page container link base = .ok (refused selector message) := by
  cases hr with
  | container =>
    simp [containerLinks, Css.select_of_refused h, bind, Except.bind, pure, Except.pure]
  | link hf =>
    simp [containerLinks, hf, Css.selectorsOf_of_refused h, bind, Except.bind, pure, Except.pure]

theorem exists_containerLinks_eq_ok_iff {base : Option String} :
    (∃ harvest, containerLinks page container link base = .ok harvest) ↔
      ∀ selector, Reads page container link selector → ¬ Untold selector := by
  constructor
  · rintro ⟨harvest, hh⟩ selector hr
    cases hr with
    | container =>
      rw [← Css.exists_select_eq_ok_iff page]
      cases hf : page.select container with
      | error e =>
        simp [containerLinks, hf, bind, Except.bind] at hh
      | ok found => exact ⟨found, rfl⟩
    | link hf =>
      rw [← Css.exists_selectorsOf_eq_ok_iff]
      cases hs : Css.selectorsOf link with
      | error e =>
        simp [containerLinks, hf, hs, bind, Except.bind] at hh
      | ok selectors => exact ⟨selectors, rfl⟩
  · intro h
    obtain ⟨found, hf⟩ := (Css.exists_select_eq_ok_iff page).2 (h container .container)
    cases found with
    | error message =>
      simp [containerLinks, hf, bind, Except.bind, pure, Except.pure]
    | ok found =>
      obtain ⟨selectors, hs⟩ := Css.exists_selectorsOf_eq_ok_iff.2 (h link (.link hf))
      cases selectors <;>
        simp [containerLinks, hf, hs, bind, Except.bind, pure, Except.pure]

end Harvest

/--
Probes and harvests give a result just if every selector that they read is one, or is refused with
a message; and a selector that is refused with a message makes the whole an ordinary value.
-/
theorem answers_iff (page : Document) :
    (∀ kind d scope,
      ((∃ r, Probe.run page kind d scope = .ok r) ↔
        ∀ selector refusal, Probe.Reads page kind d scope selector refusal → ¬ Untold selector) ∧
      ∀ selector refusal message, Probe.Reads page kind d scope selector refusal →
        Refused selector message → Probe.run page kind d scope = .ok (refusal message)) ∧
    ∀ container link base,
      ((∃ harvest, Harvest.containerLinks page container link base = .ok harvest) ↔
        ∀ selector, Harvest.Reads page container link selector → ¬ Untold selector) ∧
      ∀ selector message, Harvest.Reads page container link selector → Refused selector message →
        Harvest.containerLinks page container link base =
          .ok { refusal := some (Css.refusal selector message) } := by
  refine ⟨fun kind d scope => ⟨Probe.exists_run_eq_ok_iff, ?_⟩,
    fun container link base => ⟨Harvest.exists_containerLinks_eq_ok_iff, ?_⟩⟩
  · intro selector refusal message hr h
    exact Probe.run_of_refused hr h
  · intro selector message hr h
    exact Harvest.containerLinks_of_refused base hr h

theorem untold_star : Untold "div*" := by
  refine ⟨.unexpected (.delim '*'), ?_, .unexpected (.delim '*')⟩
  cbv

/-- About a star behind a type there is nothing to say: no probe and no harvest gets past it. -/
theorem not_answers_star :
    (¬ ∃ r, Probe.run (Document.parse "<p>x</p>") .container { tag := "div*" } .page = .ok r) ∧
      ¬ ∃ harvest,
        Harvest.containerLinks (Document.parse "<p>x</p>") "div*" "a" none = .ok harvest := by
  constructor
  · intro h
    have hs : Probe.selectorFor { tag := "div*" } = .ok "div*" := by cbv
    exact Probe.exists_run_eq_ok_iff.1 h _ _ (.container rfl (by decide) hs) untold_star
  · intro h
    exact Harvest.exists_containerLinks_eq_ok_iff.1 h _ .container untold_star

end PageHarvest
