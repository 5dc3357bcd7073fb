import Mathlib.Tactic.SplitIfs
import PageHarvest.Job.Validate

namespace PageHarvest

namespace FieldName

theorem check_eq_ok {name : String} (h : check name = .ok ()) : isSafe name = true := by
  unfold check at h
  split_ifs at h with _ hs
  exact hs

theorem checkAll_eq_ok {names : List String} (h : checkAll names = .ok ()) :
    ∀ name ∈ names, isSafe name = true := by
  have each : names.forM check = .ok () := by
    unfold checkAll at h
    cases hn : names.forM check with
    | error e =>
      rw [hn] at h
      cases h
    | ok u => rfl
  clear h
  induction names with
  | nil => simp
  | cons name names ih =>
    rw [List.forM_eq_forM, List.forM_cons] at each
    cases hn : check name with
    | error e =>
      rw [hn] at each
      cases each
    | ok u =>
      rw [hn] at each
      exact List.forall_mem_cons.2 ⟨check_eq_ok hn, ih each⟩

theorem firstRepeat?_eq_none_iff {seen names : List String} :
    firstRepeat? seen names = none ↔ names.Nodup ∧ ∀ name ∈ names, name ∉ seen := by
  induction names generalizing seen with
  | nil => simp [firstRepeat?]
  | cons name names ih =>
    rw [firstRepeat?, List.nodup_cons, List.forall_mem_cons]
    split_ifs with h
    · exact ⟨nofun, fun hn => (hn.2.1 h).elim⟩
    · rw [ih]
      constructor
      · intro hn
        have fresh : name ∉ names := fun hm => hn.2 name hm List.mem_cons_self
        exact ⟨⟨fresh, hn.1⟩, h, fun n hm hs => hn.2 n hm (List.mem_cons_of_mem name hs)⟩
      · intro hn
        refine ⟨hn.1.2, fun n hm hs => ?_⟩
        rcases List.mem_cons.1 hs with rfl | hs
        · exact hn.1.1 hm
        · exact hn.2.2 n hm hs

theorem nodup_of_checkAll {names : List String} (h : checkAll names = .ok ()) : names.Nodup := by
  unfold checkAll at h
  cases hn : names.forM check with
  | error e =>
    rw [hn] at h
    cases h
  | ok u =>
    have distinct : checkDistinct names = .ok () := by
      rw [hn] at h
      exact h
    unfold checkDistinct at distinct
    cases hr : firstRepeat? [] names with
    | some n =>
      rw [hr] at distinct
      cases distinct
    | none => exact (firstRepeat?_eq_none_iff.1 hr).1

end FieldName

theorem Extraction.isSafe_of_validate {e : Extraction} (h : e.validate = .ok ())
    (hm : e.mode = .structured) : ∀ f ∈ e.fields, FieldName.isSafe f.name = true := by
  unfold validate at h
  rw [hm] at h
  cases hc : FieldName.checkAll (e.fields.map (·.name)) with
  | error fault =>
    simp only [hc] at h
    cases h
  | ok u => exact fun f hf => FieldName.checkAll_eq_ok hc f.name (List.mem_map_of_mem hf)

theorem Extraction.nodup_of_validate {e : Extraction} (h : e.validate = .ok ())
    (hm : e.mode = .structured) : (e.fields.map (·.name)).Nodup := by
  unfold validate at h
  rw [hm] at h
  cases hc : FieldName.checkAll (e.fields.map (·.name)) with
  | error fault =>
    simp only [hc] at h
    cases h
  | ok u => exact FieldName.nodup_of_checkAll hc

namespace Pagination

theorem nextSelector_of_validate {p : Pagination} (h : p.validate = .ok ())
    (hp : p.usesNextButton = true) : Text.allBlank p.nextSelector = false := by
  simp only [usesNextButton, Bool.and_eq_true, beq_iff_eq] at hp
  simp only [validate, hp.1, hp.2, Bool.not_true, Bool.false_eq_true, if_false] at h
  split_ifs at h with _ _ hb
  exact Bool.eq_false_iff.2 hb

theorem urlPrefix_of_validate {p : Pagination} (h : p.validate = .ok ())
    (hp : p.usesUrlPattern = true) : Text.allBlank p.urlPrefix = false := by
  simp only [usesUrlPattern, Bool.and_eq_true, beq_iff_eq] at hp
  simp only [validate, hp.1, hp.2, Bool.not_true, Bool.false_eq_true, if_false] at h
  split_ifs at h with _ _ hb
  exact Bool.eq_false_iff.2 hb

end Pagination

namespace Job

theorem validate_eq_ok {j : Job} (h : j.validate = .ok ()) :
    j.validateStartUrl = .ok () ∧ j.pagination.validate = .ok () ∧
      j.extraction.validate = .ok () := by
  unfold validate at h
  split_ifs at h
  · cases h
  cases hs : j.validateStartUrl with
  | error e =>
    rw [hs] at h
    cases h
  | ok u =>
    cases hb : j.validateBaseUrl with
    | error e =>
      rw [hs, hb] at h
      cases h
    | ok u =>
      cases hp : j.pagination.validate with
      | error e =>
        rw [hs, hb, hp] at h
        cases h
      | ok u =>
        rw [hs, hb, hp] at h
        exact ⟨rfl, rfl, h⟩

theorem startUrl_of_validate {j : Job} (h : j.validateStartUrl = .ok ())
    (hj : j.needsStartUrl = true) : j.project.startUrl?.isNone = false := by
  unfold validateStartUrl at h
  rw [if_pos hj] at h
  cases hu : j.project.startUrl? with
  | none =>
    rw [hu] at h
    cases h
  | some url => rfl

end Job
end PageHarvest
