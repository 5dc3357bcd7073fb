import PageHarvest.Proofs.FieldName

namespace PageHarvest

def NameFault.misfit? : NameFault → Option String
  | blank name => some name
  | unsupported name => some name
  | repeated _ => none

namespace FieldName

variable {names seen : List String} {name : String}

def IsFit (name : String) : Prop :=
  name ≠ "" ∧ ∀ c ∈ name.toList,
    ('A' ≤ c ∧ c ≤ 'Z') ∨ ('a' ≤ c ∧ c ≤ 'z') ∨ ('0' ≤ c ∧ c ≤ '9') ∨ c = '_'

theorem isNameChar_iff {c : Char} : isNameChar c = true ↔
    ('A' ≤ c ∧ c ≤ 'Z') ∨ ('a' ≤ c ∧ c ≤ 'z') ∨ ('0' ≤ c ∧ c ≤ '9') ∨ c = '_' := by
  simp only [isNameChar, Char.isAlphanum, Char.isAlpha, Char.isUpper, Char.isLower, Char.isDigit,
    Bool.or_eq_true, Bool.and_eq_true, decide_eq_true_eq, beq_iff_eq, or_assoc]
  rfl

theorem isSafe_iff : isSafe name = true ↔ IsFit name := by
  simp only [isSafe, IsFit, Bool.and_eq_true, Bool.not_eq_true', List.isEmpty_eq_false_iff,
    List.all_eq_true, isNameChar_iff, ne_eq, String.toList_eq_nil_iff]

theorem check_eq_ok_iff : check name = .ok () ↔ IsFit name := by
  rw [← isSafe_iff]
  exact ⟨check_eq_ok, check_of_isSafe⟩

theorem exists_check_eq_error (h : ¬IsFit name) :
    ∃ fault, check name = .error fault ∧ fault.misfit? = some name := by
  rw [← isSafe_iff] at h
  unfold check
  split_ifs
  · exact ⟨.blank name, rfl, rfl⟩
  · exact ⟨.unsupported name, rfl, rfl⟩

theorem checkAll_of_isFit (h : ∀ n ∈ names, IsFit n) : checkAll names = checkDistinct names :=
  checkAll_of_isSafe fun n hn => isSafe_iff.2 (h n hn)

/-- The first name that is none is told of, whatever stands behind it. -/
theorem checkAll_of_not_isFit {before after : List String} {fault : NameFault}
    (hbefore : ∀ n ∈ before, IsFit n) (h : check name = .error fault) :
    checkAll (before ++ name :: after) = .error fault := by
  have each : (before ++ name :: after).forM check = .error fault := by
    induction before with
    | nil =>
      rw [List.nil_append, List.forM_eq_forM, List.forM_cons, h]
      rfl
    | cons n before ih =>
      rw [List.forall_mem_cons] at hbefore
      rw [List.cons_append, List.forM_eq_forM, List.forM_cons, check_eq_ok_iff.2 hbefore.1,
        ← List.forM_eq_forM]
      exact ih hbefore.2
  rw [checkAll, each]
  rfl

theorem exists_first_not_isFit (h : ¬∀ n ∈ names, IsFit n) :
    ∃ before name after, names = before ++ name :: after ∧ (∀ n ∈ before, IsFit n) ∧
      ¬IsFit name := by
  induction names with
  | nil => exact (h (by simp)).elim
  | cons n names ih =>
    by_cases hn : IsFit n
    · obtain ⟨before, name, after, rfl, hbefore, hname⟩ :=
        ih fun all => h (List.forall_mem_cons.2 ⟨hn, all⟩)
      exact ⟨n :: before, name, after, rfl, List.forall_mem_cons.2 ⟨hn, hbefore⟩, hname⟩
    · exact ⟨[], n, names, rfl, by simp, hn⟩

theorem firstRepeat?_eq_some_iff : firstRepeat? seen names = some name ↔
    ∃ before after, names = before ++ name :: after ∧ before.Nodup ∧
      (∀ n ∈ before, n ∉ seen) ∧ (name ∈ seen ∨ name ∈ before) := by
  induction names generalizing seen with
  | nil => simp [firstRepeat?]
  | cons first names ih =>
    rw [firstRepeat?]
    split_ifs with h
    · rw [Option.some.injEq]
      constructor
      · rintro rfl
        exact ⟨[], names, rfl, List.nodup_nil, by simp, .inl h⟩
      · rintro ⟨before, after, he, -, fresh, -⟩
        cases before with
        | nil => exact (List.cons.inj he).1
        | cons n before =>
          obtain rfl := (List.cons.inj he).1
          exact (fresh first List.mem_cons_self h).elim
    · rw [ih]
      constructor
      · rintro ⟨before, after, rfl, distinct, fresh, met⟩
        simp only [List.mem_cons, not_or] at fresh met
        refine ⟨first :: before, after, rfl, ?_, ?_, ?_⟩
        · exact List.nodup_cons.2 ⟨fun hm => (fresh first hm).1 rfl, distinct⟩
        · exact List.forall_mem_cons.2 ⟨h, fun n hn => (fresh n hn).2⟩
        · rw [List.mem_cons]
          tauto
      · rintro ⟨before, after, he, distinct, fresh, met⟩
        cases before with
        | nil =>
          obtain rfl := (List.cons.inj he).1
          exact (h (met.resolve_right List.not_mem_nil)).elim
        | cons n before =>
          obtain ⟨rfl, rfl⟩ := List.cons.inj he
          rw [List.nodup_cons] at distinct
          rw [List.forall_mem_cons] at fresh
          refine ⟨before, after, rfl, distinct.2, fun m hm => ?_, ?_⟩
          · rw [List.mem_cons, not_or]
            exact ⟨fun he => distinct.1 (he ▸ hm), fresh.2 m hm⟩
          · rw [List.mem_cons] at met ⊢
            tauto

theorem checkDistinct_eq_ok_iff : checkDistinct names = .ok () ↔ names.Nodup := by
  unfold checkDistinct
  cases h : firstRepeat? [] names with
  | none => simpa using (firstRepeat?_eq_none_iff.1 h).1
  | some n =>
    have repeats : ¬names.Nodup := by
      intro distinct
      have none := firstRepeat?_eq_none_iff.2 ⟨distinct, fun m _ => List.not_mem_nil⟩
      rw [none] at h
      cases h
    simpa using repeats

theorem checkDistinct_eq_error_iff {fault : NameFault} : checkDistinct names = .error fault ↔
    ∃ n, firstRepeat? [] names = some n ∧ fault = .repeated n := by
  unfold checkDistinct
  cases firstRepeat? [] names <;> simp [eq_comm]

theorem checkAll_eq_ok_iff :
    checkAll names = .ok () ↔ (∀ n ∈ names, IsFit n) ∧ names.Nodup := by
  constructor
  · intro h
    exact ⟨fun n hn => isSafe_iff.1 (checkAll_eq_ok h n hn), nodup_of_checkAll h⟩
  · rintro ⟨fit, distinct⟩
    rw [checkAll_of_isFit fit, checkDistinct_eq_ok_iff]
    exact distinct

theorem misfit?_checkAll_iff :
    (∃ fault, checkAll names = .error fault ∧ fault.misfit? = some name) ↔
      ∃ before after, names = before ++ name :: after ∧ (∀ n ∈ before, IsFit n) ∧
        ¬IsFit name := by
  constructor
  · rintro ⟨fault, hfault, htold⟩
    by_cases fit : ∀ n ∈ names, IsFit n
    · rw [checkAll_of_isFit fit, checkDistinct_eq_error_iff] at hfault
      obtain ⟨n, -, rfl⟩ := hfault
      cases htold
    · obtain ⟨before, first, after, rfl, hbefore, hfirst⟩ := exists_first_not_isFit fit
      obtain ⟨found, hfound, hsame⟩ := exists_check_eq_error hfirst
      rw [checkAll_of_not_isFit hbefore hfound] at hfault
      cases hfault
      obtain rfl := Option.some.inj (hsame.symm.trans htold)
      exact ⟨before, after, rfl, hbefore, hfirst⟩
  · rintro ⟨before, after, rfl, hbefore, hname⟩
    obtain ⟨fault, hfault, htold⟩ := exists_check_eq_error hname
    exact ⟨fault, checkAll_of_not_isFit hbefore hfault, htold⟩

theorem checkAll_eq_repeated_iff : checkAll names = .error (.repeated name) ↔
    (∀ n ∈ names, IsFit n) ∧ ∃ before after, names = before ++ name :: after ∧
      before.Nodup ∧ name ∈ before := by
  have repeats : checkDistinct names = .error (.repeated name) ↔
      ∃ before after, names = before ++ name :: after ∧ before.Nodup ∧ name ∈ before := by
    rw [checkDistinct_eq_error_iff]
    simp [firstRepeat?_eq_some_iff]
  by_cases fit : ∀ n ∈ names, IsFit n
  · rw [checkAll_of_isFit fit, repeats]
    exact ⟨fun h => ⟨fit, h⟩, fun h => h.2⟩
  · obtain ⟨before, first, after, rfl, hbefore, hfirst⟩ := exists_first_not_isFit fit
    obtain ⟨fault, hfault, htold⟩ := exists_check_eq_error hfirst
    rw [checkAll_of_not_isFit hbefore hfault]
    refine ⟨fun h => ?_, fun h => (fit h.1).elim⟩
    cases h
    cases htold

end FieldName

namespace Extraction

open FieldName

theorem validate_eq_ok_iff {e : Extraction} (h : e.mode = .structured) :
    e.validate = .ok () ↔ (∀ f ∈ e.fields, IsFit f.name) ∧ (e.fields.map (·.name)).Nodup := by
  have passes : e.validate = .ok () ↔ checkAll (e.fields.map (·.name)) = .ok () := by
    simp only [validate, h]
    cases checkAll (e.fields.map (·.name)) <;> simp [Except.mapError]
  rw [passes, checkAll_eq_ok_iff, List.forall_mem_map]

/--
A list of names passes if each is made of letters, digits and underscores and no two are the same.
Otherwise the first that is not so made is told of, whatever is repeated before it, or the first
that stands in the list before, if all are. So fields in records are accepted by their names, in
whatever order they stand.
-/
theorem checkAll_decides :
    (∀ names, checkAll names = .ok () ↔ (∀ n ∈ names, IsFit n) ∧ names.Nodup) ∧
    (∀ names name, (∃ fault, checkAll names = .error fault ∧ fault.misfit? = some name) ↔
      ∃ before after, names = before ++ name :: after ∧ (∀ n ∈ before, IsFit n) ∧ ¬IsFit name) ∧
    (∀ names name, checkAll names = .error (.repeated name) ↔
      (∀ n ∈ names, IsFit n) ∧ ∃ before after, names = before ++ name :: after ∧ before.Nodup ∧
        name ∈ before) ∧
    (∀ e : Extraction, e.mode = .structured →
      (e.validate = .ok () ↔
        (∀ f ∈ e.fields, IsFit f.name) ∧ (e.fields.map (·.name)).Nodup)) ∧
    ∀ d e : Extraction, d.mode = .structured → e.mode = .structured → d.fields.Perm e.fields →
      (d.validate = .ok () ↔ e.validate = .ok ()) := by
  refine ⟨fun _ => checkAll_eq_ok_iff, fun _ _ => misfit?_checkAll_iff,
    fun _ _ => checkAll_eq_repeated_iff, fun _ => validate_eq_ok_iff, ?_⟩
  intro d e hd he fields
  rw [validate_eq_ok_iff hd, validate_eq_ok_iff he, (fields.map _).nodup_iff]
  have fit : (∀ f ∈ d.fields, IsFit f.name) ↔ ∀ f ∈ e.fields, IsFit f.name :=
    forall_congr' fun f => imp_congr_left fields.mem_iff
  rw [fit]

def pricedFields : Extraction :=
  { initial .zero with
    fields := [{ id := .zero, name := "title" }, { id := .zero, name := "price_2" }] }

def turnedFields : Extraction :=
  { pricedFields with fields := pricedFields.fields.reverse }

theorem checkAll_decides_pricedFields :
    (∃ fault, checkAll ["a", "a", "b\n", "é"] = .error fault ∧ fault.misfit? = some "b\n") ∧
      checkAll ["a", "b", "b", "a"] = .error (.repeated "b") ∧
      pricedFields.mode = .structured ∧ turnedFields.mode = .structured ∧
      pricedFields.fields.Perm turnedFields.fields ∧ pricedFields.validate = .ok () ∧
      turnedFields.validate = .ok () := by
  obtain ⟨-, misfit, repeats, accepted, turned⟩ := checkAll_decides
  have fit {n : String} (h : isSafe n = true) : IsFit n := isSafe_iff.1 h
  have order : pricedFields.fields.Perm turnedFields.fields := (List.reverse_perm _).symm
  have priced : pricedFields.validate = .ok () := by
    refine (accepted pricedFields rfl).2 ⟨?_, by decide⟩
    simp only [pricedFields, List.forall_mem_cons]
    exact ⟨fit (by decide), fit (by decide), List.forall_mem_nil _⟩
  refine ⟨(misfit _ _).2 ⟨["a", "a"], ["é"], rfl, ?_, ?_⟩,
    (repeats _ _).2 ⟨?_, ["a", "b"], ["a"], rfl, by decide, by decide⟩, rfl, rfl, order, priced,
    (turned _ _ rfl rfl order).1 priced⟩
  · simp only [List.forall_mem_cons]
    exact ⟨fit (by decide), fit (by decide), List.forall_mem_nil _⟩
  · rw [← isSafe_iff]
    decide
  · simp only [List.forall_mem_cons]
    exact ⟨fit (by decide), fit (by decide), fit (by decide), fit (by decide),
      List.forall_mem_nil _⟩

end Extraction
end PageHarvest
