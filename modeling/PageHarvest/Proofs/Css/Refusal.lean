import PageHarvest.Css.Query

namespace PageHarvest.Css

/-- The tokens that have no text of their own: marks without a meaning, and addresses. -/
inductive Token.Untold : Token → Prop
  | delim (c : Char) : Untold (.delim c)
  | url (text : String) : Untold (.url text)

/-- The faults that have to show a token without a text. -/
inductive Fault.Untold : Fault → Prop
  | unexpected {t : Token} : t.Untold → Untold (.unexpected t)
  | pseudoNameExpected {t : Token} : t.Untold → Untold (.pseudoNameExpected t)

def Untold (text : String) : Prop :=
  ∃ fault, readSelectors text = .error fault ∧ fault.Untold

def Refused (text message : String) : Prop :=
  ∃ fault, readSelectors text = .error fault ∧ fault.message? = some message

theorem Token.text?_eq_none_iff {t : Token} : t.text? = none ↔ t.Untold := by
  constructor
  · intro h
    cases t with
    | delim c => exact .delim c
    | url text => exact .url text
    | _ => cases h
  · rintro (_ | _) <;> rfl

theorem Fault.message?_eq_none_iff {fault : Fault} : fault.message? = none ↔ fault.Untold := by
  constructor
  · intro h
    cases fault with
    | unexpected t => exact .unexpected (Token.text?_eq_none_iff.1 (Option.map_eq_none_iff.1 h))
    | pseudoNameExpected t =>
      exact .pseudoNameExpected (Token.text?_eq_none_iff.1 (Option.map_eq_none_iff.1 h))
    | _ => cases h
  · rintro (ht | ht)
    · exact Option.map_eq_none_iff.2 (Token.text?_eq_none_iff.2 ht)
    · exact Option.map_eq_none_iff.2 (Token.text?_eq_none_iff.2 ht)

theorem selectorsOf_of_refused {text message : String} (h : Refused text message) :
    selectorsOf text = .ok (.error message) := by
  obtain ⟨fault, hr, hm⟩ := h
  simp only [selectorsOf, hr, hm]

theorem refused_of_selectorsOf {text message : String}
    (h : selectorsOf text = .ok (.error message)) : Refused text message := by
  unfold selectorsOf at h
  cases hr : readSelectors text with
  | ok selectors =>
    rw [hr] at h
    cases h
  | error fault =>
    simp only [hr] at h
    cases hm : fault.message? with
    | none =>
      rw [hm] at h
      cases h
    | some said =>
      rw [hm] at h
      cases h
      exact ⟨fault, hr, hm⟩

theorem exists_selectorsOf_eq_ok_iff {text : String} :
    (∃ found, selectorsOf text = .ok found) ↔ ¬ Untold text := by
  unfold selectorsOf Untold
  cases hr : readSelectors text with
  | ok selectors => simp
  | error fault =>
    cases hm : fault.message? with
    | none =>
      have hu := Fault.message?_eq_none_iff.1 hm
      simp [hm, hu]
    | some message =>
      have hu : ¬ fault.Untold := fun h => by
        rw [Fault.message?_eq_none_iff.2 h] at hm
        cases hm
      simp [hm, hu]

theorem selectorsOf_of_untold {text : String} (h : Untold text) :
    ∃ e, selectorsOf text = .error e := by
  cases hs : selectorsOf text with
  | error e => exact ⟨e, rfl⟩
  | ok found => exact (exists_selectorsOf_eq_ok_iff.1 ⟨found, hs⟩ h).elim

theorem exists_select_eq_ok_iff (page : Html.Document) {text : String} :
    (∃ found, page.select text = .ok found) ↔ ¬ Untold text := by
  rw [← exists_selectorsOf_eq_ok_iff, Html.Document.select]
  rcases selectorsOf text with e | message | selectors <;> simp

theorem refused_of_select {page : Html.Document} {text message : String}
    (h : page.select text = .ok (.error message)) : Refused text message := by
  apply refused_of_selectorsOf
  rw [Html.Document.select] at h
  cases hs : selectorsOf text with
  | error e =>
    rw [hs] at h
    cases h
  | ok read =>
    rw [hs] at h
    cases read with
    | error said =>
      cases h
      rfl
    | ok selectors => cases h

theorem select_of_refused {page : Html.Document} {text message : String}
    (h : Refused text message) : page.select text = .ok (.error message) := by
  rw [Html.Document.select, selectorsOf_of_refused h]

end PageHarvest.Css
