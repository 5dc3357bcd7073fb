import Mathlib
import PageHarvest.Proofs.Probe.History

namespace PageHarvest.Probe

namespace Command

/-- The command takes a choice of origin back. -/
inductive Revokes : Command → Prop
  | edited {slot : Slot} : slot.kind.isContainer = true → Revokes (.edited slot)
  | stores {c : Command} {slot : Slot} {r : Result} {message : String} :
    c.Stores slot r → slot.kind.isContainer = true → r.status = .selectorInvalid message →
      Revokes c

def KeepsChoice (c : Command) : Prop :=
  ¬ c.Revokes ∧ ∀ origin, c ≠ .chooseOrigin origin

/-- The command is about what is looked for in containers. -/
inductive Inner : Command → Prop
  | run {page : Html.Document} {slot : Slot} {d : ElementDescriptor} {scope : Scope} :
    slot.kind.isContainer = false → Inner (.run page slot d scope)
  | record {slot : Slot} {r : Result} : slot.kind.isContainer = false → Inner (.record slot r)
  | edited {slot : Slot} : slot.kind.isContainer = false → Inner (.edited slot)
  | removeField (id : FieldId) : Inner (.removeField id)
  | clearFields : Inner .clearFields

variable {c : Command} {own : Slot} {r : Result}

theorem Stores.revokes_iff (h : c.Stores own r) :
    c.Revokes ↔ own.kind.isContainer = true ∧ ∃ message, r.status = .selectorInvalid message := by
  constructor
  · rintro (_ | ⟨h', hk, hm⟩)
    · cases h
    · obtain ⟨rfl, rfl⟩ := h.iff.1 h'
      exact ⟨hk, _, hm⟩
  · rintro ⟨hk, message, hm⟩
    exact .stores h hk hm

theorem Stores.keepsChoice_iff (h : c.Stores own r) : c.KeepsChoice ↔ ¬ c.Revokes := by
  refine and_iff_left ?_
  rintro origin rfl
  cases h

theorem revokes_iff_of_not_stores (h : ∀ own r, ¬ c.Stores own r) :
    c.Revokes ↔ ∃ slot : Slot, slot.kind.isContainer = true ∧ c = .edited slot := by
  constructor
  · rintro (hk | ⟨hs, _, _⟩)
    · exact ⟨_, hk, rfl⟩
    · exact (h _ _ hs).elim
  · rintro ⟨slot, hk, rfl⟩
    exact .edited hk

end Command

/-- Some command chose the origin, and no later one chose again or took the choice back. -/
def Chosen (commands : List Command) (origin : Origin) : Prop :=
  ∃ before since, commands = before ++ .chooseOrigin origin :: since ∧
    ∀ later ∈ since, later.KeepsChoice

theorem chosen_iff {commands : List Command} {origin : Origin} :
    Chosen commands origin ↔ ∃ before c since, commands = before ++ c :: since ∧
      c = .chooseOrigin origin ∧ ∀ later ∈ since, later.KeepsChoice := by
  constructor
  · rintro ⟨before, since, he, hs⟩
    exact ⟨before, _, since, he, rfl, hs⟩
  · rintro ⟨before, _, since, he, rfl, hs⟩
    exact ⟨before, since, he, hs⟩

theorem not_chosen_nil (origin : Origin) : ¬ Chosen [] origin := by
  rintro ⟨before, since, he, _⟩
  exact List.append_ne_nil_of_right_ne_nil before (List.cons_ne_nil _ since) he.symm

theorem chosen_append_singleton {commands : List Command} {c : Command} {origin : Origin} :
    Chosen (commands ++ [c]) origin ↔
      c = .chooseOrigin origin ∨ c.KeepsChoice ∧ Chosen commands origin := by
  rw [chosen_iff, chosen_iff]
  exact exists_since_append_singleton

namespace Store

def isReady (s : Store) : Slot → Bool
  | .container => s.containerReady
  | .linkContainer => s.linkContainerReady
  | .linkField | .field _ => false

variable {s : Store} {slot own : Slot} {r : Result}

theorem isReady_record (hk : slot.kind.isContainer = true) :
    (s.record own r).isReady slot = if own = slot then !r.isError else s.isReady slot := by
  cases slot with
  | linkField | field id => cases hk
  | container | linkContainer =>
    cases own with
    | linkField | field id => rfl
    | container | linkContainer =>
      unfold record reviewChoice
      split_ifs <;> first | rfl | contradiction

theorem isReady_edited (hk : slot.kind.isContainer = true) :
    (s.edited own).isReady slot = if own = slot then false else s.isReady slot := by
  cases slot with
  | linkField | field id => cases hk
  | container | linkContainer => cases own <;> rfl

theorem spares_edited_iff (hk : slot.kind.isContainer = true) :
    ¬ (Command.edited own).Invalidates slot ↔ own ≠ slot := by
  rw [Command.invalidates_edited_iff]
  cases slot with
  | linkField | field id => cases hk
  | container | linkContainer => simp [Slot.isField, eq_comm]

/-- A flag goes up and down with the results of its container. -/
theorem isReady_after_eq_true_iff (hk : slot.kind.isContainer = true) (c : Command) :
    (s.after c).isReady slot = true ↔
      (∃ r, c.Stores slot r ∧ r.isError = false) ∨ c.Spares slot ∧ s.isReady slot = true := by
  by_cases h : ∃ own r, c.Stores own r
  · obtain ⟨own, r, hs⟩ := h
    rw [after_of_stores hs, isReady_record hk, hs.spares_iff]
    by_cases ho : own = slot
    · simp [hs.iff, ho]
    · simp [hs.iff, ho]
  · push Not at h
    have none : ¬ ∃ r, c.Stores slot r ∧ r.isError = false := by
      rintro ⟨r, hr, -⟩
      exact h slot r hr
    rw [Command.spares_iff_of_not_stores h, or_iff_right none]
    cases c with
    | run page own d scope =>
      have hi : ¬ (Command.run page own d scope).Invalidates slot := by
        intro hi
        cases hi
      rw [after_run_of_not_stores h, and_iff_right hi]
    | record own r => exact (h own r (.record own r)).elim
    | edited own =>
      rw [spares_edited_iff hk, after, isReady_edited hk]
      by_cases ho : own = slot <;> simp [ho]
    | removeField id =>
      rw [Command.invalidates_removeField_iff]
      cases slot with
      | linkField | field id => cases hk
      | container | linkContainer =>
        refine (and_iff_right ?_).symm
        intro hi
        cases hi
    | clearFields =>
      rw [Command.invalidates_clearFields_iff]
      cases slot with
      | linkField | field id => cases hk
      | container | linkContainer =>
        refine (and_iff_right ?_).symm
        intro hi
        cases hi
    | chooseOrigin origin =>
      have hi : ¬ (Command.chooseOrigin origin).Invalidates slot := by
        intro hi
        cases hi
      rw [and_iff_right hi]
      cases slot <;> rfl

/-- Whatever was done with a store, a container is ready just if its result is no error. -/
theorem isReady_afterAll_eq_true_iff (hk : slot.kind.isContainer = true) (commands : List Command) :
    (empty.afterAll commands).isReady slot = true ↔
      ∃ r, (empty.afterAll commands).get? slot = some r ∧ r.isError = false := by
  induction commands using List.reverseRecOn with
  | nil =>
    have down : (empty.afterAll []).isReady slot = false := by cases slot <;> rfl
    have bare : (empty.afterAll []).get? slot = none := rfl
    simp only [down, bare, Bool.false_eq_true, reduceCtorEq, false_and, exists_false]
  | append_singleton commands c ih =>
    simp only [afterAll_append_singleton, isReady_after_eq_true_iff hk, ih, get?_after_eq_some_iff]
    constructor
    · rintro (⟨r, hs, hr⟩ | ⟨hc, r, hg, hr⟩)
      · exact ⟨r, .inl hs, hr⟩
      · exact ⟨r, .inr ⟨hc, hg⟩, hr⟩
    · rintro ⟨r, hs | ⟨hc, hg⟩, hr⟩
      · exact .inl ⟨r, hs, hr⟩
      · exact .inr ⟨hc, r, hg, hr⟩

theorem isSelectorInvalid_iff {status : Status} :
    status.isSelectorInvalid = true ↔ ∃ message, status = .selectorInvalid message := by
  cases status <;> simp [Status.isSelectorInvalid]

theorem originChoice_record :
    (s.record own r).originChoice =
      if own.kind.isContainer = true ∧ r.status.isSelectorInvalid = true then none
      else s.originChoice := by
  cases own with
  | linkField | field id => rfl
  | container | linkContainer =>
    unfold record reviewChoice
    by_cases hi : r.status.isSelectorInvalid = true <;> simp [hi, put, Slot.kind, Kind.isContainer]

theorem originChoice_edited :
    (s.edited own).originChoice =
      if own.kind.isContainer = true then none else s.originChoice := by
  cases own <;> rfl

theorem originChoice_after_eq_some_iff {origin : Origin} (c : Command) :
    (s.after c).originChoice = some origin ↔
      c = .chooseOrigin origin ∨ c.KeepsChoice ∧ s.originChoice = some origin := by
  by_cases h : ∃ own r, c.Stores own r
  · obtain ⟨own, r, hs⟩ := h
    have other : c ≠ .chooseOrigin origin := by
      rintro rfl
      cases hs
    rw [after_of_stores hs, originChoice_record, hs.keepsChoice_iff, hs.revokes_iff,
      ← isSelectorInvalid_iff, or_iff_right other]
    split_ifs with hr <;> simp [hr]
  · push Not at h
    rw [Command.KeepsChoice, Command.revokes_iff_of_not_stores h]
    cases c with
    | run page own d scope =>
      rw [after_run_of_not_stores h]
      simp
    | record own r => exact (h own r (.record own r)).elim
    | edited own =>
      rw [after, originChoice_edited]
      split_ifs with hk <;> simp [hk]
    | removeField id | clearFields => simp [after, removeField, clearFields, drop, dropWhere]
    | chooseOrigin origin' => simp [after, chooseOrigin]

theorem originChoice_afterAll_eq_some_iff {commands : List Command} {origin : Origin} :
    (empty.afterAll commands).originChoice = some origin ↔ Chosen commands origin := by
  induction commands using List.reverseRecOn with
  | nil => exact iff_of_false nofun (not_chosen_nil origin)
  | append_singleton commands c ih =>
    rw [afterAll_append_singleton, originChoice_after_eq_some_iff, chosen_append_singleton, ih]

theorem record_eq_put (hk : own.kind.isContainer = false) : s.record own r = s.put own r := by
  cases own with
  | container | linkContainer => cases hk
  | linkField | field id => rfl

theorem edited_eq_drop (hk : own.kind.isContainer = false) : s.edited own = s.drop own := by
  cases own with
  | container | linkContainer => cases hk
  | linkField | field id => rfl

theorem after_of_inner {c : Command} (h : c.Inner) :
    s.after c = { s with results := (s.after c).results } := by
  cases h with
  | @run page own d scope hk =>
    cases hr : Probe.run page own.kind d scope with
    | ok r =>
      rw [after_of_stores (.run hr), record_eq_put hk]
      rfl
    | error e => simp [after, run, hr]
  | record hk =>
    rw [after, record_eq_put hk]
    rfl
  | edited hk =>
    rw [after, edited_eq_drop hk]
    rfl
  | removeField id => rfl
  | clearFields => rfl

/--
The flags say what the results of the containers say, the choice of origin is the last one that
nothing took back, and commands about fields and links change none of them.
-/
theorem coherent_afterAll (commands : List Command) :
    ((empty.afterAll commands).containerReady = true ↔
      ∃ r, (empty.afterAll commands).get? .container = some r ∧ r.isError = false) ∧
    ((empty.afterAll commands).linkContainerReady = true ↔
      ∃ r, (empty.afterAll commands).get? .linkContainer = some r ∧ r.isError = false) ∧
    (∀ origin, (empty.afterAll commands).originChoice = some origin ↔ Chosen commands origin) ∧
    ∀ c : Command, c.Inner →
      ((empty.afterAll commands).after c).containerReady =
        (empty.afterAll commands).containerReady ∧
      ((empty.afterAll commands).after c).linkContainerReady =
        (empty.afterAll commands).linkContainerReady ∧
      ((empty.afterAll commands).after c).originChoice =
        (empty.afterAll commands).originChoice := by
  refine ⟨?_, ?_, ?_, ?_⟩
  · have hk : Slot.container.kind.isContainer = true := rfl
    exact isReady_afterAll_eq_true_iff hk commands
  · have hk : Slot.linkContainer.kind.isContainer = true := rfl
    exact isReady_afterAll_eq_true_iff hk commands
  · intro origin
    exact originChoice_afterAll_eq_some_iff
  · intro c hc
    rw [after_of_inner hc]
    exact ⟨rfl, rfl, rfl⟩

/-- A link selector that is refused takes neither the flag nor the choice back. -/
theorem coherent_afterAll_refusedLink :
    (Command.record .linkField (.failure (.selectorInvalid "end of text") "a[")).Inner ∧
      ((empty.afterAll
        [.record .container ⟨3, none, "", .matched⟩, .chooseOrigin .localFiles]).after
        (.record .linkField (.failure (.selectorInvalid "end of text") "a["))).containerReady =
          true ∧
      ((empty.afterAll
        [.record .container ⟨3, none, "", .matched⟩, .chooseOrigin .localFiles]).after
        (.record .linkField (.failure (.selectorInvalid "end of text") "a["))).originChoice =
          some .localFiles := by
  obtain ⟨ready, -, choice, inner⟩ :=
    coherent_afterAll [.record .container ⟨3, none, "", .matched⟩, .chooseOrigin .localFiles]
  have hc : (Command.record .linkField (.failure (.selectorInvalid "end of text") "a[")).Inner :=
    .record rfl
  obtain ⟨keepsFlag, -, keepsChoice⟩ := inner _ hc
  refine ⟨hc, keepsFlag.trans (ready.2 ⟨_, rfl, rfl⟩), keepsChoice.trans ?_⟩
  exact (choice .localFiles).2 ⟨[_], [], rfl, nofun⟩

end Store
end PageHarvest.Probe
