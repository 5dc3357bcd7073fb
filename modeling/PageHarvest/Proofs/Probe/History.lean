import Mathlib.Data.Set.Card
import PageHarvest.Probe.Store

namespace PageHarvest.Probe

/-- What can be done with a store. -/
inductive Command
  | run (page : Html.Document) (slot : Slot) (d : ElementDescriptor) (scope : Scope)
  | record (slot : Slot) (r : Result)
  | edited (slot : Slot)
  | removeField (id : FieldId)
  | clearFields
  | chooseOrigin (origin : Origin)

namespace Command

/-- The command stores a result in a slot. A run that gives no result stores none. -/
inductive Stores : Command → Slot → Result → Prop
  | run {page : Html.Document} {slot : Slot} {d : ElementDescriptor} {scope : Scope} {r : Result} :
    Probe.run page slot.kind d scope = .ok r → Stores (.run page slot d scope) slot r
  | record (slot : Slot) (r : Result) : Stores (.record slot r) slot r

/-- The command makes the result of a slot stale. -/
inductive Invalidates : Command → Slot → Prop
  | edited (slot : Slot) : Invalidates (.edited slot) slot
  /-- Fields are looked for in the container. -/
  | container (id : FieldId) : Invalidates (.edited .container) (.field id)
  /-- Links are looked for in the container of links. -/
  | linkContainer : Invalidates (.edited .linkContainer) .linkField
  | removeField (id : FieldId) : Invalidates (.removeField id) (.field id)
  | clearFields (id : FieldId) : Invalidates .clearFields (.field id)

/-- The command neither stores a result in the slot nor makes one stale. -/
def Spares (c : Command) (slot : Slot) : Prop :=
  (∀ r, ¬ c.Stores slot r) ∧ ¬ c.Invalidates slot

variable {c : Command} {own slot : Slot} {r r' : Result}

theorem Stores.iff (h : c.Stores own r) : c.Stores slot r' ↔ own = slot ∧ r = r' := by
  constructor
  · intro h'
    cases h with
    | run hr =>
      cases h' with
      | run hr' => exact ⟨rfl, Except.ok.inj (hr.symm.trans hr')⟩
    | record =>
      cases h'
      exact ⟨rfl, rfl⟩
  · rintro ⟨rfl, rfl⟩
    exact h

theorem Stores.spares_iff (h : c.Stores own r) : c.Spares slot ↔ own ≠ slot := by
  constructor
  · rintro hs rfl
    exact hs.1 r h
  · intro hne
    refine ⟨fun r' h' => hne (h.iff.1 h').1, fun hi => ?_⟩
    cases h <;> cases hi

theorem spares_iff_of_not_stores (h : ∀ own r, ¬ c.Stores own r) :
    c.Spares slot ↔ ¬ c.Invalidates slot := by
  rw [Spares, and_iff_right fun r => h slot r]

theorem invalidates_edited_iff {slot other : Slot} :
    (edited slot).Invalidates other ↔ other = slot ∨ slot = .container ∧ other.isField = true ∨
      slot = .linkContainer ∧ other = .linkField := by
  constructor
  · rintro (_ | _ | _)
    · exact .inl rfl
    · exact .inr (.inl ⟨rfl, rfl⟩)
    · exact .inr (.inr ⟨rfl, rfl⟩)
  · rintro (rfl | ⟨rfl, hf⟩ | ⟨rfl, rfl⟩)
    · exact .edited _
    · cases other with
      | field id => exact .container id
      | container | linkContainer | linkField => cases hf
    · exact .linkContainer

theorem invalidates_removeField_iff {id : FieldId} :
    (removeField id).Invalidates slot ↔ slot = .field id := by
  constructor
  · rintro (_ | _)
    rfl
  · rintro rfl
    exact .removeField id

theorem invalidates_clearFields_iff : clearFields.Invalidates slot ↔ slot.isField = true := by
  constructor
  · rintro (_ | _)
    rfl
  · intro hf
    cases slot with
    | field id => exact .clearFields id
    | container | linkContainer | linkField => cases hf

end Command

def Fresh (commands : List Command) (slot : Slot) (r : Result) : Prop :=
  ∃ before c since, commands = before ++ c :: since ∧ c.Stores slot r ∧
    ∀ later ∈ since, later.Spares slot

theorem not_fresh_nil (slot : Slot) (r : Result) : ¬ Fresh [] slot r := by
  rintro ⟨before, c, since, he, _⟩
  exact List.append_ne_nil_of_right_ne_nil before (List.cons_ne_nil c since) he.symm

theorem exists_since_append_singleton {α : Type} {P Q : α → Prop} {l : List α} {a : α} :
    (∃ before x since, l ++ [a] = before ++ x :: since ∧ P x ∧ ∀ later ∈ since, Q later) ↔
      P a ∨ Q a ∧ ∃ before x since, l = before ++ x :: since ∧ P x ∧ ∀ later ∈ since, Q later := by
  constructor
  · rintro ⟨before, x, since, he, hx, hs⟩
    rcases List.eq_nil_or_concat since with rfl | ⟨since, last, rfl⟩
    · obtain ⟨-, ha⟩ := List.append_inj' he rfl
      obtain rfl : a = x := List.head_eq_of_cons_eq ha
      exact .inl hx
    · have he' : l ++ [a] = (before ++ x :: since) ++ [last] := by simpa using he
      obtain ⟨hl, ha⟩ := List.append_inj' he' rfl
      obtain rfl : a = last := List.head_eq_of_cons_eq ha
      refine .inr ⟨hs a (by simp), before, x, since, hl, hx, ?_⟩
      intro later hm
      exact hs later (by simp [hm])
  · rintro (ha | ⟨ha, before, x, since, rfl, hx, hs⟩)
    · exact ⟨l, a, [], rfl, ha, by simp⟩
    · refine ⟨before, x, since ++ [a], by simp, hx, ?_⟩
      intro later hm
      rcases List.mem_append.1 hm with hm | hm
      · exact hs later hm
      · rwa [List.mem_singleton.1 hm]

theorem fresh_append_singleton {commands : List Command} {c : Command} {slot : Slot} {r : Result} :
    Fresh (commands ++ [c]) slot r ↔
      c.Stores slot r ∨ c.Spares slot ∧ Fresh commands slot r :=
  exists_since_append_singleton

namespace Store

/-- The store behind a command. A run that gives no result leaves the store as it is. -/
def after (s : Store) : Command → Store
  | .run page slot d scope =>
    match s.run page slot d scope with
    | .ok (s', _) => s'
    | .error _ => s
  | .record slot r => s.record slot r
  | .edited slot => s.edited slot
  | .removeField id => s.removeField id
  | .clearFields => s.clearFields
  | .chooseOrigin origin => s.chooseOrigin origin

def afterAll (s : Store) (commands : List Command) : Store :=
  commands.foldl after s

theorem afterAll_append_singleton (s : Store) (commands : List Command) (c : Command) :
    s.afterAll (commands ++ [c]) = (s.afterAll commands).after c := by
  rw [afterAll, List.foldl_append]
  rfl

theorem get?_dropWhere (s : Store) (p : Slot → Bool) (slot : Slot) :
    (s.dropWhere p).get? slot = if p slot then none else s.get? slot := by
  have own : (fun e : Slot × Result => decide ((!p e.1) = true ∧ (e.1 == slot) = true)) =
      fun e => !p slot && e.1 == slot := by
    funext e
    by_cases he : e.1 = slot
    · simp [he]
    · simp [he]
  rw [get?, get?, dropWhere, List.find?_filter, own]
  cases p slot <;> simp

theorem get?_dropWhere_eq_some_iff {s : Store} {p : Slot → Bool} {slot : Slot} {r : Result} :
    (s.dropWhere p).get? slot = some r ↔ p slot = false ∧ s.get? slot = some r := by
  rw [get?_dropWhere]
  cases p slot <;> simp

theorem get?_drop_eq_some_iff {s : Store} {slot other : Slot} {r : Result} :
    (s.drop slot).get? other = some r ↔ other ≠ slot ∧ s.get? other = some r := by
  rw [drop, get?_dropWhere_eq_some_iff, beq_eq_false_iff_ne]

theorem get?_put_eq_some_iff {s : Store} {slot other : Slot} {r r' : Result} :
    (s.put slot r).get? other = some r' ↔
      slot = other ∧ r = r' ∨ slot ≠ other ∧ s.get? other = some r' := by
  by_cases h : slot = other
  · simp [get?, put, h]
  · have rest : (s.drop slot).get? other = some r' ↔ s.get? other = some r' := by
      rw [get?_drop_eq_some_iff, and_iff_right (Ne.symm h)]
    rw [← rest]
    simp [get?, put, h]

/-- Readiness and the choice of origin are apart from the results. -/
theorem results_record (s : Store) (slot : Slot) (r : Result) :
    (s.record slot r).results = (s.put slot r).results := by
  cases slot with
  | container | linkContainer =>
    unfold record reviewChoice
    dsimp only
    split_ifs <;> rfl
  | linkField | field id => rfl

theorem get?_edited_eq_some_iff {s : Store} {slot other : Slot} {r : Result} :
    (s.edited slot).get? other = some r ↔
      ¬ (Command.edited slot).Invalidates other ∧ s.get? other = some r := by
  rw [Command.invalidates_edited_iff]
  cases slot with
  | container =>
    have fields : (s.edited .container).get? other = some r ↔
        other.isField = false ∧ (s.drop .container).get? other = some r :=
      get?_dropWhere_eq_some_iff
    rw [fields, get?_drop_eq_some_iff]
    cases other <;> simp [Slot.isField]
  | linkContainer =>
    have links : (s.edited .linkContainer).get? other = some r ↔
        other ≠ .linkField ∧ (s.drop .linkContainer).get? other = some r :=
      get?_drop_eq_some_iff
    rw [links, get?_drop_eq_some_iff]
    cases other <;> simp
  | linkField | field id =>
    rw [edited, get?_drop_eq_some_iff]
    simp

theorem after_of_stores {s : Store} {c : Command} {own : Slot} {r : Result}
    (h : c.Stores own r) : s.after c = s.record own r := by
  cases h with
  | run hr => simp [after, run, hr]
  | record => rfl

theorem results_after_of_stores {s : Store} {c : Command} {own : Slot} {r : Result}
    (h : c.Stores own r) : (s.after c).results = (s.put own r).results := by
  rw [after_of_stores h, results_record]

theorem after_run_of_not_stores {s : Store} {page : Html.Document} {slot : Slot}
    {d : ElementDescriptor} {scope : Scope}
    (h : ∀ own r, ¬ (Command.run page slot d scope).Stores own r) :
    s.after (.run page slot d scope) = s := by
  cases hr : Probe.run page slot.kind d scope with
  | error e => simp [after, run, hr]
  | ok r => exact (h slot r (.run hr)).elim

theorem get?_after_of_not_stores {s : Store} {c : Command} {slot : Slot} {r : Result}
    (h : ∀ own r, ¬ c.Stores own r) :
    (s.after c).get? slot = some r ↔ ¬ c.Invalidates slot ∧ s.get? slot = some r := by
  cases c with
  | run page own d scope =>
    have hi : ¬ (Command.run page own d scope).Invalidates slot := nofun
    rw [after_run_of_not_stores h, and_iff_right hi]
  | record own r' => exact (h own r' (.record own r')).elim
  | edited own => exact get?_edited_eq_some_iff
  | removeField id =>
    rw [Command.invalidates_removeField_iff]
    exact get?_drop_eq_some_iff
  | clearFields =>
    rw [Command.invalidates_clearFields_iff, Bool.not_eq_true]
    exact get?_dropWhere_eq_some_iff
  | chooseOrigin origin =>
    have hi : ¬ (Command.chooseOrigin origin).Invalidates slot := nofun
    exact (and_iff_right hi).symm

theorem get?_after_eq_some_iff {s : Store} {c : Command} {slot : Slot} {r : Result} :
    (s.after c).get? slot = some r ↔
      c.Stores slot r ∨ c.Spares slot ∧ s.get? slot = some r := by
  by_cases h : ∃ own r', c.Stores own r'
  · obtain ⟨own, r', hs⟩ := h
    rw [hs.iff, hs.spares_iff, ← get?_put_eq_some_iff, get?, get?, results_after_of_stores hs]
  · push Not at h
    rw [get?_after_of_not_stores h, Command.spares_iff_of_not_stores h]
    exact (or_iff_right (h slot r)).symm

def slots (s : Store) : List Slot :=
  s.results.map (·.1)

theorem mem_slots_iff {s : Store} {slot : Slot} :
    slot ∈ s.slots ↔ ∃ r, s.get? slot = some r := by
  rw [slots, List.mem_map]
  constructor
  · rintro ⟨e, he, rfl⟩
    cases hf : s.results.find? (·.1 == e.1) with
    | none => exact (List.find?_eq_none.1 hf e he (beq_self_eq_true e.1)).elim
    | some e' => exact ⟨e'.2, by rw [get?, hf, Option.map_some]⟩
  · rintro ⟨r, hr⟩
    obtain ⟨e, he, -⟩ := Option.map_eq_some_iff.1 hr
    have hk := List.find?_some he
    exact ⟨e, List.mem_of_find?_eq_some he, eq_of_beq hk⟩

theorem nodup_slots_dropWhere {s : Store} (h : s.slots.Nodup) (p : Slot → Bool) :
    (s.dropWhere p).slots.Nodup :=
  h.sublist (List.filter_sublist.map _)

-- a slot is dropped before it is put, so it cannot be there twice
theorem nodup_slots_put {s : Store} (h : s.slots.Nodup) (slot : Slot) (r : Result) :
    (s.put slot r).slots.Nodup := by
  have fresh : slot ∉ (s.drop slot).slots := by
    rw [mem_slots_iff]
    rintro ⟨r', hr⟩
    exact (get?_drop_eq_some_iff.1 hr).1 rfl
  exact List.nodup_cons.2 ⟨fresh, nodup_slots_dropWhere h _⟩

theorem nodup_slots_edited {s : Store} (h : s.slots.Nodup) (slot : Slot) :
    (s.edited slot).slots.Nodup := by
  have hd : (s.drop slot).slots.Nodup := nodup_slots_dropWhere h _
  cases slot with
  | container => exact nodup_slots_dropWhere hd Slot.isField
  | linkContainer => exact nodup_slots_dropWhere hd (· == .linkField)
  | linkField | field id => exact hd

theorem nodup_slots_after {s : Store} (h : s.slots.Nodup) (c : Command) :
    (s.after c).slots.Nodup := by
  by_cases hc : ∃ own r, c.Stores own r
  · obtain ⟨own, r, hs⟩ := hc
    rw [slots, results_after_of_stores hs]
    exact nodup_slots_put h own r
  · push Not at hc
    cases c with
    | run page own d scope => rwa [after_run_of_not_stores hc]
    | record own r => exact (hc own r (.record own r)).elim
    | edited own => exact nodup_slots_edited h own
    | removeField id => exact nodup_slots_dropWhere h _
    | clearFields => exact nodup_slots_dropWhere h _
    | chooseOrigin origin => exact h

theorem nodup_slots_afterAll (commands : List Command) : (empty.afterAll commands).slots.Nodup := by
  induction commands using List.reverseRecOn with
  | nil => exact List.nodup_nil
  | append_singleton commands c ih =>
    rw [afterAll_append_singleton]
    exact nodup_slots_after ih c

theorem encard_slots {s : Store} (h : s.slots.Nodup) :
    {slot | ∃ r, s.get? slot = some r}.encard = s.size := by
  have held : {slot | ∃ r, s.get? slot = some r} = (s.slots.toFinset : Set Slot) := by
    ext slot
    rw [List.coe_toFinset, Set.mem_ofPred_eq, Set.mem_ofPred_eq, mem_slots_iff]
  rw [held, Set.encard_coe_eq_coe_finsetCard, List.toFinset_card_of_nodup h, slots,
    List.length_map, size]

theorem get?_afterAll_eq_some_iff {commands : List Command} {slot : Slot} {r : Result} :
    (empty.afterAll commands).get? slot = some r ↔ Fresh commands slot r := by
  induction commands using List.reverseRecOn with
  | nil => exact iff_of_false (by simp [afterAll, empty, get?]) (not_fresh_nil slot r)
  | append_singleton commands c ih =>
    rw [afterAll_append_singleton, get?_after_eq_some_iff, fresh_append_singleton, ih]

theorem put_put (s : Store) (slot : Slot) (r r' : Result) :
    (s.put slot r).put slot r' = s.put slot r' := by
  simp [put, drop, dropWhere, List.filter_filter]

theorem record_record (s : Store) (slot : Slot) (r : Result) :
    (s.record slot r).record slot r = s.record slot r := by
  cases slot with
  | container | linkContainer =>
    unfold record reviewChoice
    dsimp only
    split_ifs <;> exact put_put _ _ r r
  | linkField | field id => exact s.put_put _ r r

/-- A run that is repeated finds everything as it leaves it. -/
theorem run_run {s s' : Store} {page : Html.Document} {slot : Slot} {d : ElementDescriptor}
    {scope : Scope} {r : Result} (h : s.run page slot d scope = .ok (s', r)) :
    s'.run page slot d scope = .ok (s', r) := by
  cases hr : Probe.run page slot.kind d scope with
  | error e => simp [run, hr] at h
  | ok r' =>
    simp only [run, hr, Except.ok.injEq, Prod.mk.injEq] at h ⊢
    obtain ⟨rfl, rfl⟩ := h
    exact ⟨s.record_record slot r', rfl⟩

/--
The store never serves a stale result and never loses a fresh one, whatever was done with it since
it was empty.
-/
theorem serves_fresh (commands : List Command) :
    (∀ slot r, (empty.afterAll commands).get? slot = some r ↔ Fresh commands slot r) ∧
      {slot | ∃ r, Fresh commands slot r}.encard = (empty.afterAll commands).size ∧
      ∀ page slot d scope s r, (empty.afterAll commands).run page slot d scope = .ok (s, r) →
        s.run page slot d scope = .ok (s, r) := by
  refine ⟨fun slot r => get?_afterAll_eq_some_iff, ?_, ?_⟩
  · simp only [← get?_afterAll_eq_some_iff]
    exact encard_slots (nodup_slots_afterAll commands)
  · intro page slot d scope s r h
    exact run_run h

end Store
end PageHarvest.Probe
