import PageHarvest.Advice.Read
import PageHarvest.Proofs.Except

namespace PageHarvest.Advice

open Json (Value)

/-- An object describes the field in its members, and may leave out the attribute text. -/
structure FieldIdea.IsIn (idea : FieldIdea) (item : Value) : Prop where
  name : item.member? "name" = some (.string idea.name)
  tag : item.member? "tag" = some (.string idea.tag)
  attrs : item.member? "attrs" = some (.string idea.attrs) ∨
    item.member? "attrs" = none ∧ idea.attrs = ""

/-- A value has a shape that advises something; the hrefs of links are trimmed. -/
inductive Advises : Value → Advice → Prop
  | method {members : List (String × Value)} {recommendation reason : String}
      (given : (Value.object members).member? "recommendation" = some (.string recommendation))
      (because : (Value.object members).member? "reason" = some (.string reason) ∨
        (Value.object members).member? "reason" = none ∧ reason = "") :
      Advises (.object members) (.method recommendation reason)
  | fields {items : List Value} {ideas : List FieldIdea} (nonempty : items ≠ [])
      (each : List.Forall₂ FieldIdea.IsIn ideas items) : Advises (.array items) (.fields ideas)
  | links (hrefs : List String) :
      Advises (.strings hrefs) (.acceptedLinks (hrefs.map Text.trimmed))

def AdvisesNothing (v : Value) : Prop :=
  ∀ a, ¬Advises v a

theorem string?_eq_some_iff {v : Value} {s : String} : string? v = some s ↔ v = .string s := by
  cases v <;> simp [string?]

theorem isString_iff {v : Value} : isString v = true ↔ ∃ s, v = .string s := by
  simp only [isString, Option.isSome_iff_exists, string?_eq_some_iff]

theorem isObject_iff {v : Value} : isObject v = true ↔ ∃ members, v = .object members := by
  cases v <;> simp [isObject]

theorem isObject_of_member? {v w : Value} {name : String} (h : v.member? name = some w) :
    isObject v = true := by
  cases v with
  | object members => rfl
  | _ => cases h

theorem requiredText?_eq_some_iff {entry : Option Value} {s : String} :
    requiredText? entry = some s ↔ entry = some (.string s) := by
  cases entry with
  | none => simp [requiredText?]
  | some w => simp [requiredText?, string?_eq_some_iff]

theorem optionalText?_eq_some_iff {entry : Option Value} {s : String} :
    optionalText? entry = some s ↔ entry = some (.string s) ∨ entry = none ∧ s = "" := by
  cases entry with
  | none => simp [optionalText?, eq_comm]
  | some w => simp [optionalText?, string?_eq_some_iff]

theorem entries?_of_isObject {v : Value} (h : isObject v = true) (names : List String) :
    entries? names v = some (names.map v.member?) := by
  obtain ⟨members, rfl⟩ := isObject_iff.1 h
  rfl

theorem method?_eq_some_iff {v : Value} {a : Advice} (hv : isObject v = true) :
    method? v = some a ↔ ∃ recommendation reason, a = .method recommendation reason ∧
      v.member? "recommendation" = some (.string recommendation) ∧
      (v.member? "reason" = some (.string reason) ∨
        v.member? "reason" = none ∧ reason = "") := by
  simp only [method?, entries?_of_isObject hv, List.map_cons, List.map_nil, Option.bind_eq_bind,
    Option.bind_some, Option.bind_eq_some_iff, requiredText?_eq_some_iff,
    optionalText?_eq_some_iff, Option.pure_def, Option.some.injEq]
  constructor
  · rintro ⟨recommendation, given, reason, because, rfl⟩
    exact ⟨recommendation, reason, rfl, given, because⟩
  · rintro ⟨recommendation, reason, rfl, given, because⟩
    exact ⟨recommendation, given, reason, because, rfl⟩

theorem FieldIdea.IsIn.isObject {idea : FieldIdea} {item : Value} (h : idea.IsIn item) :
    isObject item = true :=
  isObject_of_member? h.name

theorem fieldIdea?_eq_some_iff {item : Value} {idea : FieldIdea} (hi : isObject item = true) :
    fieldIdea? item = some idea ↔ idea.IsIn item := by
  simp only [fieldIdea?, entries?_of_isObject hi, List.map_cons, List.map_nil,
    Option.bind_eq_bind, Option.bind_some, Option.bind_eq_some_iff, requiredText?_eq_some_iff,
    optionalText?_eq_some_iff, Option.pure_def, Option.some.injEq]
  constructor
  · rintro ⟨name, hname, tag, htag, attrs, hattrs, rfl⟩
    exact ⟨hname, htag, hattrs⟩
  · intro h
    exact ⟨idea.name, h.name, idea.tag, h.tag, idea.attrs, h.attrs, rfl⟩

theorem all_isString_iff {items : List Value} :
    items.all isString = true ↔ ∃ hrefs : List String, items = hrefs.map .string := by
  simp only [List.all_eq_true, isString_iff]
  constructor
  · intro h
    induction items with
    | nil => exact ⟨[], rfl⟩
    | cons v items ih =>
      obtain ⟨⟨s, rfl⟩, hrest⟩ := List.forall_mem_cons.1 h
      obtain ⟨hrefs, rfl⟩ := ih hrest
      exact ⟨s :: hrefs, rfl⟩
  · rintro ⟨hrefs, rfl⟩ v hv
    obtain ⟨s, -, rfl⟩ := List.mem_map.1 hv
    exact ⟨s, rfl⟩

theorem filterMap_string?_map_string (hrefs : List String) :
    (hrefs.map Value.string).filterMap string? = hrefs := by
  rw [List.filterMap_map]
  exact List.filterMap_some

theorem all_isObject_of_forall₂ {ideas : List FieldIdea} {items : List Value}
    (h : List.Forall₂ FieldIdea.IsIn ideas items) : items.all isObject = true := by
  induction h with
  | nil => rfl
  | cons first _ ih => rw [List.all_cons, first.isObject, ih, Bool.and_self]

theorem mapM_fieldIdea?_eq_some_iff {ideas : List FieldIdea} {items : List Value}
    (h : items.all isObject = true) :
    items.mapM fieldIdea? = some ideas ↔ List.Forall₂ FieldIdea.IsIn ideas items := by
  rw [mapM_eq_some_iff]
  constructor
  · intro each
    have objects := (List.forall₂_and_left items ideas).2 ⟨List.all_eq_true.1 h, each.flip⟩
    exact objects.flip.imp fun _ _ ⟨object, found⟩ => (fieldIdea?_eq_some_iff object).1 found
  · intro each
    exact each.imp fun _ _ first => (fieldIdea?_eq_some_iff first.isObject).2 first

theorem advises_of_ofValue? {v : Value} {a : Advice} (h : ofValue? v = some a) : Advises v a := by
  cases v with
  | object members =>
    obtain ⟨-, h⟩ := Option.ite_none_right_eq_some.1 h
    obtain ⟨recommendation, reason, rfl, given, because⟩ := (method?_eq_some_iff rfl).1 h
    exact .method given because
  | array items =>
    rw [ofValue?] at h
    split at h
    · rename_i strings
      obtain ⟨hrefs, rfl⟩ := all_isString_iff.1 strings
      rw [filterMap_string?_map_string] at h
      cases h
      exact .links hrefs
    · rename_i noStrings
      obtain ⟨objects, h⟩ := Option.ite_none_right_eq_some.1 h
      obtain ⟨ideas, hideas, rfl⟩ := Option.map_eq_some_iff.1 h
      refine .fields ?_ ((mapM_fieldIdea?_eq_some_iff objects).1 hideas)
      rintro rfl
      exact noStrings rfl
  | null => cases h
  | bool b => cases h
  | number n => cases h
  | string s => cases h

theorem ofValue?_of_advises {v : Value} {a : Advice} (h : Advises v a) : ofValue? v = some a := by
  cases h with
  | @method members recommendation reason given because =>
    have read : method? (.object members) = some (.method recommendation reason) :=
      (method?_eq_some_iff rfl).2 ⟨recommendation, reason, rfl, given, because⟩
    rw [ofValue?, given, read]
    rfl
  | links hrefs =>
    rw [Value.strings, ofValue?, if_pos (all_isString_iff.2 ⟨hrefs, rfl⟩),
      filterMap_string?_map_string]
  | @fields items ideas nonempty each =>
    have objects := all_isObject_of_forall₂ each
    have noStrings : ¬items.all isString = true := by
      cases each with
      | nil => exact absurd rfl nonempty
      | @cons _ item _ _ first _ =>
        obtain ⟨members, rfl⟩ := isObject_iff.1 first.isObject
        exact nofun
    rw [ofValue?, if_neg noStrings, if_pos objects, (mapM_fieldIdea?_eq_some_iff objects).2 each]
    rfl

theorem ofValue?_eq_some_iff {v : Value} {a : Advice} : ofValue? v = some a ↔ Advises v a :=
  ⟨advises_of_ofValue?, ofValue?_of_advises⟩

theorem ofValue?_eq_none_iff {v : Value} : ofValue? v = none ↔ AdvisesNothing v := by
  simp only [Option.eq_none_iff_forall_ne_some, ne_eq, ofValue?_eq_some_iff, AdvisesNothing]

theorem read_of_parse {raw : String} {v : Value} (h : Value.parse (payload raw) = .ok v) :
    read raw = (ofValue? v).getD (.text (Text.trimmed raw)) := by
  rw [read, h]

theorem read_of_advises {raw : String} {v : Value} {a : Advice}
    (h : Value.parse (payload raw) = .ok v) (ha : Advises v a) : read raw = a := by
  rw [read_of_parse h, ofValue?_eq_some_iff.2 ha, Option.getD_some]

theorem read_of_malformed {raw : String} {fault : Json.Fault}
    (h : Value.parse (payload raw) = .error fault) : read raw = .text (Text.trimmed raw) := by
  rw [read, h]

end PageHarvest.Advice
