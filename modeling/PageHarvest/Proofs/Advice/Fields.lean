import PageHarvest.Proofs.Advice.Shape
import PageHarvest.Proofs.Descriptor.Trimming
import PageHarvest.Proofs.FieldName

namespace PageHarvest.Advice

open Json (Value)

def ideas : Advice → List FieldIdea
  | fields ideas => ideas
  | _ => []

/-- A field is what is advised, under a safe name. -/
structure FieldIdea.BecomesField (idea : FieldIdea) (f : FieldDescriptor) : Prop where
  name : f.name = FieldName.sanitize idea.name "field"
  accepted : FieldName.check f.name = .ok ()
  selector : f.selector = selectorOf idea.tag idea.attrs

theorem exists_items_of_ofValue? {v : Value} {ideas : List FieldIdea}
    (h : ofValue? v = some (.fields ideas)) :
    ∃ items, v = .array items ∧ List.Forall₂ FieldIdea.IsIn ideas items := by
  cases advises_of_ofValue? h with
  | fields _ each => exact ⟨_, rfl, each⟩

theorem exists_items_of_read {raw : String} {ideas : List FieldIdea}
    (h : read raw = .fields ideas) :
    ∃ items, Value.parse (payload raw) = .ok (.array items) ∧
      List.Forall₂ FieldIdea.IsIn ideas items := by
  cases hp : Value.parse (payload raw) with
  | error fault =>
    rw [read_of_malformed hp] at h
    cases h
  | ok v =>
    rw [read_of_parse hp] at h
    cases hv : ofValue? v with
    | none =>
      rw [hv] at h
      cases h
    | some advice =>
      rw [hv, Option.getD_some] at h
      obtain ⟨items, rfl, hitems⟩ := exists_items_of_ofValue? (h ▸ hv)
      exact ⟨items, rfl, hitems⟩

theorem FieldIdea.becomesField_toField (idea : FieldIdea) (id : FieldId) :
    idea.BecomesField (idea.toField id) where
  name := rfl
  accepted := FieldName.check_of_isSafe (FieldName.isSafe_sanitize (by decide) idea.name)
  selector := selectorOf_trimmed idea.tag idea.attrs

theorem descriptors_eq_map (a : Advice) (id : FieldId) :
    a.descriptors id = a.ideas.map (·.toField id) := by
  cases a <;> rfl

theorem isSafe_of_mem_descriptors {a : Advice} {id : FieldId} {f : FieldDescriptor}
    (h : f ∈ a.descriptors id) : FieldName.isSafe f.name = true := by
  rw [descriptors_eq_map] at h
  obtain ⟨idea, _, rfl⟩ := List.mem_map.1 h
  exact FieldName.check_eq_ok (idea.becomesField_toField id).accepted

/--
The fields that come of a response are those that its payload describes, one for one and in order.
Each has a name that passes the check, and the selector of its tag and attribute text as they were
received. So a structured extraction of these fields is refused only because a name is repeated.
-/
theorem descriptors_read (raw : String) (id : FieldId) :
    (∀ ideas, read raw = .fields ideas → ∃ items,
      Value.parse (payload raw) = .ok (.array items) ∧ List.Forall₂ FieldIdea.IsIn ideas items) ∧
    List.Forall₂ FieldIdea.BecomesField (read raw).ideas ((read raw).descriptors id) ∧
    ∀ e : Extraction, e.mode = .structured →
      e.fields.map (fun f => { f with id := id }) = (read raw).descriptors id →
      ∀ fault, e.validate = .error fault → ∃ name, fault = .fields (.repeated name) := by
  refine ⟨fun ideas h => exists_items_of_read h, ?_, fun e hm hf fault h => ?_⟩
  · rw [descriptors_eq_map, List.forall₂_map_right_iff]
    exact List.forall₂_same.2 fun idea _ => idea.becomesField_toField id
  · refine Extraction.repeated_of_validate hm (fun f hmem => ?_) h
    have renumbered : { f with id := id } ∈ (read raw).descriptors id := by
      rw [← hf]
      exact List.mem_map_of_mem hmem
    exact isSafe_of_mem_descriptors (f := { f with id := id }) renumbered

/-- Two fields whose names are one when they are made safe; the first one's quote is not closed. -/
def twinFields : String :=
  "[\x7b\"name\": \"Unit price!\", \"tag\": \" b\", \"attrs\": \" class='a \"\x7d," ++
    " \x7b\"name\": \"Unit-price\", \"tag\": \"i\"\x7d]"

def twinIdeas : List FieldIdea :=
  [⟨"Unit price!", " b", " class='a "⟩, ⟨"Unit-price", "i", ""⟩]

def twinExtraction : Extraction :=
  { Extraction.initial .zero with
    fields := [⟨.zero, "Unit_price", "b", "class='a"⟩, ⟨.zero, "Unit_price", "i", ""⟩] }

theorem descriptors_read_twinFields :
    read twinFields = .fields twinIdeas ∧
      (∃ items, Value.parse (payload twinFields) = .ok (.array items) ∧
        List.Forall₂ FieldIdea.IsIn twinIdeas items) ∧
      List.Forall₂ FieldIdea.BecomesField twinIdeas twinExtraction.fields ∧
      twinExtraction.validate = .error (.fields (.repeated "Unit_price")) ∧
      ∃ name, JobFault.fields (.repeated "Unit_price") = .fields (.repeated name) := by
  have advice : read twinFields = .fields twinIdeas := by cbv
  have descriptors : (read twinFields).descriptors .zero = twinExtraction.fields := by
    rw [advice]
    decide
  have refused : twinExtraction.validate = .error (.fields (.repeated "Unit_price")) := by decide
  obtain ⟨items, fields, faults⟩ := descriptors_read twinFields .zero
  refine ⟨advice, items twinIdeas advice, ?_, refused, ?_⟩
  · rwa [descriptors, advice] at fields
  · exact faults twinExtraction rfl descriptors.symm _ refused

end PageHarvest.Advice
