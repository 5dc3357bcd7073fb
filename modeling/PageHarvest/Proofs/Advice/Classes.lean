import Mathlib
import PageHarvest.Proofs.Advice.Shape

namespace PageHarvest.Advice

open Json (Value)
open Text (trimmed)

structure DescribesMethod (v : Value) (recommendation reason : String) : Prop where
  object : ∃ members, v = .object members
  recommendation : v.member? "recommendation" = some (.string recommendation)
  reason : v.member? "reason" = some (.string reason) ∨ v.member? "reason" = none ∧ reason = ""

def ListsLinks (v : Value) (hrefs : List String) : Prop :=
  ∃ written : List String, v = .array (written.map .string) ∧ hrefs = written.map trimmed

/-- The value lists objects that describe fields, at least one. -/
def ListsFields (v : Value) (ideas : List FieldIdea) : Prop :=
  ∃ items, v = .array items ∧ items ≠ [] ∧ List.Forall₂ FieldIdea.IsIn ideas items

/-- Two objects with the same members of the given names, whatever else they have. -/
structure SameMembers (names : List String) (v w : Value) : Prop where
  left : ∃ members, v = .object members
  right : ∃ members, w = .object members
  same : ∀ name ∈ names, v.member? name = w.member? name

def SameIdea (x y : Value) : Prop :=
  x = y ∨ SameMembers ["name", "tag", "attrs"] x y

/-- Values that differ only in members that no advice is made from. -/
inductive Alike : Value → Value → Prop
  | method {v w : Value} (h : SameMembers ["recommendation", "reason"] v w) : Alike v w
  | list {items items' : List Value} (h : List.Forall₂ SameIdea items items') :
      Alike (.array items) (.array items')

theorem advises_method_iff {v : Value} {recommendation reason : String} :
    Advises v (.method recommendation reason) ↔ DescribesMethod v recommendation reason := by
  constructor
  · intro h
    cases h with
    | method given because => exact ⟨⟨_, rfl⟩, given, because⟩
  · rintro ⟨⟨members, rfl⟩, given, because⟩
    exact .method given because

theorem advises_links_iff {v : Value} {hrefs : List String} :
    Advises v (.acceptedLinks hrefs) ↔ ListsLinks v hrefs := by
  constructor
  · intro h
    cases h with
    | links written => exact ⟨written, rfl, rfl⟩
  · rintro ⟨written, rfl, rfl⟩
    exact .links written

theorem advises_fields_iff {v : Value} {ideas : List FieldIdea} :
    Advises v (.fields ideas) ↔ ListsFields v ideas := by
  constructor
  · intro h
    cases h with
    | fields nonempty each => exact ⟨_, rfl, nonempty, each⟩
  · rintro ⟨items, rfl, nonempty, each⟩
    exact .fields nonempty each

theorem not_advises_text (v : Value) (content : String) : ¬Advises v (.text content) := nofun

theorem advisesNothing_iff {v : Value} :
    AdvisesNothing v ↔ (∀ recommendation reason, ¬DescribesMethod v recommendation reason) ∧
      (∀ hrefs, ¬ListsLinks v hrefs) ∧ ∀ ideas, ¬ListsFields v ideas := by
  constructor
  · intro h
    exact ⟨fun _ _ hm => h _ (advises_method_iff.2 hm), fun _ hl => h _ (advises_links_iff.2 hl),
      fun _ hf => h _ (advises_fields_iff.2 hf)⟩
  · rintro ⟨method, links, fields⟩ a
    cases a with
    | text content => exact not_advises_text v content
    | method recommendation reason => exact mt advises_method_iff.1 (method recommendation reason)
    | fields ideas => exact mt advises_fields_iff.1 (fields ideas)
    | acceptedLinks hrefs => exact mt advises_links_iff.1 (links hrefs)

theorem advisesNothing_of_mem {items : List Value} {x : Value} (hx : x ∈ items)
    (noString : ∀ s, x ≠ .string s) (noField : ∀ idea, ¬FieldIdea.IsIn idea x) :
    AdvisesNothing (.array items) := by
  intro a h
  cases h with
  | links written =>
    obtain ⟨s, -, hs⟩ := List.mem_map.1 hx
    exact noString s hs.symm
  | fields _ each =>
    obtain ⟨i, hi, rfl⟩ := List.getElem_of_mem hx
    exact noField _ (each.get (each.length_eq ▸ hi) hi)

theorem advisesNothing_of_reason {v w : Value} (hw : v.member? "reason" = some w)
    (noString : ∀ s, w ≠ .string s) : AdvisesNothing v := by
  intro a h
  cases h with
  | method _ because =>
    rw [hw] at because
    rcases because with h | ⟨h, -⟩
    · exact noString _ (Option.some.inj h)
    · cases h
  | fields _ _ => cases hw
  | links _ => cases hw

theorem advisesNothing_of_attrs {items : List Value} {x w : Value} (hx : x ∈ items)
    (hw : x.member? "attrs" = some w) (noString : ∀ s, w ≠ .string s) :
    AdvisesNothing (.array items) := by
  refine advisesNothing_of_mem hx ?_ fun idea h => ?_
  · rintro s rfl
    cases hw
  · have attrs := h.attrs
    rw [hw] at attrs
    rcases attrs with h | ⟨h, -⟩
    · exact noString _ (Option.some.inj h)
    · cases h

theorem SameMembers.symm {names : List String} {v w : Value} (h : SameMembers names v w) :
    SameMembers names w v :=
  ⟨h.right, h.left, fun name hn => (h.same name hn).symm⟩

theorem Alike.symm {v w : Value} (h : Alike v w) : Alike w v := by
  cases h with
  | method h => exact .method h.symm
  | list h => exact .list (h.flip.imp fun _ _ hxy => hxy.imp Eq.symm SameMembers.symm)

theorem FieldIdea.IsIn.of_sameIdea {idea : FieldIdea} {x y : Value} (h : idea.IsIn x)
    (hxy : SameIdea x y) : idea.IsIn y := by
  rcases hxy with rfl | hxy
  · exact h
  · obtain ⟨name, tag, attrs⟩ := h
    rw [hxy.same "name" (by decide)] at name
    rw [hxy.same "tag" (by decide)] at tag
    rw [hxy.same "attrs" (by decide)] at attrs
    exact ⟨name, tag, attrs⟩

theorem forall₂_isIn_of_sameIdea {ideas : List FieldIdea} {items items' : List Value}
    (each : List.Forall₂ FieldIdea.IsIn ideas items) (h : List.Forall₂ SameIdea items items') :
    List.Forall₂ FieldIdea.IsIn ideas items' := by
  induction each generalizing items' with
  | nil =>
    cases h
    exact .nil
  | cons first _ ih =>
    obtain ⟨y, rest, hy, hrest, rfl⟩ := List.forall₂_cons_left_iff.1 h
    exact .cons (first.of_sameIdea hy) (ih hrest)

theorem eq_map_string_of_sameIdea {written : List String} {items : List Value}
    (h : List.Forall₂ SameIdea (written.map .string) items) : items = written.map .string := by
  rw [List.forall₂_map_left_iff] at h
  induction h with
  | nil => rfl
  | cons first _ ih =>
    rcases first with rfl | first
    · rw [ih, List.map_cons]
    · obtain ⟨members, hs⟩ := first.left
      cases hs

theorem Advises.of_alike {v w : Value} {a : Advice} (h : Advises v a) (hvw : Alike v w) :
    Advises w a := by
  cases hvw with
  | method hvw =>
    obtain ⟨members, rfl⟩ := hvw.left
    obtain ⟨members', rfl⟩ := hvw.right
    cases h with
    | method given because =>
      rw [hvw.same "recommendation" (by decide)] at given
      rw [hvw.same "reason" (by decide)] at because
      exact .method given because
  | @list items items' hvw =>
    cases h with
    | links written =>
      rw [eq_map_string_of_sameIdea hvw]
      exact .links written
    | fields nonempty each =>
      refine .fields (fun hw => nonempty ?_) (forall₂_isIn_of_sameIdea each hvw)
      rwa [hw, List.forall₂_nil_right_iff] at hvw

theorem read_eq_iff_advises {raw : String} {v : Value} {a : Advice}
    (h : Value.parse (payload raw) = .ok v) (ha : ∀ content, a ≠ .text content) :
    read raw = a ↔ Advises v a := by
  rw [read_of_parse h, ← ofValue?_eq_some_iff]
  cases ofValue? v with
  | none => exact iff_of_false (ha _ ·.symm) nofun
  | some b => rw [Option.getD_some, Option.some_inj]

theorem read_eq_text_iff {raw content : String} {v : Value}
    (h : Value.parse (payload raw) = .ok v) :
    read raw = .text content ↔ content = trimmed raw ∧ AdvisesNothing v := by
  rw [read_of_parse h, ← ofValue?_eq_none_iff]
  cases hv : ofValue? v with
  | none => simp [eq_comm]
  | some b =>
    refine iff_of_false (fun hb => ?_) nofun
    rw [Option.getD_some] at hb
    exact not_advises_text v content (ofValue?_eq_some_iff.1 (hb ▸ hv))

/--
What a response advises is told by the shape of the value that its payload has: an object with a
text for a recommendation and, if at all, a text for a reason; a list of texts, trimmed and in
order; a list, not empty, of objects that each have a text for a name and a tag and, if at all, for
attributes. With any other value, such as a list with one item that fits neither kind of list, and
with a payload that is no JSON, the whole response stays a text, trimmed. So members that no advice
is made from change nothing.
-/
theorem read_classifies (raw : String) :
    (∀ v, Value.parse (payload raw) = .ok v →
      (∀ recommendation reason, read raw = .method recommendation reason ↔
        DescribesMethod v recommendation reason) ∧
      (∀ hrefs, read raw = .acceptedLinks hrefs ↔ ListsLinks v hrefs) ∧
      (∀ ideas, read raw = .fields ideas ↔ ListsFields v ideas) ∧
      (∀ content, read raw = .text content ↔ content = trimmed raw ∧
        (∀ recommendation reason, ¬DescribesMethod v recommendation reason) ∧
        (∀ hrefs, ¬ListsLinks v hrefs) ∧ ∀ ideas, ¬ListsFields v ideas) ∧
      (∀ items x, v = .array items → x ∈ items → (∀ s, x ≠ .string s) →
        (∀ idea, ¬FieldIdea.IsIn idea x) → read raw = .text (trimmed raw)) ∧
      (∀ w, v.member? "reason" = some w → (∀ s, w ≠ .string s) →
        read raw = .text (trimmed raw)) ∧
      (∀ items x w, v = .array items → x ∈ items → x.member? "attrs" = some w →
        (∀ s, w ≠ .string s) → read raw = .text (trimmed raw)) ∧
      ∀ raw' w, Value.parse (payload raw') = .ok w → Alike v w →
        read raw' = read raw ∨
          read raw = .text (trimmed raw) ∧ read raw' = .text (trimmed raw')) ∧
    ∀ fault, Value.parse (payload raw) = .error fault → read raw = .text (trimmed raw) := by
  refine ⟨fun v hv => ⟨?_, ?_, ?_, ?_, ?_, ?_, ?_, ?_⟩, fun fault => read_of_malformed⟩
  · intro recommendation reason
    rw [read_eq_iff_advises hv (by simp), advises_method_iff]
  · intro hrefs
    rw [read_eq_iff_advises hv (by simp), advises_links_iff]
  · intro ideas
    rw [read_eq_iff_advises hv (by simp), advises_fields_iff]
  · intro content
    rw [read_eq_text_iff hv, advisesNothing_iff]
  · rintro items x rfl hx noString noField
    exact (read_eq_text_iff hv).2 ⟨rfl, advisesNothing_of_mem hx noString noField⟩
  · intro w hw noString
    exact (read_eq_text_iff hv).2 ⟨rfl, advisesNothing_of_reason hw noString⟩
  · rintro items x w rfl hx hw noString
    exact (read_eq_text_iff hv).2 ⟨rfl, advisesNothing_of_attrs hx hw noString⟩
  · intro raw' w hw hvw
    by_cases idle : AdvisesNothing v
    · have idle' : AdvisesNothing w := fun a ha => idle a (ha.of_alike hvw.symm)
      exact .inr ⟨(read_eq_text_iff hv).2 ⟨rfl, idle⟩, (read_eq_text_iff hw).2 ⟨rfl, idle'⟩⟩
    · obtain ⟨a, ha⟩ := not_forall_not.1 idle
      exact .inl ((read_of_advises hw (ha.of_alike hvw)).trans (read_of_advises hv ha).symm)

def listedLinks : String :=
  "\x60\x60\x60\n[\"https://a.test/1\", \" https://a.test/2 \"]\n\x60\x60\x60"

def unexplainedMethod : String :=
  " \x7b\"recommendation\": \"requests\", \"reason\": null\x7d "

theorem read_classifies_listedLinks :
    Value.parse (payload listedLinks) = .ok (.strings ["https://a.test/1", " https://a.test/2 "]) ∧
      read listedLinks = .acceptedLinks ["https://a.test/1", "https://a.test/2"] ∧
      read unexplainedMethod =
        .text "\x7b\"recommendation\": \"requests\", \"reason\": null\x7d" := by
  have links : Value.parse (payload listedLinks) =
      .ok (.strings ["https://a.test/1", " https://a.test/2 "]) := by cbv
  have method : Value.parse (payload unexplainedMethod) =
      .ok (.object [("recommendation", .string "requests"), ("reason", .null)]) := by cbv
  have told :=
    ((read_classifies listedLinks).1 _ links).2.1 ["https://a.test/1", "https://a.test/2"]
  have noString (s : String) : Value.null ≠ .string s := by
    intro h
    cases h
  have kept := ((read_classifies unexplainedMethod).1 _ method).2.2.2.2.2.1 .null rfl noString
  exact ⟨links, told.2 ⟨_, rfl, by decide⟩, kept⟩

end PageHarvest.Advice
