import PageHarvest.Proofs.Advice.Fence
import PageHarvest.Proofs.Advice.Shape

namespace PageHarvest.Advice

open Json (Value tick isOuter)

/-- A response is read for what a value advises, or stays a text where that is nothing. -/
structure ReadsAs (raw : String) (v : Value) : Prop where
  advised : ∀ a, Advises v a → read raw = a
  text : AdvisesNothing v → read raw = .text (Text.trimmed raw)

theorem readsAs_iff {raw : String} {v : Value} :
    ReadsAs raw v ↔ read raw = (ofValue? v).getD (.text (Text.trimmed raw)) := by
  constructor
  · intro h
    cases hv : ofValue? v with
    | none => exact h.text (ofValue?_eq_none_iff.1 hv)
    | some a => exact h.advised a (ofValue?_eq_some_iff.1 hv)
  · intro h
    constructor
    · intro a ha
      rw [h, ofValue?_eq_some_iff.2 ha, Option.getD_some]
    · intro idle
      rw [h, ofValue?_eq_none_iff.2 idle, Option.getD_none]

theorem readsAs_strings_iff {raw : String} {hrefs : List String} :
    ReadsAs raw (.strings hrefs) ↔ read raw = .acceptedLinks (hrefs.map Text.trimmed) := by
  rw [readsAs_iff, ofValue?_eq_some_iff.2 (.links hrefs), Option.getD_some]

section

variable {raw : String} {u v : Value} (hv : Value.parse (Text.trimmed raw) = .ok v)
  (fenced : Fenced raw.toList)
include hv fenced

/-- What the fences cut out has in its strings only what stands outside of those of the response. -/
theorem isOuter_of_payload (hu : Value.parse (payload raw) = .ok u) :
    ∀ t ∈ u.texts, ∀ c ∈ t.toList, isOuter c = true := by
  obtain ⟨content, hcontent⟩ := exists_fenced? fenced
  have whole := (Json.spells_of_parse hv).balanced
  rw [Text.trimmed, String.toList_ofList] at whole
  obtain ⟨next, inner⟩ := exists_run_of_fenced? (run_trim whole) hcontent
  have spelled := Json.spells_of_parse hu
  rw [payload, hcontent, Option.getD_some, String.toList_ofList] at spelled
  -- The piece is a text of its own here, and starts in a string where it was cut out.
  have outer := Json.Side.eq_quote_or_isOuter .closed spelled.balanced inner
  have plain : '\\' ∉ Text.trim content := by
    intro hm
    rcases outer _ hm with h | h <;> exact absurd h (by decide)
  intro t ht c hc
  obtain ⟨hmem, hquote⟩ := spelled.plain plain t ht c hc
  exact (outer c hmem).resolve_left hquote

theorem exists_tick : ∃ t ∈ v.texts, tick ∈ t.toList := by
  apply (Json.spells_of_parse hv).ticked
  rw [Text.trimmed, String.toList_ofList]
  apply Text.mem_trim_of_mem _ (by decide)
  obtain ⟨before, content, after, hraw⟩ := fenced
  have first : tick ∈ fence := List.mem_cons_self
  rw [hraw]
  exact List.mem_append_right _ (List.mem_append_left _ first)

end

/-- No known member has a name of such characters, so only links can be advised. -/
theorem eq_strings_of_isOuter {u : Value} {a : Advice} (h : Advises u a)
    (outer : ∀ t ∈ u.texts, ∀ c ∈ t.toList, isOuter c = true) :
    ∃ hrefs, u = .strings hrefs ∧ a = .acceptedLinks (hrefs.map Text.trimmed) := by
  cases h with
  | method given because =>
    have named := outer _ (Value.mem_texts_of_member? given) 'c' (by decide)
    exact absurd named (by decide)
  | fields nonempty each =>
    cases each with
    | nil => exact absurd rfl nonempty
    | cons first _ =>
      refine absurd (outer "name" ?_ 'm' (by decide)) (by decide)
      apply Value.texts_subset_itemTexts List.mem_cons_self
      exact Value.mem_texts_of_member? first.name
  | links hrefs => exact ⟨hrefs, rfl, rfl⟩

theorem not_isBlank_tick : Text.isBlank tick = false := by
  decide

theorem ne_of_payload {raw : String} {u v : Value} {a b : Advice}
    (hv : Value.parse (Text.trimmed raw) = .ok v) (fenced : Fenced raw.toList)
    (hu : Value.parse (payload raw) = .ok u) (ha : Advises v a) (hb : Advises u b) : b ≠ a := by
  rintro rfl
  have outer := isOuter_of_payload hv fenced hu
  obtain ⟨found, rfl, rfl⟩ := eq_strings_of_isOuter hb outer
  obtain ⟨t, ht, hm⟩ := exists_tick hv fenced
  generalize hlinks : Advice.acceptedLinks (found.map Text.trimmed) = links at ha
  cases ha with
  | method => cases hlinks
  | fields => cases hlinks
  | links hrefs =>
    rw [Advice.acceptedLinks.injEq] at hlinks
    rw [Value.texts_strings] at ht outer
    have trimmed : Text.trimmed t ∈ found.map Text.trimmed := by
      rw [hlinks]
      exact List.mem_map_of_mem ht
    obtain ⟨href, hhref, heq⟩ := List.mem_map.1 trimmed
    have kept := Text.mem_trim_of_mem hm not_isBlank_tick
    have same : Text.trim href.toList = Text.trim t.toList := String.ofList_inj.1 heq
    rw [← same] at kept
    exact absurd (outer href hhref tick (Text.mem_of_mem_trim kept)) (by decide)

theorem read_of_advisesNothing {raw : String}
    (h : ∀ u, Value.parse (payload raw) = .ok u → AdvisesNothing u) :
    read raw = .text (Text.trimmed raw) := by
  cases hp : Value.parse (payload raw) with
  | error fault => exact read_of_malformed hp
  | ok u => rw [read_of_parse hp, ofValue?_eq_none_iff.2 (h u hp), Option.getD_none]

theorem not_readsAs_of_advises {raw : String} {v : Value} {a : Advice}
    (h : Value.parse (Text.trimmed raw) = .ok v) (fenced : Fenced raw.toList)
    (ha : Advises v a) : ¬ReadsAs raw v := by
  intro reads
  have given := reads.advised a ha
  by_cases idle : ∀ u, Value.parse (payload raw) = .ok u → AdvisesNothing u
  · rw [read_of_advisesNothing idle] at given
    subst given
    cases ha
  · simp only [AdvisesNothing, not_forall, not_not] at idle
    obtain ⟨u, hu, b, hb⟩ := idle
    rw [read_of_parse hu, ofValue?_eq_some_iff.2 hb, Option.getD_some] at given
    exact ne_of_payload h fenced hu ha hb given

theorem readsAs_of_not_fenced {raw : String} {v : Value}
    (h : Value.parse (Text.trimmed raw) = .ok v) (unfenced : ¬Fenced raw.toList) :
    ReadsAs raw v := by
  rw [← payload_of_not_fenced unfenced] at h
  exact readsAs_iff.2 (read_of_parse h)

theorem readsAs_iff_of_advisesNothing {raw : String} {v : Value} (h : AdvisesNothing v) :
    ReadsAs raw v ↔ ∀ u, Value.parse (payload raw) = .ok u → AdvisesNothing u := by
  constructor
  · intro reads u hu b hb
    have given := reads.text h
    rw [read_of_parse hu, ofValue?_eq_some_iff.2 hb, Option.getD_some] at given
    subst given
    cases hb
  · intro idle
    exact ⟨fun a ha => absurd ha (h a), fun _ => read_of_advisesNothing idle⟩

/--
A response that is a JSON text is read for its value exactly when it is not fenced, that is, when no
two fences stand apart in it; or when neither its value nor what the fences cut out of its strings
advises anything. So of links it is read exactly when it is not fenced.
-/
theorem readsAs_iff_not_fenced {raw : String} {v : Value}
    (h : Value.parse (Text.trimmed raw) = .ok v) :
    (ReadsAs raw v ↔ ¬Fenced raw.toList ∨
      AdvisesNothing v ∧ ∀ u, Value.parse (payload raw) = .ok u → AdvisesNothing u) ∧
    ∀ hrefs, v = .strings hrefs →
      (read raw = .acceptedLinks (hrefs.map Text.trimmed) ↔ ¬Fenced raw.toList) := by
  constructor
  · constructor
    · intro reads
      by_cases fenced : Fenced raw.toList
      · have idle : AdvisesNothing v := fun a ha => not_readsAs_of_advises h fenced ha reads
        exact .inr ⟨idle, (readsAs_iff_of_advisesNothing idle).1 reads⟩
      · exact .inl fenced
    · rintro (unfenced | ⟨idle, cut⟩)
      · exact readsAs_of_not_fenced h unfenced
      · exact (readsAs_iff_of_advisesNothing idle).2 cut
  · rintro hrefs rfl
    rw [← readsAs_strings_iff]
    constructor
    · intro reads fenced
      exact not_readsAs_of_advises h fenced (.links hrefs) reads
    · exact readsAs_of_not_fenced h

/-- Two links between blanks, one of them with a quoted word of code. -/
def quotedLinks : String :=
  " [\"/a?q=\x60x\x60\", \" /b \"]\n"

theorem readsAs_iff_not_fenced_quotedLinks :
    Value.parse (Text.trimmed quotedLinks) = .ok (.strings ["/a?q=\x60x\x60", " /b "]) ∧
      ReadsAs quotedLinks (.strings ["/a?q=\x60x\x60", " /b "]) ∧
      read quotedLinks = .acceptedLinks ["/a?q=\x60x\x60", "/b"] := by
  have parsed : Value.parse (Text.trimmed quotedLinks) =
      .ok (.strings ["/a?q=\x60x\x60", " /b "]) := by cbv
  have uncut : fenced? quotedLinks.toList = none := by cbv
  have unfenced : ¬Fenced quotedLinks.toList := by
    intro fenced
    obtain ⟨content, hcontent⟩ := exists_fenced? fenced
    rw [uncut] at hcontent
    cases hcontent
  have trimmed : ["/a?q=\x60x\x60", " /b "].map Text.trimmed = ["/a?q=\x60x\x60", "/b"] := by cbv
  obtain ⟨reads, links⟩ := readsAs_iff_not_fenced parsed
  refine ⟨parsed, reads.2 (.inl unfenced), ?_⟩
  rw [← trimmed]
  exact (links _ rfl).2 unfenced

def fencedLink : String :=
  "[\"\x60\x60\x60[]\x60\x60\x60\"]"

/-- The list is lost with its one link, and the link is read as the response. -/
theorem not_readsAs_fencedLink :
    Value.parse (Text.trimmed fencedLink) = .ok (.strings ["\x60\x60\x60[]\x60\x60\x60"]) ∧
      read fencedLink = .acceptedLinks [] ∧
      ¬ReadsAs fencedLink (.strings ["\x60\x60\x60[]\x60\x60\x60"]) := by
  have lost : read fencedLink = .acceptedLinks [] := by cbv
  refine ⟨by cbv, lost, ?_⟩
  intro reads
  rw [readsAs_strings_iff, lost] at reads
  cases reads

end PageHarvest.Advice
