import PageHarvest.Proofs.Attrs.Grammar
import PageHarvest.Proofs.Job.Accepted
import PageHarvest.Proofs.Text.Blank

namespace PageHarvest

namespace FieldName

theorem isKeyChar_of_isNameChar {c : Char} (h : isNameChar c = true) :
    Attrs.isKeyChar c = true := by
  simp only [isNameChar, Bool.or_eq_true] at h
  simp only [Attrs.isKeyChar, Bool.or_eq_true]
  rcases h with h | h
  · exact .inl (.inl h)
  · exact .inr h

theorem isBlank_of_isNameChar {c : Char} (h : isNameChar c = true) : Text.isBlank c = false :=
  Attrs.isBlank_eq_false (Attrs.isSeparator_of_isKeyChar (isKeyChar_of_isNameChar h))

theorem check_of_isSafe {name : String} (h : isSafe name = true) : check name = .ok () := by
  have hsafe := h
  simp only [isSafe, Bool.and_eq_true, Bool.not_eq_true', List.isEmpty_eq_false_iff] at hsafe
  obtain ⟨c, rest, hc⟩ := List.exists_cons_of_ne_nil hsafe.1
  have first : isNameChar c = true := by
    refine List.all_eq_true.1 hsafe.2 c ?_
    rw [hc]
    exact List.mem_cons_self
  have notBlank : Text.allBlank name = false := by
    rw [Text.allBlank, hc, List.all_cons, isBlank_of_isNameChar first, Bool.false_and]
  rw [check, notBlank, if_neg Bool.false_ne_true, if_pos h]

theorem checkAll_of_isSafe {names : List String} (h : ∀ name ∈ names, isSafe name = true) :
    checkAll names = checkDistinct names := by
  have each : names.forM check = .ok () := by
    induction names with
    | nil => rfl
    | cons name names ih =>
      rw [List.forall_mem_cons] at h
      rw [List.forM_eq_forM] at ih ⊢
      rw [List.forM_cons, check_of_isSafe h.1]
      exact ih h.2
  rw [checkAll, each]
  rfl

theorem isNameChar_of_mem_bridgeGaps {inGap : Bool} {s : List Char} {c : Char}
    (h : c ∈ bridgeGaps inGap s) : isNameChar c = true := by
  induction s generalizing inGap with
  | nil => cases h
  | cons d s ih =>
    rw [bridgeGaps] at h
    split_ifs at h with hd
    · rcases List.mem_cons.1 h with rfl | h
      · exact hd
      · exact ih h
    · exact ih h
    · rcases List.mem_cons.1 h with rfl | h
      · rfl
      · exact ih h

theorem mem_of_mem_stripUnderscores {s : List Char} {c : Char} (h : c ∈ stripUnderscores s) :
    c ∈ s :=
  (List.dropWhile_suffix _).subset ((List.rdropWhile_prefix (· == '_') _).subset h)

theorem isSafe_sanitize {fallback : String} (h : isSafe fallback = true) (raw : String) :
    isSafe (sanitize raw fallback) = true := by
  have chars : ∀ c ∈ stripUnderscores (bridgeGaps false (Text.trim raw.toList)),
      isNameChar c = true :=
    fun c hc => isNameChar_of_mem_bridgeGaps (mem_of_mem_stripUnderscores hc)
  unfold sanitize
  dsimp only
  split_ifs with hs
  · exact h
  · rw [isSafe, String.toList_ofList, Bool.and_eq_true, Bool.not_eq_true', Bool.eq_false_iff]
    exact ⟨hs, List.all_eq_true.2 chars⟩

end FieldName

theorem Extraction.repeated_of_validate {e : Extraction} (hm : e.mode = .structured)
    (hn : ∀ f ∈ e.fields, FieldName.isSafe f.name = true) {fault : JobFault}
    (h : e.validate = .error fault) : ∃ name, fault = .fields (.repeated name) := by
  have safe : ∀ name ∈ e.fields.map (·.name), FieldName.isSafe name = true :=
    List.forall_mem_map.2 hn
  unfold validate at h
  rw [hm] at h
  simp only [FieldName.checkAll_of_isSafe safe, FieldName.checkDistinct] at h
  cases hr : FieldName.firstRepeat? [] (e.fields.map (·.name)) with
  | none =>
    rw [hr] at h
    cases h
  | some name =>
    rw [hr] at h
    cases h
    exact ⟨name, rfl⟩

end PageHarvest
