import Mathlib
import PageHarvest.FieldId
import PageHarvest.Proofs.Text.Blank

namespace PageHarvest

namespace FieldId

theorem hexDigit_ne_hyphen (d : Fin 16) : hexDigit d ≠ '-' := by
  revert d
  decide

theorem hexDigit_ne_brace (d : Fin 16) : hexDigit d ≠ '\x7b' := by
  revert d
  decide

theorem hexDigit_ne_u (d : Fin 16) : hexDigit d ≠ 'u' := by
  revert d
  decide

theorem mapM_hexValue? (ds : List (Fin 16)) : (ds.map hexDigit).mapM hexValue? = some ds := by
  induction ds with
  | nil => rfl
  | cons d ds ih => simp [List.mapM_cons, hexValue?_hexDigit, ih]

theorem length_cutPieces {α : Type} {lengths : List Nat} {s : List α} (h : lengths.sum ≤ s.length) :
    (cutPieces lengths s).map List.length = lengths := by
  induction lengths generalizing s with
  | nil => rfl
  | cons n lengths ih =>
    rw [List.sum_cons] at h
    have hrest := ih (s := s.drop n) (by rw [List.length_drop]; omega)
    rw [cutPieces, List.map_cons, hrest, List.length_take, Nat.min_eq_left (by omega)]

theorem flatten_cutPieces {α : Type} {lengths : List Nat} {s : List α}
    (h : s.length ≤ lengths.sum) :
    (cutPieces lengths s).flatten = s := by
  induction lengths generalizing s with
  | nil =>
    rw [List.sum_nil, Nat.le_zero, List.length_eq_zero_iff] at h
    rw [h]
    rfl
  | cons n lengths ih =>
    rw [List.sum_cons] at h
    have hrest := ih (s := s.drop n) (by rw [List.length_drop]; omega)
    rw [cutPieces, List.flatten_cons, hrest, List.take_append_drop]

theorem mem_of_mem_cutPieces {α : Type} {lengths : List Nat} {s g : List α}
    (h : g ∈ cutPieces lengths s) {a : α} (ha : a ∈ g) : a ∈ s := by
  induction lengths generalizing s with
  | nil => cases h
  | cons n lengths ih =>
    rcases List.mem_cons.1 h with rfl | h
    · exact List.mem_of_mem_take ha
    · exact List.mem_of_mem_drop (ih h)

theorem unwrap_of_digit {s : List Char} {d : Fin 16} (h : s.head? = some (hexDigit d)) :
    unwrap s = ⟨s, 0, true⟩ := by
  obtain ⟨t, rfl⟩ : ∃ t, s = hexDigit d :: t := by
    cases s with
    | nil => cases h
    | cons c t => exact ⟨t, by rw [Option.some.inj h]⟩
  have hscheme : "urn:uuid:".toList.isPrefixOf (hexDigit d :: t) = false := by
    simp [List.isPrefixOf, (hexDigit_ne_u d).symm]
  unfold unwrap
  split
  · rename_i he
    exact (hexDigit_ne_brace d (List.cons.inj he).1).elim
  · simp only [hscheme, Bool.false_eq_true, if_false]

theorem parse_toText (id : FieldId) : parse id.toText = .ok id := by
  have hlength : (id.digits.map hexDigit).length = 32 := by
    rw [List.length_map, id.length_digits]
  have hfields : Text.fields (· == '-') id.toChars =
      cutPieces groupLengths (id.digits.map hexDigit) := by
    apply Text.fields_joinWith (d := '-') rfl rfl (by simp [groupLengths, cutPieces])
    intro g hg c hc
    obtain ⟨d, _, rfl⟩ := List.mem_map.1 (mem_of_mem_cutPieces hg hc)
    simpa using hexDigit_ne_hyphen d
  have hfirst : ∃ d, id.toChars.head? = some (hexDigit d) := by
    obtain ⟨ds, hds⟩ := id
    cases ds with
    | nil => cases hds
    | cons d ds => exact ⟨d, rfl⟩
  obtain ⟨d, hd⟩ := hfirst
  have hgroups : (cutPieces groupLengths (id.digits.map hexDigit)).map List.length = groupLengths :=
    length_cutPieces (by rw [hlength]; decide)
  have hflat : (cutPieces groupLengths (id.digits.map hexDigit)).flatten = id.digits.map hexDigit :=
    flatten_cutPieces (by rw [hlength]; decide)
  have hdigits : digits? id.toChars = some id.digits := by
    simp only [digits?, unwrap_of_digit hd, hfields, hgroups, hflat, mapM_hexValue?,
      beq_self_eq_true, Bool.or_true, if_true]
  rw [parse, toText, String.toList_ofList, hdigits]
  simp only [id.length_digits, dite_true]

end FieldId
end PageHarvest
