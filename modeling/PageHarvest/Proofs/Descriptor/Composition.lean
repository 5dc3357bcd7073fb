import PageHarvest.Proofs.Attrs.Onward
import PageHarvest.Proofs.Descriptor.Trimming

namespace PageHarvest

theorem trySelector_append_comma {tag first second selector behind : String}
    (h : trySelector tag first = .ok selector) (h' : trySelector "" second = .ok behind) :
    trySelector tag (first ++ "," ++ second) = .ok (selector ++ behind) := by
  obtain ⟨pairs, parts, hp, hm, rfl⟩ := trySelector_eq_ok_iff.1 h
  obtain ⟨pairs', parts', hp', hm', rfl⟩ := trySelector_eq_ok_iff.1 h'
  rw [trySelector_eq_ok_iff]
  refine ⟨pairs ++ pairs', parts ++ parts', ?_, ?_, ?_⟩
  · rw [Attrs.tokenizeAttrs_append_comma hp, hp']
    rfl
  · rw [List.mapM_append, hm, hm']
    rfl
  · have noTag : Text.trim "".toList = [] := rfl
    rw [← String.ofList_append, noTag, List.nil_append, List.flatten_append, List.append_assoc]

/--
An attribute text that can be read, a comma and another text are read as the one and then the other,
faults of the second one at their places in the whole; the selector of the second one, without a
tag, is put behind that of the first. Separators around an attribute text change nothing, whether or
not it can be read.
-/
theorem attrs_compose :
    (∀ first second pairs, tokenizeAttrs first = .ok pairs →
      (∀ pairs', tokenizeAttrs second = .ok pairs' →
        tokenizeAttrs (first ++ "," ++ second) = .ok (pairs ++ pairs')) ∧
      ∀ fault, tokenizeAttrs second = .error fault →
        tokenizeAttrs (first ++ "," ++ second) =
          .error (fault.shift (first.utf8ByteSize + 1))) ∧
    (∀ tag first second selector behind, trySelector tag first = .ok selector →
      trySelector "" second = .ok behind →
      trySelector tag (first ++ "," ++ second) = .ok (selector ++ behind)) ∧
    ∀ tag before attrs behind, (∀ c ∈ before.toList, Attrs.isSeparator c = true) →
      (∀ c ∈ behind.toList, Attrs.isSeparator c = true) →
      selectorOf tag (before ++ attrs ++ behind) = selectorOf tag attrs := by
  refine ⟨?_, ?_, ?_⟩
  · intro first second pairs h
    have whole := Attrs.tokenizeAttrs_append_comma h second
    constructor
    · intro pairs' h'
      rw [whole, h']
      rfl
    · intro fault h'
      rw [whole, h']
      rfl
  · intro tag first second selector behind h h'
    exact trySelector_append_comma h h'
  · intro tag before attrs behind hbefore hbehind
    exact selectorOf_between_separators tag hbefore hbehind

/-- The first text ends behind an equals sign, and a quote is left open in the second one. -/
theorem attrs_compose_openQuote :
    tokenizeAttrs "a='é' b = " = .ok [⟨"a", "é"⟩, ⟨"b", ""⟩] ∧
      tokenizeAttrs "c=\"" = .error (.unterminatedQuote '"' 2) ∧
      tokenizeAttrs "a='é' b = ,c=\"" = .error (.unterminatedQuote '"' 14) ∧
      trySelector "p" "a='é' b = " = .ok "p[a=\"é\"][b=\"\"]" ∧
      trySelector "" "id=c" = .ok "#c" ∧
      trySelector "p" "a='é' b = ,id=c" = .ok "p[a=\"é\"][b=\"\"]#c" ∧
      selectorOf "p" (", " ++ "c=\"" ++ " ,") = selectorOf "p" "c=\"" := by
  have first : tokenizeAttrs "a='é' b = " = .ok [⟨"a", "é"⟩, ⟨"b", ""⟩] := by cbv
  have second : tokenizeAttrs "c=\"" = .error (.unterminatedQuote '"' 2) := by cbv
  have selector : trySelector "p" "a='é' b = " = .ok "p[a=\"é\"][b=\"\"]" := by
    rw [trySelector, if_neg (by decide), first]
    rfl
  have behind : trySelector "" "id=c" = .ok "#c" := by cbv
  have comma : Attrs.isSeparator ',' = true := by decide
  have blank : Attrs.isSeparator ' ' = true := by decide
  refine ⟨first, second, ?_, selector, behind, ?_, ?_⟩
  · exact (attrs_compose.1 _ _ _ first).2 _ second
  · exact attrs_compose.2.1 _ _ _ _ _ selector behind
  · exact attrs_compose.2.2 "p" _ _ _ (by simp [comma, blank]) (by simp [comma, blank])

end PageHarvest
