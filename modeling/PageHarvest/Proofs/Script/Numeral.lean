import PageHarvest.Job.Network

namespace PageHarvest.Script

def isNumeralChar (c : Char) : Bool :=
  c.isDigit || c == '.'

/-- Whether a text has the characters of a decimal number. -/
def isNumeral (s : String) : Bool :=
  !s.toList.isEmpty && s.toList.all isNumeralChar

theorem isNumeral_repr (n : Nat) : isNumeral n.repr = true := by
  rw [isNumeral, Nat.toList_repr, Bool.and_eq_true, List.all_eq_true]
  refine ⟨by simp [Nat.toDigits_ne_nil], fun c hc => ?_⟩
  rw [isNumeralChar, Nat.isDigit_of_mem_toDigits (by decide) (by decide) hc, Bool.true_or]

theorem isNumeral_append {a b : String} (ha : isNumeral a = true)
    (hb : b.toList.all isNumeralChar = true) : isNumeral (a ++ b) = true := by
  simp only [isNumeral, Bool.and_eq_true, Bool.not_eq_true', List.isEmpty_eq_false_iff] at ha ⊢
  rw [String.toList_append, List.all_append, ha.2, hb]
  exact ⟨List.append_ne_nil_of_left_ne_nil ha.1 _, rfl⟩

theorem isNumeral_delaySeconds (n : Network) : isNumeral n.delaySeconds = true := by
  have digits (k : Nat) : k.repr.toList.all isNumeralChar = true := by
    have := isNumeral_repr k
    rw [isNumeral, Bool.and_eq_true] at this
    exact this.2
  have zeros (k : Nat) : (List.replicate k '0').all isNumeralChar = true := by
    rw [List.all_eq_true]
    intro c hc
    rw [List.eq_of_mem_replicate hc]
    rfl
  rw [Network.delaySeconds, Network.threeDigits, Nat.toString_eq_repr, Nat.toString_eq_repr]
  apply isNumeral_append (isNumeral_append (isNumeral_repr _) (by decide))
  rw [String.toList_append, String.toList_ofList, List.all_append, zeros, digits]
  rfl

end PageHarvest.Script
