import Mathlib.Algebra.Field.Rat
import PageHarvest.Proofs.Json.Scalar
import PageHarvest.Proofs.Script.Literal
import PageHarvest.Proofs.Text.Lines

namespace PageHarvest.Python

/-- The values of constants. Numbers are as large and as exact as they are written. -/
inductive Value
  | text (s : String)
  | list (items : List String)
  | whole (n : Int)
  | decimal (q : ℚ)
deriving DecidableEq

def isDigits (s : List Char) : Bool :=
  !s.isEmpty && s.all Char.isDigit

/-- The whole number that is written. None but zero has a zero in front. -/
def whole? (s : List Char) : Option Nat :=
  if isDigits s && (s.head? != some '0' || s.length == 1) then some (Nat.ofDigitChars 10 s 0)
  else none

def ofPlaces (units places : List Char) : ℚ :=
  Nat.ofDigitChars 10 units 0 + Nat.ofDigitChars 10 places 0 / 10 ^ places.length

/-- The decimal number that is written, with digits on both sides of a dot. -/
def decimal? (s : List Char) : Option ℚ :=
  match Text.cut? ['.'] s with
  | some (units, places) =>
    if isDigits units && isDigits places then some (ofPlaces units places) else none
  | none => none

/-- What a text denotes from its first character to its last. -/
def value? (s : List Char) : Option Value :=
  match readLiteral s, readList s with
  | some (t, []), _ => some (.text (String.ofList t))
  | none, some (items, []) => some (.list (items.map String.ofList))
  | none, none => ((whole? s).map fun n => .whole n) <|> (decimal? s).map .decimal
  | _, _ => none

theorem value?_listLiteral (items : List String) :
    value? (Script.listLiteral (items.map String.toList)) = some (.list items) := by
  have read := Script.readList_listLiteral_append (items.map String.toList) []
  have other : readLiteral (Script.listLiteral (items.map String.toList)) = none := rfl
  have back : (items.map String.toList).map String.ofList = items := by
    simp [Function.comp_def]
  rw [List.append_nil] at read
  simp only [value?, read, other, back]

end PageHarvest.Python
