import PageHarvest.Decimal.Shortest

namespace PageHarvest.Decimal

/-- How the digits of a number are laid out. -/
structure Style where
  /-- The least and the greatest power of ten of a first digit that is written positionally. -/
  positional : Option (Int × Int)
  /-- Whether a whole number keeps `.0`. -/
  wholePoint : Bool
  /-- Whether a positive exponent has a plus sign. -/
  exponentPlus : Bool
  /-- The least number of digits of an exponent. -/
  exponentWidth : Nat

def Style.json : Style := ⟨some (-5, 15), true, true, 2⟩

def Style.value : Style := ⟨some (-4, 15), true, false, 1⟩

/-- Numbers shown as text, never with an exponent. -/
def Style.plain : Style := ⟨none, false, false, 1⟩

def digitChars (ds : List Nat) : List Char :=
  ds.map fun d => Char.ofNat (48 + d)

def zeros (n : Nat) : List Char :=
  List.replicate n '0'

def Digits.positional (style : Style) (d : Digits) : List Char :=
  let ds := digitChars d.digits
  if d.point ≤ 0 then '0' :: '.' :: zeros (-d.point).toNat ++ ds
  else
    let n := d.point.toNat
    let whole := ds.take n ++ zeros (n - ds.length)
    match ds.drop n with
    | [] => if style.wholePoint then whole ++ ['.', '0'] else whole
    | rest => whole ++ '.' :: rest

def Digits.scientific (style : Style) (d : Digits) : List Char :=
  let lead := match digitChars d.digits with
    | [] => ['0']
    | [c] => [c]
    | c :: r => c :: '.' :: r
  let e := d.point - 1
  let mark := if e < 0 then ['-'] else if style.exponentPlus then ['+'] else []
  let eds := Nat.toDigits 10 e.natAbs
  lead ++ 'e' :: mark ++ zeros (style.exponentWidth - eds.length) ++ eds

def Digits.layout (style : Style) (d : Digits) : List Char :=
  match style.positional with
  | none => d.positional style
  | some (low, high) =>
    if low ≤ d.point - 1 ∧ d.point - 1 ≤ high then d.positional style else d.scientific style

/-- A number of a format, as its bits give it. -/
inductive Real
  | finite (negative : Bool) (x : Binary)
  | infinite (negative : Bool)
  | undefined
deriving DecidableEq, Repr

def Real.text (format : BinaryFormat) (style : Style) : Real → String
  | .undefined => "NaN"
  | .infinite negative => if negative then "-inf" else "inf"
  | .finite negative x =>
    let body :=
      if x.significand == 0 then (if style.wholePoint then ['0', '.', '0'] else ['0'])
      else (shortest format x).layout style
    String.ofList (if negative then '-' :: body else body)

/-- Splits a word of `width` bits into sign, exponent and fraction. -/
def Real.ofBits (format : BinaryFormat) (width bits : Nat) : Real :=
  let fractionBits := format.precision - 1
  let exponentBits := width - 1 - fractionBits
  let fraction := bits % Nat.pow 2 fractionBits
  let exponent := bits / Nat.pow 2 fractionBits % Nat.pow 2 exponentBits
  let negative := bits / Nat.pow 2 (width - 1) % 2 == 1
  if exponent == Nat.pow 2 exponentBits - 1 then
    if fraction == 0 then .infinite negative else .undefined
  else if exponent == 0 then .finite negative ⟨fraction, format.minExponent⟩
  else .finite negative ⟨Nat.pow 2 fractionBits + fraction, format.minExponent + (exponent - 1)⟩

def text64 (style : Style) (bits : UInt64) : String :=
  (Real.ofBits binary64 64 bits.toNat).text binary64 style

def text32 (style : Style) (bits : UInt32) : String :=
  (Real.ofBits binary32 32 bits.toNat).text binary32 style

end PageHarvest.Decimal
