import PageHarvest.Css.Scan
import PageHarvest.Html.ReferenceNames
import PageHarvest.Text.Basic

namespace PageHarvest.Html

open Css (isHexDigit hexDigitValue replacement)

structure NamedText where
  name : List Char
  text : List Char
deriving DecidableEq, Repr

def hexValue (digits : List Char) : Nat :=
  digits.foldl (fun n d => 16 * n + hexDigitValue d) 0

def decimalValue (digits : List Char) : Nat :=
  digits.foldl (fun n d => 10 * n + (d.toNat - '0'.toNat)) 0

def NamedText.ofEntry (entry : List Char) : NamedText where
  name := entry.takeWhile (· != '=')
  text :=
    (Text.fields (· == '+') ((entry.dropWhile (· != '=')).drop 1)).map (Char.ofNat <| hexValue ·)

def namedTexts : List NamedText :=
  (Text.words referenceNames.toList).map .ofEntry

def longestName? (s : List Char) : Option NamedText :=
  namedTexts.foldl (fun best e =>
    if e.name.isPrefixOf s && (best.all fun b => b.name.length < e.name.length) then some e
    else best) none

/-- What the numbers from 128 to 159 stand for; a zero leaves the number as it is. -/
def oldCodes : List Nat :=
  [0x20AC, 0, 0x201A, 0x0192, 0x201E, 0x2026, 0x2020, 0x2021, 0x02C6, 0x2030, 0x0160, 0x2039,
   0x0152, 0, 0x017D, 0, 0, 0x2018, 0x2019, 0x201C, 0x201D, 0x2022, 0x2013, 0x2014, 0x02DC,
   0x2122, 0x0161, 0x203A, 0x0153, 0, 0x017E, 0x0178]

def charOfNumber (n : Nat) : Char :=
  if n == 0 || !n.isValidChar then replacement
  else if 0x80 ≤ n && n ≤ 0x9F then
    let code := oldCodes.getD (n - 0x80) 0
    Char.ofNat (if code == 0 then n else code)
  else Char.ofNat n

def dropSemicolon : List Char → List Char
  | ';' :: r => r
  | r => r

/-- The character with the number that stands here, if one does, and the text behind it. -/
def readNumber? (isDigit : Char → Bool) (value : List Char → Nat) (s : List Char) :
    Option (List Char × List Char) :=
  match s.takeWhile isDigit with
  | [] => none
  | digits => some ([charOfNumber (value digits)], dropSemicolon (s.dropWhile isDigit))

/--
A name without its semicolon is no reference in an attribute's value if the text goes on like a
name or like another attribute.
-/
def goesOn (s : List Char) : Bool :=
  match s with
  | c :: _ => c == '=' || c.isAlphanum
  | [] => false

/-- The text that stands for what follows an ampersand, and what is left behind it. -/
def readReference? (inAttribute : Bool) (s : List Char) : Option (List Char × List Char) :=
  match s with
  | '#' :: 'x' :: r | '#' :: 'X' :: r => readNumber? isHexDigit hexValue r
  | '#' :: r => readNumber? Char.isDigit decimalValue r
  | _ =>
    match longestName? s with
    | none => none
    | some e =>
      let rest := s.drop e.name.length
      if inAttribute && e.name.getLast? != some ';' && goesOn rest then none
      else some (e.text, rest)

theorem length_of_readNumber? {isDigit : Char → Bool} {value : List Char → Nat}
    {s text rest : List Char} (h : readNumber? isDigit value s = some (text, rest)) :
    rest.length ≤ s.length := by
  have hd := (List.dropWhile_suffix isDigit (l := s)).length_le
  have hs (r : List Char) : (dropSemicolon r).length ≤ r.length := by
    unfold dropSemicolon
    split <;> simp
  unfold readNumber? at h
  split at h
  · simp at h
  · simp only [Option.some.injEq, Prod.mk.injEq] at h
    rw [← h.2]
    exact Nat.le_trans (hs _) hd

theorem length_of_readReference? {inAttribute : Bool} {s text rest : List Char}
    (h : readReference? inAttribute s = some (text, rest)) : rest.length ≤ s.length := by
  unfold readReference? at h
  split at h
  · have := length_of_readNumber? h
    simp only [List.length_cons]
    omega
  · have := length_of_readNumber? h
    simp only [List.length_cons]
    omega
  · have := length_of_readNumber? h
    simp only [List.length_cons]
    omega
  · split at h
    · simp at h
    · simp only at h
      split at h
      · simp at h
      · simp only [Option.some.injEq, Prod.mk.injEq] at h
        rw [← h.2]
        simp

def decodeReferences (inAttribute : Bool) (s : List Char) : List Char :=
  match s with
  | [] => []
  | c :: r =>
    if c == '&' then
      match _h : readReference? inAttribute r with
      | some (text, rest) => text ++ decodeReferences inAttribute rest
      | none => '&' :: decodeReferences inAttribute r
    else c :: decodeReferences inAttribute r
termination_by s.length
decreasing_by
  · have := length_of_readReference? _h
    simp only [List.length_cons]
    omega
  · simp
  · simp

end PageHarvest.Html
