import PageHarvest.Text.Composition
import PageHarvest.Text.Basic

namespace PageHarvest.Text

def hexDigitOf (c : Char) : Nat :=
  if c.isDigit then c.toNat - '0'.toNat else c.toNat - 'A'.toNat + 10

def hexNumber (s : List Char) : Nat :=
  s.foldl (fun n c => 16 * n + hexDigitOf c) 0

def rows (table : String) : List (List Nat) :=
  (words table.toList).map fun row => (fields (· == ',') row).map hexNumber

/-- Whether a number lies in a range of a table whose rows start with the ends of a range. -/
def inRange (n : Nat) : List Nat → Bool
  | low :: high :: _ => low ≤ n && n ≤ high
  | _ => false

def compositions : List (List Nat) :=
  rows compositionRows

def combiningRanges : List (List Nat) :=
  rows combiningRows

def combiningClass (c : Char) : Nat :=
  if c.toNat < 0x300 then 0
  else
    match combiningRanges.find? (inRange c.toNat) with
    | some [_, _, k] => k
    | _ => 0

def syllableBase : Nat := 0xAC00

def leadBase : Nat := 0x1100

def vowelBase : Nat := 0x1161

def tailBase : Nat := 0x11A7

def isSyllable (n : Nat) : Bool :=
  syllableBase ≤ n && n < syllableBase + 19 * 21 * 28

def splitSyllable (n : Nat) : List Char :=
  let i := n - syllableBase
  let tail := if i % 28 == 0 then [] else [Char.ofNat (tailBase + i % 28)]
  Char.ofNat (leadBase + i / 588) :: Char.ofNat (vowelBase + i % 588 / 28) :: tail

def joinSyllable? (a b : Nat) : Option Nat :=
  if leadBase ≤ a && a < leadBase + 19 && vowelBase ≤ b && b < vowelBase + 21 then
    some (syllableBase + (a - leadBase) * 588 + (b - vowelBase) * 28)
  else if isSyllable a && (a - syllableBase) % 28 == 0 && tailBase < b && b < tailBase + 28 then
    some (a + (b - tailBase))
  else none

/-- The marks and the letter that a character stands for, looked up at most `depth` times. -/
def decomposeWithin : Nat → Char → List Char
  | 0, c => [c]
  | depth + 1, c =>
    if c.toNat < 0xC0 then [c]
    else if isSyllable c.toNat then splitSyllable c.toNat
    else
      match compositions.find? fun row => row.head? == some c.toNat with
      | some [_, a] => decomposeWithin depth (Char.ofNat a)
      | some (_ :: a :: b :: _) => decomposeWithin depth (Char.ofNat a) ++ [Char.ofNat b]
      | _ => [c]

def decompose (c : Char) : List Char :=
  decomposeWithin 4 c

def join? (a b : Char) : Option Char :=
  match joinSyllable? a.toNat b.toNat with
  | some n => some (Char.ofNat n)
  | none =>
    match compositions.find? fun row => row.drop 1 == [a.toNat, b.toNat] with
    | some (n :: _) => some (Char.ofNat n)
    | _ => none

/-- Puts a mark behind those of no greater class at the end of `s`, which is reversed. -/
def placeMark (c : Char) : List Char → List Char
  | [] => [c]
  | d :: s =>
    if combiningClass c != 0 && combiningClass c < combiningClass d then d :: placeMark c s
    else c :: d :: s

def orderMarks (s : List Char) : List Char :=
  (s.foldl (fun out c => placeMark c out) []).reverse

/-- A text on its way to the composed form: the last letter, and the marks on it, last first. -/
structure Composing where
  done : List Char := []
  letter : Option Char := none
  marks : List Char := []

namespace Composing

def flush (s : Composing) : List Char :=
  s.done ++ s.letter.toList ++ s.marks.reverse

def step (s : Composing) (c : Char) : Composing :=
  let k := combiningClass c
  let blocked := s.marks.head?.any fun m => k ≤ combiningClass m
  match if blocked then none else s.letter.bind fun l => join? l c with
  | some joined => { s with letter := some joined }
  | none =>
    if k == 0 then { done := s.flush, letter := some c }
    else { s with marks := c :: s.marks }

end Composing

/--
The composed form: of the ways to write a letter with marks, the one with the fewest characters.
-/
def composed (s : List Char) : List Char :=
  ((orderMarks (s.flatMap decompose)).foldl Composing.step {}).flush

end PageHarvest.Text
