import PageHarvest.Text.Normal
import PageHarvest.Url.Writing

namespace PageHarvest.Url

open Text (rows inRange)

inductive Direction
  | leftToRight
  | rightToLeft
  | arabicDigit
  | digit
  | either
  | mark
deriving DecidableEq, Repr

def directionTable : List (List Nat) :=
  rows directionRows

def Direction.ofCode : Nat → Direction
  | 1 => rightToLeft
  | 2 => arabicDigit
  | 3 => digit
  | 4 => either
  | 5 => mark
  | _ => leftToRight

def directionOf (c : Char) : Direction :=
  if c.toNat < 0x80 then
    if c.isAlpha then .leftToRight else if c.isDigit then .digit else .either
  else
    match directionTable.find? (inRange c.toNat) with
    | some [_, _, code] => .ofCode code
    | _ => .leftToRight

def runsBack (s : List Char) : Bool :=
  s.any fun c => directionOf c == .rightToLeft || directionOf c == .arabicDigit

/--
Whether a part keeps the direction that it starts in. It may end in digits, not in a character that
runs either way, and digits of both kinds do not stand together.
-/
def keepsDirection (s : List Char) : Bool :=
  let directions := s.map directionOf
  let last := (directions.reverse.dropWhile (· == .mark)).head?
  match directions with
  | [] => true
  | .leftToRight :: _ =>
    !runsBack s && (last == some .leftToRight || last == some .digit)
  | .rightToLeft :: _ =>
    !directions.contains .leftToRight && last != some .either &&
      !(directions.contains .digit && directions.contains .arabicDigit)
  | _ => false

inductive Joining
  | next
  | previous
  | both
  | passedOver
  | none
deriving DecidableEq, Repr

def joiningTable : List (List Nat) :=
  rows joiningRows

def Joining.ofCode : Nat → Joining
  | 0 => passedOver
  | 1 => next
  | 2 => previous
  | _ => both

def joiningOf (c : Char) : Joining :=
  match joiningTable.find? (inRange c.toNat) with
  | some [_, _, code] => .ofCode code
  | _ => if directionOf c == .mark then .passedOver else .none

def firstJoining (s : List Char) : Joining :=
  ((s.map joiningOf).find? (· != .passedOver)).getD .none

def joinsNext (j : Joining) : Bool :=
  j == .next || j == .both

def joinsPrevious (j : Joining) : Bool :=
  j == .previous || j == .both

/-- The class of the marks that take the vowel from a letter. -/
def vowelKiller : Nat := 9

/--
Whether each joiner and each non-joiner stands behind a mark that takes a vowel away, or, if it is a
non-joiner, between characters that would join. `before` is what stands before, nearest first.
-/
def joinersFit (before : List Char) : List Char → Bool
  | [] => true
  | c :: r =>
    let killed := before.head?.any fun b => Text.combiningClass b == vowelKiller
    let fits :=
      if c == '\u200c' then
        killed || (joinsNext (firstJoining before) && joinsPrevious (firstJoining r))
      else c != '\u200d' || killed
    fits && joinersFit (c :: before) r

end PageHarvest.Url
