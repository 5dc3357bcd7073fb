import PageHarvest.Text.Normal
import PageHarvest.Url.Direction
import PageHarvest.Url.NameMap
import PageHarvest.Url.Punycode

namespace PageHarvest.Url

open Text (rows inRange)

def plainTable : List (List Nat) :=
  rows plainRows

def spelledTable : List (List Nat) :=
  rows spelledRows

def barredTable : List (List Nat) :=
  rows barredRows

def markTable : List (List Nat) :=
  rows markRows

/-- The plain character that a row of the table gives for a character. -/
def plainOf? (n : Nat) : List Nat → Option Nat
  | [first, count, step, targetStep, target] =>
    if first ≤ n && n < first + count * step && (n - first) % step == 0 then
      some (target + (n - first) / step * targetStep)
    else none
  | _ => none

/-- The plain form of a character: small letters, and nothing for what cannot be seen. -/
def plainForm (c : Char) : List Char :=
  if c.toNat < 0x80 then [c.toLower]
  else
    match plainTable.findSome? (plainOf? c.toNat) with
    | some n => [Char.ofNat n]
    | none =>
      match spelledTable.find? fun row => row.head? == some c.toNat with
      | some row => row.tail.map Char.ofNat
      | none => [c]

def isBarred (c : Char) : Bool :=
  0x80 ≤ c.toNat && barredTable.any (inRange c.toNat)

def isMark (c : Char) : Bool :=
  0x80 ≤ c.toNat && markTable.any (inRange c.toNat)

def isUnfitForName (c : Char) : Bool :=
  c.toNat ≤ 0x20 || c == '\x7f' ||
    ['%', '#', '/', ':', '<', '>', '?', '@', '[', '\\', ']', '^', '|'].contains c

def plainName (s : List Char) : List Char :=
  Text.composed (s.flatMap plainForm)

/-- Whether a part of a name has no barred character, no mark in front and no idle joiner. -/
def isFitPart (s : List Char) : Bool :=
  !s.any isBarred && !s.head?.any isMark && joinersFit [] s

/-- Starts the ASCII form of a part in another script. -/
def codedMark : List Char := ['x', 'n', '-', '-']

def readPart? (s : List Char) : Option (List Char) :=
  if codedMark.isPrefixOf s then
    match Punycode.decode? (s.drop 4) with
    | none => none
    | some part =>
      if !part.all Punycode.isBasic && plainName part == part && isFitPart part then some part
      else none
  else if s.all Punycode.isBasic || isFitPart s then some s
  else none

def asciiPart (s : List Char) : List Char :=
  if s.all Punycode.isBasic then s else codedMark ++ Punycode.encode s

def asciiName? (s : List Char) : Option (List Char) :=
  match (Text.fields (· == '.') (plainName s)).mapM readPart? with
  | none => none
  | some parts =>
    let name := Text.joinWith "." (parts.map asciiPart)
    if parts.any runsBack && !parts.all keepsDirection || name.any isUnfitForName then none
    else some name

end PageHarvest.Url
