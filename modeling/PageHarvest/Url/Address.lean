import PageHarvest.Css.Scan
import PageHarvest.Text.Basic

namespace PageHarvest.Url

open Css (isHexDigit hexDigitValue)

/-- A number of an address of four bytes: decimal, octal behind `0`, hexadecimal behind `0x`. -/
def addressNumber? (s : List Char) : Option Nat :=
  let value (base : Nat) (digits : List Char) : Nat :=
    digits.foldl (fun n d => base * n + hexDigitValue d) 0
  match s with
  | [] => none
  | '0' :: 'x' :: r | '0' :: 'X' :: r => if r.all isHexDigit then some (value 16 r) else none
  | '0' :: d :: r =>
    if (d :: r).all fun c => '0' ≤ c && c ≤ '7' then some (value 8 (d :: r)) else none
  | s => if s.all Char.isDigit then some (value 10 s) else none

def dottedParts (s : List Char) : List (List Char) :=
  let parts := Text.fields (· == '.') s
  if parts.getLast? == some [] then parts.dropLast else parts

def endsInNumber (s : List Char) : Bool :=
  match (dottedParts s).getLast? with
  | none => false
  | some last => (!last.isEmpty && last.all Char.isDigit) || (addressNumber? last).isSome

def combineNumbers? (numbers : List Nat) : Option Nat :=
  match numbers.getLast? with
  | none => none
  | some last =>
    let bytes := numbers.dropLast
    let limit := Nat.pow 256 (4 - bytes.length)
    if 3 < bytes.length || bytes.any (255 < ·) || limit ≤ last then none
    else
      let high := bytes.foldl (fun n b => 256 * n + b) 0
      some (high * limit + last)

def ipv4? (s : List Char) : Option Nat :=
  (dottedParts s).mapM addressNumber? >>= combineNumbers?

def digitsOf (base n : Nat) : List Char :=
  Nat.toDigits base n

def ipv4Text (n : Nat) : List Char :=
  let bytes := [n / 0x1000000 % 256, n / 0x10000 % 256, n / 0x100 % 256, n % 256]
  Text.joinWith "." (bytes.map (digitsOf 10))

/-- A byte of an address at the end of one: decimal and without needless zeros. -/
def plainByte? (s : List Char) : Option Nat :=
  let n := s.foldl (fun n d => 10 * n + hexDigitValue d) 0
  if s.all Char.isDigit && (s == ['0'] || (!s.isEmpty && s.head? != some '0')) && n < 256 then
    some n
  else none

def hexPiece? (s : List Char) : Option Nat :=
  if !s.isEmpty && s.length ≤ 4 && s.all isHexDigit then
    some (s.foldl (fun n d => 16 * n + hexDigitValue d) 0)
  else none

/-- Two pieces written as four bytes. -/
def dottedPieces? (s : List Char) : Option (List Nat) :=
  match (Text.fields (· == '.') s).mapM plainByte? with
  | some [a, b, c, d] => some [256 * a + b, 256 * c + d]
  | _ => none

/-- Pieces between colons. Only the last may be written as bytes, and only where nothing follows. -/
def pieces? (mayEndDotted : Bool) (s : List Char) : Option (List Nat) :=
  match s with
  | [] => some []
  | _ =>
    let parts := Text.fields (· == ':') s
    let last := parts.getLast?.getD []
    match parts.dropLast.mapM hexPiece? with
    | none => none
    | some before =>
      if mayEndDotted && last.contains '.' then (dottedPieces? last).map (before ++ ·)
      else (hexPiece? last).map fun n => before ++ [n]

def cutColons? : List Char → Option (List Char × List Char)
  | ':' :: ':' :: r => some ([], r)
  | c :: r => (cutColons? r).map fun (before, after) => (c :: before, after)
  | [] => none

/-- A pair of colons stands for as many zeros as are missing, at least one. -/
def ipv6? (s : List Char) : Option (List Nat) :=
  match cutColons? s with
  | none => (pieces? true s).filter (·.length == 8)
  | some (before, after) =>
    match pieces? false before, pieces? true after with
    | some a, some b =>
      if a.length + b.length < 8 then
        some (a ++ List.replicate (8 - a.length - b.length) 0 ++ b)
      else none
    | _, _ => none

def zeroRun (pieces : List Nat) : Nat :=
  (pieces.takeWhile (· == 0)).length

def longestZeroRun (pieces : List Nat) : Nat × Nat :=
  (List.range pieces.length).foldl (fun (best : Nat × Nat) i =>
    let n := zeroRun (pieces.drop i)
    if best.2 < n then (i, n) else best) (0, 0)

/-- The first of the longest runs of zeros is left out if it is longer than one. -/
def ipv6Text (pieces : List Nat) : List Char :=
  let join (ps : List Nat) := Text.joinWith ":" (ps.map (digitsOf 16))
  let (start, n) := longestZeroRun pieces
  if n < 2 then join pieces
  else join (pieces.take start) ++ [':', ':'] ++ join (pieces.drop (start + n))

end PageHarvest.Url
