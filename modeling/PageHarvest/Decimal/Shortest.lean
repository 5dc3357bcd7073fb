namespace PageHarvest.Decimal

/-- A binary floating-point format: the bits of a significand and the least exponent. -/
structure BinaryFormat where
  precision : Nat
  minExponent : Int
deriving DecidableEq, Repr

def binary64 : BinaryFormat := ⟨53, -1074⟩

def binary32 : BinaryFormat := ⟨24, -149⟩

/-- The number `significand * 2 ^ exponent`. -/
structure Binary where
  significand : Nat
  exponent : Int
deriving DecidableEq, Repr

/-- The number `0.d₁d₂… * 10 ^ point`, where `digits` are `d₁, d₂, …`. -/
structure Digits where
  digits : List Nat
  point : Int
deriving DecidableEq, Repr

/--
The decimals that round to `x`, on a scale with `2 ^ k` parts to a unit: the two ends, and whether
the ends themselves belong. The gap below a power of two is half as wide as the gap above.
-/
structure Interval where
  low : Nat
  value : Nat
  high : Nat
  scale : Nat
  closed : Bool

def Binary.interval (format : BinaryFormat) (x : Binary) : Interval :=
  let narrow :=
    x.significand == Nat.pow 2 (format.precision - 1) && format.minExponent < x.exponent
  let up := x.exponent.toNat
  let down := (-x.exponent).toNat
  { low := (4 * x.significand - if narrow then 1 else 2) * Nat.pow 2 up
    value := 4 * x.significand * Nat.pow 2 up
    high := (4 * x.significand + 2) * Nat.pow 2 up
    scale := 4 * Nat.pow 2 down
    closed := x.significand % 2 == 0 }

def Interval.holds (i : Interval) (n : Nat) (e : Int) : Bool :=
  let lhs := n * Nat.pow 10 e.toNat * i.scale
  let unit := Nat.pow 10 (-e).toNat
  if i.closed then i.low * unit ≤ lhs && lhs ≤ i.high * unit
  else i.low * unit < lhs && lhs < i.high * unit

/-- The number of decimal digits before the point, or minus the zeros right behind it. -/
def Interval.magnitude (i : Interval) : Int :=
  if i.scale ≤ i.value then (Nat.toDigits 10 (i.value / i.scale)).length
  else
    let n := (Nat.toDigits 10 (i.scale / i.value)).length
    if Nat.pow 10 (n - 1) * i.value == i.scale then 2 - n else 1 - n

/-- The neighbour of the value on the grid of step `10 ^ e` that rounds to it, the nearer of two. -/
def Interval.onGrid? (i : Interval) (e : Int) : Option Nat :=
  let num := i.value * Nat.pow 10 (-e).toNat
  let den := i.scale * Nat.pow 10 e.toNat
  let below := num / den
  let rest := num % den
  match i.holds below e && below != 0, i.holds (below + 1) e with
  | true, false => some below
  | false, true => some (below + 1)
  | false, false => none
  | true, true =>
    some (if 2 * rest < den || (2 * rest == den && below % 2 == 0) then below else below + 1)

/-- The first grid with a decimal of the interval, from `n` digits on. -/
def Interval.search (i : Interval) (point : Int) : Nat → Nat → Nat × Int
  | 0, n =>
    let num := i.value * Nat.pow 10 (n - point).toNat
    (num / (i.scale * Nat.pow 10 (point - n).toNat), point - n)
  | fuel + 1, n =>
    match i.onGrid? (point - n) with
    | some m => (m, point - n)
    | none => i.search point fuel (n + 1)

def dropTrailingZeros (ds : List Nat) : List Nat :=
  (ds.reverse.dropWhile (· == 0)).reverse

/-- The digits of the shortest decimal that rounds to `x`, which is not zero. -/
def shortest (format : BinaryFormat) (x : Binary) : Digits :=
  let i := x.interval format
  let (m, e) := i.search i.magnitude 20 1
  let ds := (Nat.toDigits 10 m).map fun c => c.toNat - 48
  ⟨dropTrailingZeros ds, e + ds.length⟩

end PageHarvest.Decimal
