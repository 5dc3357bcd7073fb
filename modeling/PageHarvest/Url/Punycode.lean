namespace PageHarvest.Url.Punycode

def digitChar (d : Nat) : Char :=
  Char.ofNat (if d < 26 then 0x61 + d else 0x16 + d)

def digitValue? (c : Char) : Option Nat :=
  if 'a' ≤ c && c ≤ 'z' then some (c.toNat - 0x61)
  else if 'A' ≤ c && c ≤ 'Z' then some (c.toNat - 0x41)
  else if c.isDigit then some (c.toNat - 0x16)
  else none

/-- The least value of a digit that is not the last of its number. -/
def threshold (bias place : Nat) : Nat :=
  min 26 (max 1 (place - bias))

theorem threshold_pos (bias place : Nat) : 0 < threshold bias place := by
  unfold threshold
  omega

theorem threshold_le (bias place : Nat) : threshold bias place ≤ 26 := by
  unfold threshold
  omega

def biasRounds (delta k : Nat) : Nat :=
  if 455 < delta then biasRounds (delta / 35) (k + 36) else k + 36 * delta / (delta + 38)
termination_by delta

/-- The bias behind a number, the first of a name or not, where `count` characters are known. -/
def nextBias (first : Bool) (delta count : Nat) : Nat :=
  let scaled := if first then delta / 700 else delta / 2
  biasRounds (scaled + scaled / count) 0

def numberDigits (bias place n : Nat) : List Char :=
  let t := threshold bias place
  if n < t then [digitChar n]
  else digitChar (t + (n - t) % (36 - t)) :: numberDigits bias (place + 36) ((n - t) / (36 - t))
termination_by n
decreasing_by
  have h1 := threshold_pos bias place
  have h2 := Nat.div_le_self (n - threshold bias place) (36 - threshold bias place)
  omega

def readNumber? (bias place weight sum : Nat) : List Char → Option (Nat × List Char)
  | [] => none
  | c :: r =>
    match digitValue? c with
    | none => none
    | some d =>
      let t := threshold bias place
      let sum := sum + d * weight
      if UInt32.size ≤ sum then none
      else if d < t then some (sum, r)
      else readNumber? bias (place + 36) (weight * (36 - t)) sum r

theorem length_of_readNumber? {bias place weight sum n : Nat} {s rest : List Char}
    (h : readNumber? bias place weight sum s = some (n, rest)) : rest.length < s.length := by
  induction s generalizing place weight sum with
  | nil => simp [readNumber?] at h
  | cons c r ih =>
    unfold readNumber? at h
    split at h
    · simp at h
    · simp only at h
      split at h
      · simp at h
      · split at h
        · simp_all
        · have := ih h
          simp only [List.length_cons]
          omega

structure Writing where
  out : List Char := []
  delta : Nat := 0
  bias : Nat := 72
  /-- How many characters are written so far. -/
  count : Nat

/-- Passes a character of the name while those with the given code are written. -/
def Writing.pass (basic code : Nat) (w : Writing) (c : Char) : Writing :=
  if c.toNat < code then { w with delta := w.delta + 1 }
  else if c.toNat == code then
    { out := w.out ++ numberDigits w.bias 36 w.delta
      delta := 0
      bias := nextBias (w.count == basic) w.delta (w.count + 1)
      count := w.count + 1 }
  else w

/-- Writes the characters with the given codes, which are in order, from `next` on. -/
def writeCodes (s : List Char) (basic : Nat) : List Nat → Nat → Writing → List Char
  | [], _, w => w.out
  | code :: codes, next, w =>
    let w := { w with delta := w.delta + (code - next) * (w.count + 1) }
    let w := s.foldl (Writing.pass basic code) w
    writeCodes s basic codes (code + 1) { w with delta := w.delta + 1 }

def isBasic (c : Char) : Bool :=
  c.toNat < 0x80

/-- The codes of the other characters, each once and in order. -/
def otherCodes (s : List Char) : List Nat :=
  (((s.filter (!isBasic ·)).map Char.toNat).mergeSort (· ≤ ·)).eraseDups

/--
A name in any characters as one in plain characters: those that are plain come first, then the
places and the codes of the others as one row of digits to the base 36.
-/
def encode (s : List Char) : List Char :=
  let basic := s.filter isBasic
  let lead := if basic.isEmpty then [] else basic ++ ['-']
  lead ++ writeCodes s basic.length (otherCodes s) 0x80 { count := basic.length }

/-- Inserts the characters that the digits tell of. The first number of a name has its own bias. -/
def insertOthers? (first : Bool) (out : List Char) (code place bias : Nat) (s : List Char) :
    Option (List Char) :=
  match s with
  | [] => some out
  | c :: r =>
    match _h : readNumber? bias 36 1 0 (c :: r) with
    | none => none
    | some (delta, rest) =>
      let total := place + delta
      let count := out.length + 1
      let code := code + total / count
      let place := total % count
      if code.isValidChar then
        insertOthers? false (out.take place ++ Char.ofNat code :: out.drop place) code (place + 1)
          (nextBias first delta count) rest
      else none
termination_by s.length
decreasing_by exact length_of_readNumber? _h

def decode? (s : List Char) : Option (List Char) :=
  let tail := (s.reverse.takeWhile (· != '-')).reverse
  let basic := ((s.reverse.dropWhile (· != '-')).drop 1).reverse
  if s.all isBasic then insertOthers? true basic 0x80 0 72 tail else none

end PageHarvest.Url.Punycode
