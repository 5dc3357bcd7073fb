import PageHarvest.Json.Fault
import PageHarvest.Text.Basic

namespace PageHarvest.Json

def isBlank (c : Char) : Bool :=
  c == ' ' || c == '\n' || c == '\t' || c == '\r'

def skipBlanks (s : List Char) : List Char :=
  s.dropWhile isBlank

/-- The text behind `word`, which has to stand at the start. -/
def skipWord : List Char → List Char → Except Fault (List Char)
  | [], s => .ok s
  | _ :: _, [] => .error .endInValue
  | w :: ws, c :: s => if w = c then skipWord ws s else .error .expectedWord

/-- The parts of a number as written, digits only; `exponent` has its sign taken off. -/
structure Lexeme where
  negative : Bool
  whole : List Char
  fraction : Option (List Char)
  exponent : Option (Bool × List Char)
deriving DecidableEq, Repr

/-- What is wrong when digits are missing in front of `s`: a reader says so when the text ends. -/
def missingDigits (reading : Bool) : List Char → Fault
  | [] => if reading then .endInValue else .invalidNumber
  | _ => .invalidNumber

def scanDigits (reading : Bool) (s : List Char) : Except Fault (List Char × List Char) :=
  match s.takeWhile Char.isDigit with
  | [] => .error (missingDigits reading s)
  | ds => .ok (ds, s.dropWhile Char.isDigit)

/-- The digits before the point: a zero stands alone. -/
def scanWhole (reading : Bool) (s : List Char) : Except Fault (List Char × List Char) := do
  let (ds, rest) ← scanDigits reading s
  match ds with
  | '0' :: _ :: _ => .error .invalidNumber
  | _ => .ok (ds, rest)

def scanFraction (reading : Bool) : List Char → Except Fault (Option (List Char) × List Char)
  | '.' :: r => (scanDigits reading r).map fun (ds, rest) => (some ds, rest)
  | s => .ok (none, s)

def isExponentMark (c : Char) : Bool :=
  c == 'e' || c == 'E'

def scanExponent (reading : Bool) (s : List Char) :
    Except Fault (Option (Bool × List Char) × List Char) :=
  match s with
  | c :: r =>
    if isExponentMark c then
      match r with
      | '-' :: r' => (scanDigits reading r').map fun (ds, rest) => (some (true, ds), rest)
      | '+' :: r' => (scanDigits reading r').map fun (ds, rest) => (some (false, ds), rest)
      | _ => (scanDigits reading r).map fun (ds, rest) => (some (false, ds), rest)
    else .ok (none, s)
  | [] => .ok (none, [])

def scanNumber (reading : Bool) (s : List Char) : Except Fault (Lexeme × List Char) := do
  let (negative, s) := match s with
    | '-' :: r => (true, r)
    | _ => (false, s)
  let (whole, s) ← scanWhole reading s
  let (fraction, s) ← scanFraction reading s
  let (exponent, s) ← scanExponent reading s
  return (⟨negative, whole, fraction, exponent⟩, s)

def digitValue (c : Char) : Nat :=
  c.toNat - 48

/-- Appends digits to a number as long as 64 bits hold it, and gives the digits left over. -/
def accumulate (n : Nat) : List Char → Nat × List Char
  | [] => (n, [])
  | d :: ds =>
    let n' := n * 10 + digitValue d
    if n' < UInt64.size then accumulate n' ds else (n, d :: ds)

def powerOfTen (n : Nat) : Float :=
  Float.ofScientific 1 false n

def scaleDown : Nat → Float → Nat → Float
  | 0, f, n => f / powerOfTen n
  | fuel + 1, f, n =>
    if n ≤ 308 then f / powerOfTen n
    else if f == 0 then f
    else scaleDown fuel (f / powerOfTen 308) (n - 308)

/-- The float nearest to `n * 10 ^ e` in two roundings, unless it is too large. -/
def scaledFloat (n : Nat) (e : Int) : Except Fault Float :=
  let f := Float.ofNat n
  if e < 0 then .ok (scaleDown 8 f (-e).toNat)
  else if n == 0 then .ok f
  else if 308 < e then .error .numberOutOfRange
  else
    let r := f * powerOfTen e.toNat
    if r.isInf then .error .numberOutOfRange else .ok r

def Number.ofFloat (negative : Bool) (f : Float) : Number :=
  .float (if negative then -f else f).toBits

def decimalValue (ds : List Char) : Nat :=
  ds.foldl (fun n d => n * 10 + digitValue d) 0

/--
The value of a number. One without fraction and exponent that fits 64 bits is an integer, but minus
zero and whatever is below `-2 ^ 63` are floats.
-/
def Lexeme.number (l : Lexeme) : Except Fault Number := do
  let (n, excess) := accumulate 0 l.whole
  if l.fraction.isNone && l.exponent.isNone && excess.isEmpty then
    if !l.negative then return .natural (UInt64.ofNat n)
    else if n == 0 || UInt64.size / 2 < n then return .ofFloat true (Float.ofNat n)
    else return .negative (UInt64.ofNat n)
  else
    let fraction := l.fraction.getD []
    let (n, rest) := accumulate n fraction
    let shift : Int := excess.length - (fraction.length - rest.length : Nat)
    let e : Int := match l.exponent with
      | none => 0
      | some (true, ds) => -(decimalValue ds : Int)
      | some (false, ds) => decimalValue ds
    return .ofFloat l.negative (← scaledFloat n (shift + e))

def hasFourBytes : List Char → Bool
  | _ :: _ :: _ :: _ :: _ => true
  | s => 4 ≤ Text.byteLength s

/-- The four hexadecimal digits of an escape and the text behind them. -/
def scanHex (s : List Char) : Except Fault (Nat × List Char) :=
  if !hasFourBytes s then .error .endInString
  else
    match s with
    | a :: b :: c :: d :: rest =>
      match [a, b, c, d].mapM hexValue? with
      | some ds => .ok (ds.foldl (fun n x => n * 16 + x.val) 0, rest)
      | none => .error .invalidEscape
    | _ => .error .invalidEscape

theorem length_of_scanHex {s rest : List Char} {n : Nat} (h : scanHex s = .ok (n, rest)) :
    rest.length < s.length := by
  unfold scanHex at h
  split at h
  · simp at h
  · split at h
    · split at h
      · simp only [Except.ok.injEq, Prod.mk.injEq] at h
        simp only [List.length_cons, ← h.2]
        omega
      · simp at h
    · simp at h

/-- The character after a backslash, for the escapes of one letter. -/
def simpleEscape? : Char → Option Char
  | '"' => some '"'
  | '\\' => some '\\'
  | '/' => some '/'
  | 'b' => some '\x08'
  | 'f' => some '\x0c'
  | 'n' => some '\n'
  | 'r' => some '\r'
  | 't' => some '\t'
  | _ => none

def isLeadSurrogate (n : Nat) : Bool :=
  0xD800 ≤ n && n ≤ 0xDBFF

def isTrailSurrogate (n : Nat) : Bool :=
  0xDC00 ≤ n && n ≤ 0xDFFF

/-- The character of an escape by code, whose second half follows if the first is a surrogate. -/
def scanCode (s : List Char) : Except Fault (Char × List Char) := do
  let (n, rest) ← scanHex s
  if isTrailSurrogate n then .error .loneSurrogate
  else if isLeadSurrogate n then
    match rest with
    | [] => .error .endInString
    | '\\' :: [] => .error .endInString
    | '\\' :: 'u' :: r =>
      let (m, rest) ← scanHex r
      if isTrailSurrogate m then
        return (Char.ofNat (0x10000 + (n - 0xD800) * 0x400 + (m - 0xDC00)), rest)
      else .error .loneSurrogate
    | _ => .error .endOfHexEscape
  else return (Char.ofNat n, rest)

theorem length_of_scanCode {s rest : List Char} {c : Char} (h : scanCode s = .ok (c, rest)) :
    rest.length < s.length := by
  unfold scanCode at h
  cases hn : scanHex s with
  | error e => simp [hn, bind, Except.bind] at h
  | ok p =>
    obtain ⟨n, r⟩ := p
    have h1 := length_of_scanHex hn
    simp only [hn, bind, Except.bind, pure, Except.pure] at h
    split at h
    · simp at h
    · split at h
      · split at h
        · simp at h
        · simp at h
        · rename_i r'
          cases hm : scanHex r' with
          | error e => simp [hm] at h
          | ok q =>
            obtain ⟨m, r''⟩ := q
            have h2 := length_of_scanHex hm
            simp only [hm] at h
            split at h
            · simp only [Except.ok.injEq, Prod.mk.injEq] at h
              simp only [List.length_cons] at h1
              rw [← h.2]
              omega
            · simp at h
        · simp at h
      · simp only [Except.ok.injEq, Prod.mk.injEq] at h
        rw [← h.2]
        exact h1

/-- The content of a string whose opening quote is read, and the text behind its closing quote. -/
def readString (s : List Char) : Except Fault (List Char × List Char) :=
  match s with
  | [] => .error .endInString
  | '"' :: r => .ok ([], r)
  | ['\\'] => .error .endInString
  | '\\' :: 'u' :: r =>
    match _h : scanCode r with
    | .error e => .error e
    | .ok (c, rest) => (readString rest).map fun (cs, rest) => (c :: cs, rest)
  | '\\' :: e :: r =>
    match simpleEscape? e with
    | none => .error .invalidEscape
    | some c => (readString r).map fun (cs, rest) => (c :: cs, rest)
  | c :: r =>
    if c.toNat < 0x20 then .error .controlCharacter
    else (readString r).map fun (cs, rest) => (c :: cs, rest)
termination_by s.length
decreasing_by
  · have := length_of_scanCode _h
    simp only [List.length_cons]
    omega
  all_goals simp only [List.length_cons]; omega

/-- The text behind the closing quote of a string whose opening quote is read. -/
def skipString (s : List Char) : Except Fault (List Char) :=
  match s with
  | [] => .error .endInString
  | '"' :: r => .ok r
  | ['\\'] => .error .endInString
  | '\\' :: 'u' :: r =>
    match _h : scanHex r with
    | .error e => .error e
    | .ok (_, rest) => skipString rest
  | '\\' :: e :: r =>
    match simpleEscape? e with
    | none => .error .invalidEscape
    | some _ => skipString r
  | c :: r => if c.toNat < 0x20 then .error .controlCharacter else skipString r
termination_by s.length
decreasing_by
  · have := length_of_scanHex _h
    simp only [List.length_cons]
    omega
  all_goals simp only [List.length_cons]; omega

end PageHarvest.Json
