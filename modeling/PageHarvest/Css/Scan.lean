import PageHarvest.Css.Token
import PageHarvest.Text.Basic

namespace PageHarvest.Css

def replacement : Char := '\ufffd'

def isNewline (c : Char) : Bool :=
  c == '\n' || c == '\r' || c == '\x0c'

def isSpace (c : Char) : Bool :=
  c == ' ' || c == '\t' || isNewline c

def isAscii (c : Char) : Bool :=
  c.toNat < 0x80

def isHexDigit (c : Char) : Bool :=
  c.isDigit || ('a' ≤ c && c ≤ 'f') || ('A' ≤ c && c ≤ 'F')

def hexDigitValue (c : Char) : Nat :=
  if c.isDigit then c.toNat - '0'.toNat
  else c.toLower.toNat - 'a'.toNat + 10

def isNameStart (c : Char) : Bool :=
  c.isAlpha || c == '_' || c == '\x00' || !isAscii c

def isNameChar (c : Char) : Bool :=
  isNameStart c || c.isDigit || c == '-'

def startsWithNewline : List Char → Bool
  | c :: _ => isNewline c
  | [] => false

def startsWithDigit : List Char → Bool
  | c :: _ => c.isDigit
  | [] => false

/-- Whether a name starts here. A backslash escapes whatever follows it, a line's end apart. -/
def startsName : List Char → Bool
  | '-' :: c :: _ => isNameStart c || c == '-' || c == '\\'
  | '\\' :: r => !startsWithNewline r
  | c :: _ => isNameStart c
  | [] => false

def startsDigits : List Char → Bool
  | '.' :: r => startsWithDigit r
  | r => startsWithDigit r

def dropNewline : List Char → List Char
  | '\r' :: '\n' :: r => r
  | c :: r => if isNewline c then r else c :: r
  | [] => []

def dropOneSpace : List Char → List Char
  | c :: r => if c == ' ' || c == '\t' then r else dropNewline (c :: r)
  | [] => []

theorem length_dropNewline_le (s : List Char) : (dropNewline s).length ≤ s.length := by
  unfold dropNewline
  split
  · simp only [List.length_cons]
    omega
  · split <;> simp
  · simp

theorem length_dropOneSpace_le (s : List Char) : (dropOneSpace s).length ≤ s.length := by
  unfold dropOneSpace
  split
  · split
    · simp
    · exact length_dropNewline_le _
  · simp

/-- The character with this code, the replacement character for those that are none. -/
def charOfCode (n : Nat) : Char :=
  if n == 0 || !n.isValidChar then replacement else Char.ofNat n

/-- What a backslash before `s` stands for, and the text behind it. -/
def readEscape (s : List Char) : Char × List Char :=
  match s with
  | [] => (replacement, [])
  | c :: r =>
    if isHexDigit c then
      let digits := ((c :: r).take 6).takeWhile isHexDigit
      let code := digits.foldl (fun n d => 16 * n + hexDigitValue d) 0
      (charOfCode code, dropOneSpace ((c :: r).drop digits.length))
    else if c == '\x00' then (replacement, r)
    else (c, r)

theorem length_readEscape_le (s : List Char) : (readEscape s).2.length ≤ s.length := by
  unfold readEscape
  split
  · simp
  · split
    · refine Nat.le_trans (length_dropOneSpace_le _) ?_
      simp
    · split <;> simp

def readName (s : List Char) : List Char × List Char :=
  match s with
  | [] => ([], [])
  | c :: r =>
    if isNameChar c then
      let (name, rest) := readName r
      ((if c == '\x00' then replacement else c) :: name, rest)
    else if c == '\\' && !startsWithNewline r then
      let (name, rest) := readName (readEscape r).2
      ((readEscape r).1 :: name, rest)
    else ([], c :: r)
termination_by s.length
decreasing_by
  · simp
  · have := length_readEscape_le r
    simp only [List.length_cons]
    omega

theorem length_readName_le (s : List Char) : (readName s).2.length ≤ s.length := by
  fun_induction readName s with
  | case1 => simp
  | case2 c r _ name rest h ih =>
    simp only [h] at ih
    simp only [List.length_cons]
    omega
  | case3 c r _ _ name rest h ih =>
    have := length_readEscape_le r
    simp only [h] at ih
    simp only [List.length_cons]
    omega
  | case4 => simp

/-- A text up to its closing quote, the text behind it, and whether a line's end cut it short. -/
def readQuoted (quote : Char) (s : List Char) : List Char × List Char × Bool :=
  match s with
  | [] => ([], [], false)
  | c :: r =>
    if c == quote then ([], r, false)
    else if isNewline c then ([], c :: r, true)
    else if c == '\\' then
      if startsWithNewline r then readQuoted quote (dropNewline r)
      else if r.isEmpty then ([], [], false)
      else
        let (text, rest, cut) := readQuoted quote (readEscape r).2
        ((readEscape r).1 :: text, rest, cut)
    else
      let (text, rest, cut) := readQuoted quote r
      ((if c == '\x00' then replacement else c) :: text, rest, cut)
termination_by s.length
decreasing_by
  · have := length_dropNewline_le r
    simp only [List.length_cons]
    omega
  · have := length_readEscape_le r
    simp only [List.length_cons]
    omega
  · simp

theorem length_readQuoted_le (quote : Char) (s : List Char) :
    (readQuoted quote s).2.1.length ≤ s.length := by
  fun_induction readQuoted quote s with
  | case1 => simp
  | case2 => simp
  | case3 => simp
  | case4 c r _ _ _ _ ih =>
    have := length_dropNewline_le r
    simp only [List.length_cons]
    omega
  | case5 => simp
  | case6 c r _ _ _ _ _ text rest cut h ih =>
    have := length_readEscape_le r
    simp only [h] at ih
    simp only [List.length_cons]
    omega
  | case7 c r _ _ _ text rest cut h ih =>
    simp only [h] at ih
    simp only [List.length_cons]
    omega

/-- The rest of an address that cannot be read, up to its closing parenthesis, as it is written. -/
def readBadUrl : List Char → List Char × List Char
  | [] => ([], [])
  | ')' :: r => ([], r)
  | '\\' :: '\\' :: r => let (text, rest) := readBadUrl r; ('\\' :: '\\' :: text, rest)
  | '\\' :: ')' :: r => let (text, rest) := readBadUrl r; ('\\' :: ')' :: text, rest)
  | c :: r => let (text, rest) := readBadUrl r; (c :: text, rest)

theorem length_readBadUrl_le (s : List Char) : (readBadUrl s).2.length ≤ s.length := by
  fun_induction readBadUrl s <;> simp_all <;> omega

/-- A character that an address may not hold bare. -/
def isUnfitForUrl (c : Char) : Bool :=
  c == '"' || c == '\'' || c == '(' || c == '\x7f' || c == '\x0b' ||
    (1 ≤ c.toNat && c.toNat ≤ 8) || (0x0E ≤ c.toNat && c.toNat ≤ 0x1F)

/-- An address without quotes up to its closing parenthesis, or nothing if it cannot be read. -/
def readUrl? (s : List Char) : Option (List Char × List Char) :=
  match s with
  | [] => some ([], [])
  | c :: r =>
    if c == ')' then some ([], r)
    else if isSpace c then
      match r.dropWhile isSpace with
      | [] => some ([], [])
      | ')' :: rest => some ([], rest)
      | _ => none
    else if isUnfitForUrl c then none
    else if c == '\\' then
      if startsWithNewline r then none
      else (readUrl? (readEscape r).2).map fun (text, rest) => ((readEscape r).1 :: text, rest)
    else
      (readUrl? r).map fun (text, rest) =>
        ((if c == '\x00' then replacement else c) :: text, rest)
termination_by s.length
decreasing_by
  · have := length_readEscape_le r
    simp only [List.length_cons]
    omega
  · simp

theorem length_of_readUrl? {s text rest : List Char} (h : readUrl? s = some (text, rest)) :
    rest.length ≤ s.length := by
  fun_induction readUrl? s generalizing text rest with
  | case1 => simp_all
  | case2 => simp_all
  | case3 => simp_all
  | case4 c r _ _ rest' hr =>
    have := (List.dropWhile_suffix isSpace (l := r)).length_le
    simp only [hr, List.length_cons] at this
    simp only [Option.some.injEq, Prod.mk.injEq] at h
    simp only [List.length_cons, ← h.2]
    omega
  | case5 => simp at h
  | case6 => simp at h
  | case7 => simp at h
  | case8 c r _ _ _ _ _ ih =>
    obtain ⟨p, hp, he⟩ := Option.map_eq_some_iff.1 h
    have h1 := ih hp
    have h2 := length_readEscape_le r
    simp only [Prod.mk.injEq] at he
    simp only [List.length_cons, ← he.2]
    omega
  | case9 c r _ _ _ _ ih =>
    obtain ⟨p, hp, he⟩ := Option.map_eq_some_iff.1 h
    have h1 := ih hp
    simp only [Prod.mk.injEq] at he
    simp only [List.length_cons, ← he.2]
    omega

/-- What stands behind `url(`, unless it is a quote: then the address is an argument like others. -/
def readUrlToken? (s : List Char) : Option (Token × List Char) :=
  match s.dropWhile isSpace with
  | '"' :: _ | '\'' :: _ => none
  | r =>
    match readUrl? r with
    | some (text, rest) => some (.url (String.ofList text), rest)
    | none =>
      let (text, rest) := readBadUrl r
      some (.badUrl (String.ofList text), rest)

def readNameToken (s : List Char) : Token × List Char :=
  let name := String.ofList (readName s).1
  match (readName s).2 with
  | '(' :: r =>
    if (readName s).1.map Char.toLower == ['u', 'r', 'l'] then
      (readUrlToken? r).getD (.function name, r)
    else (.function name, r)
  | r => (.ident name, r)

/-- The value of digits behind a point, each weighed by a power of a tenth. -/
def fractionValue (digits : List Char) : Float :=
  (digits.foldl (fun (sum, weight) d =>
    (sum + Float.ofNat (d.toNat - '0'.toNat) * weight, weight * 0.1)) ((0.0 : Float), 0.1)).1

def digitsValue (digits : List Char) : Float :=
  digits.foldl (fun sum d => sum * 10.0 + Float.ofNat (d.toNat - '0'.toNat)) 0.0

def naturalOfDigits (digits : List Char) : Nat :=
  digits.foldl (fun n d => 10 * n + (d.toNat - '0'.toNat)) 0

/-- Keeps a number within the signed words of 32 bits. -/
def clampWord (n : Int) : Int :=
  max (-2147483648) (min 2147483647 n)

def readSign : List Char → Option Char × List Char
  | '+' :: r => (some '+', r)
  | '-' :: r => (some '-', r)
  | r => (none, r)

/-- The parts of a number as they are written. -/
structure NumeralText where
  sign : Option Char
  integer : List Char
  fraction : List Char
  exponent : Option (Option Char × List Char)
deriving DecidableEq, Repr

namespace NumeralText

def isWhole (t : NumeralText) : Bool :=
  t.fraction.isEmpty && t.exponent.isNone

def whole (t : NumeralText) : Int :=
  let n : Int := naturalOfDigits t.integer
  clampWord (if t.sign == some '-' then -n else n)

def value (t : NumeralText) : Float :=
  let signed (sign : Option Char) (x : Float) := if sign == some '-' then -1.0 * x else 1.0 * x
  let plain := signed t.sign (digitsValue t.integer + fractionValue t.fraction)
  match t.exponent with
  | none => plain
  | some (sign, digits) => plain * Float.pow 10.0 (signed sign (digitsValue digits))

def numeral (t : NumeralText) (scale : Float) : Numeral where
  signed := t.sign.isSome
  bits := (t.value / scale).toFloat32.toBits
  whole := if t.isWhole then some t.whole else none

end NumeralText

def readFraction : List Char → List Char × List Char
  | '.' :: r =>
    if startsWithDigit r then (r.takeWhile Char.isDigit, r.dropWhile Char.isDigit)
    else ([], '.' :: r)
  | r => ([], r)

def readExponent (s : List Char) : Option (Option Char × List Char) × List Char :=
  match s with
  | c :: r =>
    let (sign, digits) := readSign r
    if (c == 'e' || c == 'E') && startsWithDigit digits then
      (some (sign, digits.takeWhile Char.isDigit), digits.dropWhile Char.isDigit)
    else (none, s)
  | [] => (none, [])

def readNumeral (s : List Char) : NumeralText × List Char :=
  let (sign, r) := readSign s
  let (fraction, afterFraction) := readFraction (r.dropWhile Char.isDigit)
  let (exponent, rest) := readExponent afterFraction
  (⟨sign, r.takeWhile Char.isDigit, fraction, exponent⟩, rest)

def readNumberToken (s : List Char) : Token × List Char :=
  let (text, rest) := readNumeral s
  match rest with
  | '%' :: r => (.percentage (text.numeral 100.0), r)
  | _ =>
    if startsName rest then
      (.dimension (text.numeral 1.0) (String.ofList (readName rest).1), (readName rest).2)
    else (.number (text.numeral 1.0), rest)

def skipComment : List Char → List Char
  | '*' :: '/' :: r => r
  | _ :: r => skipComment r
  | [] => []

def readQuotedToken (quote : Char) (s : List Char) : Token × List Char :=
  let (text, rest, cut) := readQuoted quote s
  (if cut then .badQuoted (String.ofList text) else .quoted (String.ofList text), rest)

def readHashToken (s : List Char) : Token × List Char :=
  let name := String.ofList (readName s).1
  if startsName s then (.idHash name, (readName s).2)
  else match s with
    | c :: _ => if c.isDigit || c == '-' then (.hash name, (readName s).2) else (.delim '#', s)
    | [] => (.delim '#', [])

theorem length_of_readUrlToken? {s rest : List Char} {token : Token}
    (h : readUrlToken? s = some (token, rest)) : rest.length ≤ s.length := by
  have hs := Text.length_dropWhile_le isSpace s
  unfold readUrlToken? at h
  split at h
  · simp at h
  · simp at h
  · split at h
    · rename_i hu
      have := length_of_readUrl? hu
      simp only [Option.some.injEq, Prod.mk.injEq] at h
      rw [← h.2]
      omega
    · have := length_readBadUrl_le (s.dropWhile isSpace)
      simp only [Option.some.injEq, Prod.mk.injEq] at h
      rw [← h.2]
      omega

theorem length_readName_lt {s : List Char} (h : startsName s = true) :
    (readName s).2.length < s.length := by
  unfold startsName at h
  split at h
  · rename_i c r
    have := length_readName_le (c :: r)
    rw [readName]
    simp only [show isNameChar '-' = true by decide, if_true, List.length_cons] at *
    omega
  · rename_i r
    have h1 := length_readName_le (readEscape r).2
    have h2 := length_readEscape_le r
    rw [readName]
    simp only [show isNameChar '\\' = false by decide, h, List.length_cons]
    simp only [Bool.false_eq_true, if_false, beq_self_eq_true, Bool.and_self, if_true]
    omega
  · rename_i c r _ _
    have := length_readName_le r
    rw [readName]
    simp only [show isNameChar c = true by simp [isNameChar, h], if_true, List.length_cons]
    omega
  · simp at h

theorem length_readNameToken_lt {s : List Char} (h : startsName s = true) :
    (readNameToken s).2.length < s.length := by
  have hn := length_readName_lt h
  unfold readNameToken
  simp only
  split
  · rename_i r hr
    simp only [hr, List.length_cons] at hn
    split
    · cases hu : readUrlToken? r with
      | none =>
        simp only [Option.getD_none]
        omega
      | some p =>
        have := @length_of_readUrlToken? _ p.2 p.1 hu
        simp only [Option.getD_some]
        omega
    · simp only
      omega
  · exact hn

theorem length_readSign_le (s : List Char) : (readSign s).2.length ≤ s.length := by
  unfold readSign
  split <;> simp

theorem length_readFraction_le (s : List Char) : (readFraction s).2.length ≤ s.length := by
  unfold readFraction
  split
  · rename_i r
    have := Text.length_dropWhile_le Char.isDigit r
    split
    · simp only [List.length_cons]
      omega
    · simp
  · simp

theorem length_readExponent_le (s : List Char) : (readExponent s).2.length ≤ s.length := by
  unfold readExponent
  split
  · rename_i c r
    have h1 := length_readSign_le r
    have h2 := Text.length_dropWhile_le Char.isDigit (readSign r).2
    simp only
    split
    · simp only [List.length_cons]
      omega
    · simp
  · simp

def startsNumber (c : Char) (s : List Char) : Bool :=
  c.isDigit || (c == '.' && startsWithDigit s) || ((c == '+' || c == '-') && startsDigits s)

theorem length_readNumeral_le {c : Char} {s : List Char} (h : startsNumber c s = true) :
    (readNumeral (c :: s)).2.length ≤ s.length := by
  have h3 := length_readFraction_le ((readSign (c :: s)).2.dropWhile Char.isDigit)
  have h4 := length_readExponent_le
    (readFraction ((readSign (c :: s)).2.dropWhile Char.isDigit)).2
  have h5 : (readFraction ((readSign (c :: s)).2.dropWhile Char.isDigit)).2.length ≤ s.length := by
    by_cases hs : c = '+' ∨ c = '-'
    · have : (readSign (c :: s)).2 = s := by rcases hs with rfl | rfl <;> rfl
      have h2 := Text.length_dropWhile_le Char.isDigit s
      simp only [this] at h3 ⊢
      omega
    · have hr : (readSign (c :: s)).2 = c :: s := by
        unfold readSign
        split <;> simp_all
      by_cases hd : c.isDigit = true
      · have h2 := Text.length_dropWhile_le Char.isDigit s
        simp only [hr, List.dropWhile_cons, hd, if_true] at h3 ⊢
        omega
      · have hp : c = '.' ∧ startsWithDigit s = true := by
          simp only [not_or] at hs
          simpa [startsNumber, hd, hs.1, hs.2] using h
        obtain ⟨rfl, hp⟩ := hp
        have h2 := Text.length_dropWhile_le Char.isDigit s
        have hf : (readFraction ('.' :: s)).2 = s.dropWhile Char.isDigit := by
          simp only [readFraction, hp, if_true]
        simp only [hr, List.dropWhile_cons, hd, Bool.false_eq_true, if_false, hf]
        exact h2
  simp only [readNumeral]
  omega

theorem length_readNumberToken_le {c : Char} {s : List Char} (h : startsNumber c s = true) :
    (readNumberToken (c :: s)).2.length ≤ s.length := by
  have h1 := length_readNumeral_le h
  have h2 := length_readName_le (readNumeral (c :: s)).2
  simp only [readNumberToken]
  split
  · rename_i hr
    simp only [hr, List.length_cons] at h1
    simp only
    omega
  · split
    · simp only
      omega
    · exact h1

theorem length_skipComment_le (s : List Char) : (skipComment s).length ≤ s.length := by
  fun_induction skipComment s <;> simp_all <;> omega

theorem length_readHashToken_le (s : List Char) : (readHashToken s).2.length ≤ s.length := by
  have := length_readName_le s
  unfold readHashToken
  simp only
  split
  · exact this
  · split
    · split
      · exact this
      · simp
    · simp

/-- A mark, a bracket or a comment that starts with `c`, and the text behind it. -/
def readMark (c : Char) (s : List Char) : Option Token × List Char :=
  match c, s with
  | '(', _ => (some .openParen, s)
  | ')', _ => (some .closeParen, s)
  | '[', _ => (some .openSquare, s)
  | ']', _ => (some .closeSquare, s)
  | '\x7b', _ => (some .openCurly, s)
  | '\x7d', _ => (some .closeCurly, s)
  | ',', _ => (some .comma, s)
  | ':', _ => (some .colon, s)
  | ';', _ => (some .semicolon, s)
  | '$', '=' :: r => (some .ends, r)
  | '*', '=' :: r => (some .holds, r)
  | '^', '=' :: r => (some .begins, r)
  | '|', '=' :: r => (some .dashes, r)
  | '~', '=' :: r => (some .includes, r)
  | '/', '*' :: r => (none, skipComment r)
  | '<', '!' :: '-' :: '-' :: r => (some .commentOpen, r)
  | '-', '-' :: '>' :: r => (some .commentClose, r)
  | _, _ => (some (.delim c), s)

theorem length_readMark_le (c : Char) (s : List Char) : (readMark c s).2.length ≤ s.length := by
  unfold readMark
  split <;> simp only [List.length_cons] <;> try omega
  have := length_skipComment_le
  grind

def startsCommentClose (c : Char) (s : List Char) : Bool :=
  match c, s with
  | '-', '-' :: '>' :: _ => true
  | _, _ => false

/-- A token with the text behind it, where a comment would leave none. -/
def emitted (p : Token × List Char) : Option Token × List Char :=
  (some p.1, p.2)

/-- The token or comment that starts with `c` and goes on with `s`, and the text behind it. -/
def readToken (c : Char) (s : List Char) : Option Token × List Char :=
  if isSpace c then
    (some (.blank (String.ofList (c :: s.takeWhile isSpace))), s.dropWhile isSpace)
  else if c == '"' || c == '\'' then emitted (readQuotedToken c s)
  else if c == '#' then emitted (readHashToken s)
  else if c == '@' && startsName s then
    (some (.atWord (String.ofList (readName s).1)), (readName s).2)
  else if startsNumber c s then emitted (readNumberToken (c :: s))
  else if startsCommentClose c s then readMark c s
  else if startsName (c :: s) then emitted (readNameToken (c :: s))
  else readMark c s

theorem length_readToken_le (c : Char) (s : List Char) : (readToken c s).2.length ≤ s.length := by
  unfold readToken emitted
  split
  · exact Text.length_dropWhile_le _ _
  · split
    · have := length_readQuoted_le c s
      simpa only [readQuotedToken] using this
    · split
      · exact length_readHashToken_le s
      · split
        · exact length_readName_le s
        · split
          · rename_i h
            exact length_readNumberToken_le h
          · split
            · exact length_readMark_le c s
            · split
              · rename_i h
                have := length_readNameToken_lt h
                simp only [List.length_cons] at this
                simp only
                omega
              · exact length_readMark_le c s

/--
The tokens of a text, without its comments. Every text has some reading: what is not finished at its
end counts as finished there.
-/
def tokens (s : List Char) : List Token :=
  match s with
  | [] => []
  | c :: r =>
    (readToken c r).1.toList ++ tokens (readToken c r).2
termination_by s.length
decreasing_by
  have := length_readToken_le c r
  simp only [List.length_cons]
  omega

end PageHarvest.Css
