import PageHarvest.Proofs.Python.Literal

namespace PageHarvest.Python

inductive Lexeme
  | word (text : List Char)
  /-- A character that stands for itself, a blank or an operator. -/
  | mark (c : Char)
  /-- What stands between the quotes is kept as it is written. -/
  | literal (formatted : Bool) (quote : Char) (body : List Char)
  | comment (text : List Char)
  | lineEnd
deriving DecidableEq, Repr

/-- Where in a program a character stands, with what its lexeme holds so far, last first. -/
inductive Place
  | code (word : List Char)
  | inside (formatted : Bool) (quote : Char) (body : List Char)
  /-- Behind a backslash in a literal. -/
  | escape (formatted : Bool) (quote : Char) (body : List Char)
  /-- Right behind a literal. -/
  | closed
  | comment (text : List Char)
deriving DecidableEq, Repr

def isWordChar (c : Char) : Bool :=
  c.isAlphanum || c == '_' || 0x7F < c.toNat

def wordLexemes : List Char → List Lexeme
  | [] => []
  | word => [.word word.reverse]

/-- A quote opens a literal where no word stands before it but the prefix of a formatted one. -/
def openLiteral (quote : Char) : List Char → Option Place
  | [] => some (.inside false quote [])
  | ['f'] => some (.inside true quote [])
  | _ => none

def codeStep (word : List Char) (c : Char) : Option (Place × List Lexeme) :=
  if isWordChar c then some (.code (c :: word), [])
  else if isQuote c then (openLiteral c word).map (·, [])
  else if c == '#' then some (.comment [], wordLexemes word)
  else if c == '\n' then some (.code [], wordLexemes word ++ [.lineEnd])
  else if c == '\r' || c == '\\' then none
  else some (.code [], wordLexemes word ++ [.mark c])

/-- Whether a literal may end here. The holes of a formatted one have to be closed before. -/
def mayClose (formatted : Bool) (body : List Char) : Bool :=
  !formatted || body.count '\x7b' == body.count '\x7d'

/-- Reads a character: the place behind it, and the lexemes that end there. -/
def step : Place → Char → Option (Place × List Lexeme)
  | .code word, c => codeStep word c
  | .inside formatted quote body, c =>
    if c == quote then
      if mayClose formatted body then some (.closed, [.literal formatted quote body.reverse])
      else none
    else if c == '\\' then some (.escape formatted quote (c :: body), [])
    else if endsLine c then none
    else some (.inside formatted quote (c :: body), [])
  | .escape formatted quote body, c =>
    if endsLine c then none else some (.inside formatted quote (c :: body), [])
  | .closed, c => if isQuote c then none else codeStep [] c
  | .comment text, c =>
    if c == '\n' then some (.code [], [.comment text.reverse, .lineEnd])
    else if c == '\r' then none
    else some (.comment (c :: text), [])

/-- Reads a text from a place on: the place behind it, and the lexemes that end in it. -/
def scan : Place → List Char → Option (Place × List Lexeme)
  | p, [] => some (p, [])
  | p, c :: s => do
    let (q, before) ← step p c
    let (r, behind) ← scan q s
    return (r, before ++ behind)

/-- The lexeme that the end of the text ends. No literal may be open there. -/
def lastLexemes : Place → Option (List Lexeme)
  | .code word => some (wordLexemes word)
  | .closed => some []
  | .comment text => some [.comment text.reverse]
  | .inside _ _ _ | .escape _ _ _ => none

/--
The lexemes of a program as far as scripts use the language. What needs more is refused: line ends
other than a line feed, continued lines, literals in three quotes, and prefixes of literals other
than the one that makes a literal formatted. So a text that is read here is cut in the same places
by the full rules.
-/
def lex (program : String) : Option (List Lexeme) := do
  let (p, lexemes) ← scan (.code []) program.toList
  return lexemes ++ (← lastLexemes p)

/--
The lexeme without what a literal holds, how it is quoted, and what a comment says. The holes of a
formatted literal are code, so such a literal is kept.
-/
def Lexeme.bare : Lexeme → Lexeme
  | literal false _ _ => literal false '"' []
  | comment _ => comment []
  | x => x

/-- The code of a program: its lexemes and line ends without what literals hold and comments say. -/
def skeleton (program : String) : Option (List Lexeme) :=
  (lex program).map (·.map Lexeme.bare)

theorem scan_append (p : Place) (s t : List Char) :
    scan p (s ++ t) = (scan p s).bind fun (q, before) =>
      (scan q t).map fun (r, behind) => (r, before ++ behind) := by
  induction s generalizing p with
  | nil => simp [scan]
  | cons c s ih =>
    simp only [List.cons_append, scan, ih]
    cases step p c with
    | none => rfl
    | some x =>
      simp only [Option.bind_eq_bind, Option.bind_some]
      cases scan x.1 s with
      | none => rfl
      | some y => cases ht : scan y.1 t <;> simp [ht]

theorem scan_append_of_eq {p q r : Place} {s t : List Char} {before behind : List Lexeme}
    (hs : scan p s = some (q, before)) (ht : scan q t = some (r, behind)) :
    scan p (s ++ t) = some (r, before ++ behind) := by
  simp only [scan_append, hs, ht, Option.bind_some, Option.map_some]

/-- Characters that neither close a literal nor start an escape are taken as they are. -/
theorem scan_inside {quote : Char} {s : List Char}
    (hs : ∀ c ∈ s, c ≠ quote ∧ c ≠ '\\' ∧ endsLine c = false) (formatted : Bool)
    (body : List Char) :
    scan (.inside formatted quote body) s =
      some (.inside formatted quote (s.reverse ++ body), []) := by
  induction s generalizing body with
  | nil => rfl
  | cons c s ih =>
    obtain ⟨hq, hb, he⟩ := hs c List.mem_cons_self
    have hr := ih (fun d hd => hs d (List.mem_cons_of_mem c hd)) (c :: body)
    simp [scan, step, hq, hb, he, hr]

theorem scan_comment {s : List Char} (hs : ∀ c ∈ s, endsLine c = false) (text : List Char) :
    scan (.comment text) s = some (.comment (s.reverse ++ text), []) := by
  induction s generalizing text with
  | nil => rfl
  | cons c s ih =>
    have hc := hs c List.mem_cons_self
    simp only [endsLine, Bool.or_eq_false_iff] at hc
    have hr := ih (fun d hd => hs d (List.mem_cons_of_mem c hd)) (c :: text)
    simp [scan, step, hc, hr]

def isCodeChar (c : Char) : Bool :=
  !isQuote c && !endsLine c && c != '#' && c != '\\'

theorem codeStep_of_isCodeChar {c : Char} (h : isCodeChar c = true) (word : List Char) :
    codeStep word c = if isWordChar c then some (.code (c :: word), [])
      else some (.code [], wordLexemes word ++ [.mark c]) := by
  simp only [isCodeChar, endsLine, Bool.and_eq_true, Bool.not_eq_true', Bool.or_eq_false_iff,
    bne_iff_ne, ne_eq, beq_eq_false_iff_ne] at h
  simp [codeStep, h]

/-- Code ends in a word or, behind a character that belongs to none, between words. -/
theorem scan_code {s : List Char} (hs : s.all isCodeChar = true) (word : List Char) :
    ∃ rest lexemes, scan (.code word) s = some (.code rest, lexemes) ∧
      (s.getLast?.any (!isWordChar ·) = true → rest = []) := by
  induction s generalizing word with
  | nil => exact ⟨word, [], rfl, by simp⟩
  | cons c s ih =>
    simp only [List.all_cons, Bool.and_eq_true] at hs
    obtain ⟨hc, hs⟩ := hs
    have hstep := codeStep_of_isCodeChar hc word
    cases hw : isWordChar c with
    | true =>
      obtain ⟨rest, lexemes, hscan, hlast⟩ := ih hs (c :: word)
      refine ⟨rest, lexemes, by simp [scan, step, hstep, hw, hscan], ?_⟩
      cases s with
      | nil => simp [hw]
      | cons d s => simpa using hlast
    | false =>
      obtain ⟨rest, lexemes, hscan, hlast⟩ := ih hs []
      refine ⟨rest, wordLexemes word ++ [.mark c] ++ lexemes,
        by simp [scan, step, hstep, hw, hscan], ?_⟩
      cases s with
      | nil => simp_all [scan]
      | cons d s => simpa using hlast

theorem scan_mark {c : Char} (hc : isCodeChar c = true) (hw : isWordChar c = false)
    (word : List Char) :
    scan (.code word) [c] = some (.code [], wordLexemes word ++ [.mark c]) := by
  simp [scan, step, codeStep_of_isCodeChar hc, hw]

theorem scan_closed {s : List Char} {c : Char} (hc : isQuote c = false) :
    scan .closed (c :: s) = scan (.code []) (c :: s) := by
  simp [scan, step, hc]

theorem scan_lineEnd (word : List Char) :
    scan (.code word) ['\n'] = some (.code [], wordLexemes word ++ [.lineEnd]) := by
  simp [scan, step, codeStep, isWordChar, isQuote]

end PageHarvest.Python
