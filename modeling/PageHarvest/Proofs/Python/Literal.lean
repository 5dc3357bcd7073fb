import PageHarvest.FieldId

namespace PageHarvest.Python

def isQuote (c : Char) : Bool :=
  c == '"' || c == '\''

def endsLine (c : Char) : Bool :=
  c == '\n' || c == '\r'

def escaped? : Char → Option Char
  | '\\' => some '\\'
  | '\'' => some '\''
  | '"' => some '"'
  | 'n' => some '\n'
  | 'r' => some '\r'
  | 't' => some '\t'
  | _ => none

/--
What a literal denotes from here up to the quote that closes it, and the text behind that quote. A
line may not end inside of it, and no program holds a null character.
-/
def readBody (quote : Char) : List Char → Option (List Char × List Char)
  | [] => none
  | '\\' :: 'x' :: high :: low :: rest => do
    let high ← hexValue? high
    let low ← hexValue? low
    let (s, rest) ← readBody quote rest
    return (Char.ofNat (16 * high.val + low.val) :: s, rest)
  | '\\' :: c :: rest => do
    let c ← escaped? c
    let (s, rest) ← readBody quote rest
    return (c :: s, rest)
  | c :: rest =>
    if c = quote then some ([], rest)
    else if endsLine c || c == '\\' || c == '\x00' then none
    else do
      let (s, rest) ← readBody quote rest
      return (c :: s, rest)

/--
What the literal at the start of a text denotes, and the text behind it. Three quotes in a row would
open a literal of many lines, and escapes with a meaning that is not known here are refused.
-/
def readLiteral : List Char → Option (List Char × List Char)
  | [] => none
  | quote :: rest =>
    if !isQuote quote || [quote, quote].isPrefixOf rest then none else readBody quote rest

theorem length_of_readBody {quote : Char} {s value rest : List Char}
    (h : readBody quote s = some (value, rest)) : rest.length < s.length := by
  fun_induction readBody quote s generalizing value rest with
  | case1 => cases h
  | case2 high low tail ih =>
    simp only [Option.bind_eq_bind, Option.bind_eq_some_iff] at h
    obtain ⟨_, _, _, _, ⟨_, left⟩, hr, he⟩ := h
    cases he
    have := ih hr
    simp only [List.length_cons]
    omega
  | case3 c tail _ ih =>
    simp only [Option.bind_eq_bind, Option.bind_eq_some_iff] at h
    obtain ⟨_, _, ⟨_, left⟩, hr, he⟩ := h
    cases he
    have := ih hr
    simp only [List.length_cons]
    omega
  | case4 =>
    cases h
    simp
  | case5 => cases h
  | case6 c tail _ _ _ _ ih =>
    simp only [Option.bind_eq_bind, Option.bind_eq_some_iff] at h
    obtain ⟨⟨_, left⟩, hr, he⟩ := h
    cases he
    have := ih hr
    simp only [List.length_cons]
    omega

theorem length_of_readLiteral {s value rest : List Char}
    (h : readLiteral s = some (value, rest)) : rest.length < s.length := by
  cases s with
  | nil => cases h
  | cons quote tail =>
    simp only [readLiteral] at h
    split at h
    · cases h
    · have := length_of_readBody h
      simp only [List.length_cons]
      omega

def skipBlanks (s : List Char) : List Char :=
  s.dropWhile (· == ' ')

/--
The items of a list from behind its bracket or a comma, and the text behind the list. A second
literal right behind an item would be part of that item, and is refused.
-/
def readItems (s : List Char) : Option (List (List Char) × List Char) :=
  match _hs : skipBlanks s with
  | ']' :: rest => some ([], rest)
  | start =>
    match _hl : readLiteral start with
    | none => none
    | some (item, behind) =>
      match _hb : skipBlanks behind with
      | ']' :: rest => some ([item], rest)
      | ',' :: rest => do
        let (items, rest) ← readItems rest
        return (item :: items, rest)
      | _ => none
termination_by s.length
decreasing_by
  have h1 : (skipBlanks s).length ≤ s.length := (List.dropWhile_suffix _).length_le
  have h2 : (skipBlanks behind).length ≤ behind.length := (List.dropWhile_suffix _).length_le
  have h3 := length_of_readLiteral _hl
  rw [_hs] at h1
  rw [_hb, List.length_cons] at h2
  omega

def readList : List Char → Option (List (List Char) × List Char)
  | '[' :: rest => readItems rest
  | _ => none

end PageHarvest.Python
