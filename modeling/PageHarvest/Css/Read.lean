import PageHarvest.Css.Attribute
import PageHarvest.Css.Component
import PageHarvest.Css.Scan

namespace PageHarvest.Css

/-- Where a list of selectors stands. -/
structure Mode where
  /-- Each selector starts from the element tested. -/
  relative : Bool := false
  /-- A faulty selector matches nothing instead of spoiling the list. -/
  forgiving : Bool := false
  /-- The list is an argument of a pseudo-class. -/
  nested : Bool := false
  /-- The list is, at some depth, an argument of `:has`. -/
  withinHas : Bool := false
  /-- There is one selector and no list, so that a comma is like any other token. -/
  single : Bool := false
  /-- The selectors are, at some depth, an argument of `:host`, where no combinator may stand. -/
  withinHost : Bool := false
deriving DecidableEq, Repr

def Mode.argument (mode : Mode) : Mode :=
  { mode with relative := false, forgiving := false, nested := true, single := false }

/-- A component together with the ways to read what it holds. -/
structure Reading where
  token : Token
  faulty? : Option Token
  /-- The components inside, each by its first token. -/
  content : List Token
  selectors : Mode → Except Fault SelectorList

abbrev Step (α : Type) := Except (Fault × List Reading) (α × List Reading)

def skipBlanks (rs : List Reading) : List Reading :=
  rs.dropWhile (·.token.isBlank)

/-- The type behind a bar. Where the text ends there is none. -/
def readLocalType (before : List Simple) : List Reading → Step (List Simple)
  | [] => .ok ([], [])
  | x :: rs =>
    match x.token with
    | .delim '*' => .ok (before ++ [.anyType], rs)
    | .ident name => .ok (before ++ [.type name], rs)
    | t => .error (.typeNameExpected t, rs)

def readType : List Reading → Step (List Simple)
  | [] => .ok ([], [])
  | x :: rs =>
    match x.token, rs with
    | .ident name, ⟨.delim '|', _, _, _⟩ :: rest => .error (.unknownNamespace name, rest)
    | .ident name, _ => .ok ([.type name], rs)
    | .delim '*', ⟨.delim '|', _, _, _⟩ :: rest => readLocalType [] rest
    | .delim '*', _ => .ok ([.anyType], rs)
    | .delim '|', _ => readLocalType [.noNamespace] rs
    | _, _ => .ok ([], x :: rs)

def pseudoElements : List String :=
  ["before", "after", "first-line", "first-letter"]

def plainPseudo? (name : String) : Option Simple :=
  let first : Places := ⟨0, 1⟩
  match name with
  | "root" => some .root
  | "empty" => some .empty
  | "scope" => some .scope
  | "first-child" => some (.place ⟨false, false⟩ first)
  | "last-child" => some (.place ⟨false, true⟩ first)
  | "only-child" => some (.only false)
  | "first-of-type" => some (.place ⟨true, false⟩ first)
  | "last-of-type" => some (.place ⟨true, true⟩ first)
  | "only-of-type" => some (.only true)
  | _ => none

def counting? (name : String) : Option Counting :=
  match name with
  | "nth-child" => some ⟨false, false⟩
  | "nth-last-child" => some ⟨false, true⟩
  | "nth-of-type" => some ⟨true, false⟩
  | "nth-last-of-type" => some ⟨true, true⟩
  | _ => none

def readCall (mode : Mode) (name : String) (x : Reading) : Except Fault Simple :=
  match counting? (lowered name) with
  | some counting => (readPlacesOnly x.content).map (.place counting)
  | none =>
    match lowered name with
    | "is" | "where" => (x.selectors { mode.argument with forgiving := true }).map .any
    | "not" => (x.selectors mode.argument).map .not
    | "has" =>
      if mode.withinHas then .error .misplaced
      else (x.selectors { mode.argument with relative := true, withinHas := true }).map .has
    | "host" =>
      (x.selectors { mode.argument with single := true, withinHost := true }).map fun _ => .never
    | _ => .error (.unknownPseudo name)

def readPseudo (mode : Mode) (double : Bool) (x : Reading) : Except Fault Simple :=
  let isElement (name : String) := double || pseudoElements.contains (lowered name)
  let element (name : String) : Fault := if mode.nested then .misplaced else .unknownPseudo name
  match x.token with
  | .ident name =>
    if isElement name then .error (element name)
    else match plainPseudo? (lowered name) with
      | some simple => .ok simple
      | none => .error (.unknownPseudo name)
  | .function name =>
    if isElement name then .error (element name) else readCall mode name x
  | t => .error (.pseudoNameExpected t)

def behind {α : Type} (rest : List Reading) : Except Fault α → Step α
  | .ok a => .ok (a, rest)
  | .error fault => .error (fault, rest)

def readSimple (mode : Mode) : List Reading → Step (Option Simple)
  | [] => .ok (none, [])
  | x :: rs =>
    match x.token, rs with
    | .idHash name, _ => .ok (some (.id name), rs)
    | .delim '.', [] => .error (.endOfText, [])
    | .delim '.', y :: rest =>
      match y.token with
      | .ident name => .ok (some (.class name), rest)
      | t => .error (.classNameExpected t, rest)
    | .openSquare, _ => behind rs ((readAttributeTest x.content).map (some ∘ .attribute))
    | .colon, [] => .error (.endOfText, [])
    | .colon, ⟨.colon, _, _, _⟩ :: [] => .error (.endOfText, [])
    | .colon, ⟨.colon, _, _, _⟩ :: y :: rest =>
      behind rest ((readPseudo mode true y).map some)
    | .colon, y :: rest => behind rest ((readPseudo mode false y).map some)
    | _, _ => .ok (none, x :: rs)

theorem length_of_readLocalType {before parts : List Simple} {rs rest : List Reading}
    (h : readLocalType before rs = .ok (parts, rest)) : rest.length ≤ rs.length := by
  unfold readLocalType at h
  split at h
  · cases h
    simp
  · split at h <;> cases h
    all_goals simp only [List.length_cons]
    all_goals omega

theorem length_of_readType {parts : List Simple} {rs rest : List Reading}
    (h : readType rs = .ok (parts, rest)) : rest.length ≤ rs.length := by
  unfold readType at h
  split at h
  · simp_all
  · split at h
    · simp at h
    · simp_all
    · have := length_of_readLocalType h
      simp only [List.length_cons]
      omega
    · simp_all
    · have := length_of_readLocalType h
      simp only [List.length_cons]
      omega
    · simp_all

theorem rest_of_behind {α : Type} {left rest : List Reading} {r : Except Fault α} {a : α}
    (h : behind left r = .ok (a, rest)) : rest = left := by
  cases r <;> simp_all [behind]

theorem length_of_readSimple {mode : Mode} {simple : Simple} {rs rest : List Reading}
    (h : readSimple mode rs = .ok (some simple, rest)) : rest.length < rs.length := by
  unfold readSimple at h
  split at h
  · simp at h
  · split at h
    · simp_all
    · simp at h
    · split at h <;> cases h
      simp only [List.length_cons]
      omega
    · simp [rest_of_behind h]
    · simp at h
    · simp at h
    · simp only [rest_of_behind h, List.length_cons]
      omega
    · simp only [rest_of_behind h, List.length_cons]
      omega
    · simp at h

theorem behind_map_ne_none {α β : Type} {left rest : List Reading} {r : Except Fault α}
    {f : α → β} : behind left (r.map (some ∘ f)) ≠ .ok (none, rest) := by
  cases r <;> simp [behind, Except.map]

theorem rest_of_readSimple_none {mode : Mode} {rs rest : List Reading}
    (h : readSimple mode rs = .ok (none, rest)) : rest = rs := by
  unfold readSimple at h
  split at h
  · simp_all
  · split at h
    · simp at h
    · simp at h
    · split at h <;> simp at h
    · exact (behind_map_ne_none h).elim
    · simp at h
    · simp at h
    · exact (behind_map_ne_none (f := id) h).elim
    · exact (behind_map_ne_none (f := id) h).elim
    · simp_all

/-- The conditions that follow, as long as they hang together. -/
def readSimples (mode : Mode) (rs : List Reading) : Step (List Simple) :=
  match _h : readSimple mode rs with
  | .error e => .error e
  | .ok (none, rest) => .ok ([], rest)
  | .ok (some simple, rest) =>
    match readSimples mode rest with
    | .error e => .error e
    | .ok (simples, rest) => .ok (simple :: simples, rest)
termination_by rs.length
decreasing_by exact length_of_readSimple _h

/-- A compound without combinators, empty if none stands here. -/
def readCompound (mode : Mode) (rs : List Reading) : Step (List Simple) :=
  match readType (skipBlanks rs) with
  | .error e => .error e
  | .ok (types, rest) =>
    match readSimples mode rest with
    | .error e => .error e
    | .ok (simples, rest) => .ok (types ++ simples, rest)

/-- A combinator, if one stands here. `blank` says whether a blank has been passed. -/
def readCombinator (blank : Bool) : List Reading → Option Combinator × List Reading
  | [] => (none, [])
  | x :: rs =>
    match x.token with
    | .blank _ => readCombinator true rs
    | .delim '>' => (some .child, rs)
    | .delim '+' => (some .nextSibling, rs)
    | .delim '~' => (some .laterSibling, rs)
    | _ => (if blank then some .descendant else none, x :: rs)

theorem length_readCombinator_le (blank : Bool) (rs : List Reading) :
    (readCombinator blank rs).2.length ≤ rs.length := by
  induction rs generalizing blank with
  | nil => simp [readCombinator]
  | cons x rs ih =>
    have := ih true
    unfold readCombinator
    split <;> simp only [List.length_cons] <;> omega

theorem length_of_readCombinator {combinator : Combinator} {rs rest : List Reading}
    (h : readCombinator false rs = (some combinator, rest)) : rest.length < rs.length := by
  cases rs with
  | nil => simp [readCombinator] at h
  | cons x rs =>
    have := length_readCombinator_le true rs
    unfold readCombinator at h
    split at h
    · simp only [h] at this
      simp only [List.length_cons]
      omega
    all_goals simp_all

theorem length_of_readSimples {mode : Mode} {simples : List Simple} {rs rest : List Reading}
    (h : readSimples mode rs = .ok (simples, rest)) : rest.length ≤ rs.length := by
  fun_induction readSimples mode rs generalizing simples rest with
  | case1 => simp at h
  | case2 rs rest' hr =>
    simp only [Except.ok.injEq, Prod.mk.injEq] at h
    simp [← h.2, rest_of_readSimple_none hr]
  | case3 => simp at h
  | case4 rs simple rest' hr simples' rest'' hs ih =>
    have h1 := length_of_readSimple hr
    have h2 := ih hs
    simp only [Except.ok.injEq, Prod.mk.injEq] at h
    rw [← h.2]
    omega

theorem length_of_readCompound {mode : Mode} {parts : List Simple} {rs rest : List Reading}
    (h : readCompound mode rs = .ok (parts, rest)) : rest.length ≤ rs.length := by
  have hs : (skipBlanks rs).length ≤ rs.length := (List.dropWhile_suffix _).length_le
  unfold readCompound at h
  split at h
  · simp at h
  · rename_i ht
    have h1 := length_of_readType ht
    split at h
    · simp at h
    · rename_i hr
      have h2 := length_of_readSimples hr
      simp only [Except.ok.injEq, Prod.mk.injEq] at h
      rw [← h.2]
      omega

def readTail (mode : Mode) (left : Complex) (rs : List Reading) : Step Complex :=
  match _hc : readCombinator false rs with
  | (none, rest) => .ok (left, rest)
  | (some combinator, rest) =>
    if mode.withinHost then .error (.misplaced, rest)
    else
      match _hp : readCompound mode rest with
      | .error e => .error e
      | .ok ([], rest) => .error (.danglingCombinator, rest)
      | .ok (part :: parts, rest) =>
        readTail mode (.combined left combinator (part :: parts)) rest
termination_by rs.length
decreasing_by
  have h1 := length_of_readCombinator _hc
  have h2 := length_of_readCompound _hp
  omega

def readSelector (mode : Mode) (rs : List Reading) : Step Complex :=
  if mode.relative then
    let (combinator, rest) := readCombinator false (skipBlanks rs)
    match readCompound mode rest with
    | .error e => .error e
    | .ok ([], rest) => .error (.danglingCombinator, rest)
    | .ok (parts, rest) =>
      readTail mode (.combined (.compound [.anchor]) (combinator.getD .descendant) parts) rest
  else
    match readCompound mode rs with
    | .error e => .error e
    | .ok ([], rest) => .error (.empty, rest)
    | .ok (parts, rest) => readTail mode (.compound parts) rest

/-- What is left of a selector that is forgiven may hold anything but faulty tokens. -/
def forgive (rest : List Reading) : Except Fault Complex :=
  match rest.findSome? Reading.faulty? with
  | some t => .error (.unexpected t)
  | none => .ok (.compound [.never])

def readAlternative (mode : Mode) (rs : List Reading) : Except Fault Complex :=
  match readSelector mode rs with
  | .error (fault, rest) => if mode.forgiving then forgive rest else .error fault
  | .ok (selector, rest) =>
    match skipBlanks rest with
    | [] => .ok selector
    | x :: _ => if mode.forgiving then forgive rest else .error (.unexpected x.token)

def alternatives : List Reading → List (List Reading)
  | [] => [[]]
  | x :: rs =>
    if x.token = .comma then [] :: alternatives rs
    else match alternatives rs with
      | [] => [[x]]
      | piece :: pieces => (x :: piece) :: pieces

def readList (mode : Mode) (rs : List Reading) : Except Fault SelectorList :=
  (if mode.single then [rs] else alternatives rs).mapM (readAlternative mode)

mutual

def Component.reading : Component → Reading
  | .single t => ⟨t, Component.faulty? (.single t), [], fun _ => .ok []⟩
  | .block t content =>
    ⟨t, Component.firstFaulty? content, content.map Component.token,
      fun mode => readList mode (readings content)⟩

def readings : List Component → List Reading
  | [] => []
  | c :: cs => c.reading :: readings cs

end

/-- The selectors that a text holds, or its first fault from the left. -/
def readSelectors (text : String) : Except Fault SelectorList :=
  readList {} (readings (nest (tokens text.toList)))

end PageHarvest.Css
