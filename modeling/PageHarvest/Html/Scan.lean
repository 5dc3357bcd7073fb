import PageHarvest.Html.Reference
import PageHarvest.Html.Token
import PageHarvest.Text.Basic

namespace PageHarvest.Html

open Css (replacement)

def isGap (c : Char) : Bool :=
  c == '\t' || c == '\n' || c == '\x0c' || c == ' '

/-- Ends lines with a line feed alone and drops a byte order mark at the start. -/
def normalize (s : List Char) : List Char :=
  let rec feeds : List Char → List Char
    | '\r' :: '\n' :: r => '\n' :: feeds r
    | '\r' :: r => '\n' :: feeds r
    | c :: r => c :: feeds r
    | [] => []
  match s with
  | '\ufeff' :: r => feeds r
  | s => feeds s

def visible (c : Char) : Char :=
  if c == '\x00' then replacement else c

def keptName (s : List Char) : String :=
  String.ofList (s.map fun c => (visible c).toLower)

def keptText (s : List Char) : String :=
  String.ofList (s.map visible)

def isTagNameChar (c : Char) : Bool :=
  !isGap c && c != '/' && c != '>'

def isAttributeNameChar (c : Char) : Bool :=
  isTagNameChar c && c != '='

def keptValue (s : List Char) : String :=
  String.ofList (decodeReferences true (s.map visible))

/-- An attribute's value behind the equals sign, and the text behind it; none if it has no end. -/
def readAttributeValue? (s : List Char) : Option (String × List Char) :=
  match s.dropWhile isGap with
  | [] => none
  | c :: r =>
    if c == '"' || c == '\'' then
      match r.dropWhile (· != c) with
      | [] => none
      | _ :: rest => some (keptValue (r.takeWhile (· != c)), rest)
    else
      let inValue (d : Char) := !isGap d && d != '>'
      some (keptValue ((c :: r).takeWhile inValue), (c :: r).dropWhile inValue)

theorem length_of_readAttributeValue? {s rest : List Char} {value : String}
    (h : readAttributeValue? s = some (value, rest)) : rest.length ≤ s.length := by
  have hs := Text.length_dropWhile_le isGap s
  unfold readAttributeValue? at h
  split at h
  · simp at h
  · rename_i c r hr
    simp only [hr, List.length_cons] at hs
    split at h
    · have hq := Text.length_dropWhile_le (· != c) r
      split at h
      · simp at h
      · rename_i hd
        simp only [hd, List.length_cons] at hq
        simp only [Option.some.injEq, Prod.mk.injEq] at h
        rw [← h.2]
        omega
    · have hv := Text.length_dropWhile_le (fun d => !isGap d && d != '>') (c :: r)
      simp only [List.length_cons] at hv
      simp only [Option.some.injEq, Prod.mk.injEq] at h
      rw [← h.2]
      omega

/-- One attribute that starts with `c`, and the text behind it; nothing if the text ends in it. -/
def readAttribute? (c : Char) (s : List Char) : Option (Attribute × List Char) :=
  let name := keptName (c :: s.takeWhile isAttributeNameChar)
  match (s.dropWhile isAttributeNameChar).dropWhile isGap with
  | [] => none
  | '=' :: r => (readAttributeValue? r).map fun (value, rest) => ({ name, value }, rest)
  | r => some ({ name, value := "" }, r)

theorem length_of_readAttribute? {c : Char} {s rest : List Char} {a : Attribute}
    (h : readAttribute? c s = some (a, rest)) : rest.length ≤ s.length := by
  have h1 := Text.length_dropWhile_le isAttributeNameChar s
  have h2 := Text.length_dropWhile_le isGap (s.dropWhile isAttributeNameChar)
  unfold readAttribute? at h
  simp only at h
  split at h
  · simp at h
  · rename_i r hr
    obtain ⟨⟨value, rest'⟩, hv, he⟩ := Option.map_eq_some_iff.1 h
    have h3 := length_of_readAttributeValue? hv
    simp only [Prod.mk.injEq] at he
    simp only [hr, List.length_cons] at h2
    rw [← he.2]
    omega
  · simp only [Option.some.injEq, Prod.mk.injEq] at h
    rw [← h.2]
    omega

/--
The attributes of a tag, whether a slash ends them, and the text behind the tag; nothing if the
text ends in the tag. Of two attributes of one name the first counts.
-/
def readAttributes? (seen : List Attribute) (s : List Char) :
    Option (List Attribute × Bool × List Char) :=
  match _hs : s.dropWhile isGap with
  | [] => none
  | '>' :: r => some (seen, false, r)
  | ['/'] => none
  | '/' :: '>' :: r => some (seen, true, r)
  | '/' :: c :: r => readAttributes? seen (c :: r)
  | c :: r =>
    match _ha : readAttribute? c r with
    | none => none
    | some (a, rest) =>
      if seen.any fun b => b.name == a.name then readAttributes? seen rest
      else readAttributes? (seen ++ [a]) rest
termination_by s.length
decreasing_by
  all_goals
    have h1 := Text.length_dropWhile_le isGap s
    rw [_hs] at h1
    simp only [List.length_cons] at *
  · omega
  · have := length_of_readAttribute? _ha
    omega
  · have := length_of_readAttribute? _ha
    omega

/-- The tag whose name starts here, and the text behind it; nothing if the text ends in it. -/
def readTag? (s : List Char) : Option (Tag × List Char) :=
  (readAttributes? [] (s.dropWhile isTagNameChar)).map fun (attributes, selfClosing, rest) =>
    ({ name := keptName (s.takeWhile isTagNameChar), attributes, selfClosing }, rest)

theorem length_of_readAttributes? {seen attributes : List Attribute} {selfClosing : Bool}
    {s rest : List Char} (h : readAttributes? seen s = some (attributes, selfClosing, rest)) :
    rest.length ≤ s.length := by
  fun_induction readAttributes? seen s with
  | case1 => simp at h
  | case2 seen s r hs =>
    have h1 := Text.length_dropWhile_le isGap s
    simp only [hs, List.length_cons] at h1
    simp only [Option.some.injEq, Prod.mk.injEq] at h
    rw [← h.2.2]
    omega
  | case3 => simp at h
  | case4 seen s r hs =>
    have h1 := Text.length_dropWhile_le isGap s
    simp only [hs, List.length_cons] at h1
    simp only [Option.some.injEq, Prod.mk.injEq] at h
    rw [← h.2.2]
    omega
  | case5 seen s c r _ hs ih =>
    have h1 := Text.length_dropWhile_le isGap s
    simp only [hs, List.length_cons] at h1
    have h2 := ih h
    simp only [List.length_cons] at h2
    omega
  | case6 => simp at h
  | case7 seen s c r _ _ _ _ hs a rest' ha _ ih =>
    have h1 := Text.length_dropWhile_le isGap s
    simp only [hs, List.length_cons] at h1
    have h2 := ih h
    have h3 := length_of_readAttribute? ha
    omega
  | case8 seen s c r _ _ _ _ hs a rest' ha _ ih =>
    have h1 := Text.length_dropWhile_le isGap s
    simp only [hs, List.length_cons] at h1
    have h2 := ih h
    have h3 := length_of_readAttribute? ha
    omega

theorem length_of_readTag? {s rest : List Char} {tag : Tag} (h : readTag? s = some (tag, rest)) :
    rest.length ≤ s.length := by
  obtain ⟨⟨attributes, selfClosing, rest'⟩, ha, he⟩ := Option.map_eq_some_iff.1 h
  have h1 := length_of_readAttributes? ha
  have h2 := Text.length_dropWhile_le isTagNameChar s
  simp only [Prod.mk.injEq] at he
  rw [← he.2]
  omega

def readCommentBody : List Char → List Char × List Char
  | [] => ([], [])
  | '-' :: '-' :: '>' :: r => ([], r)
  | '-' :: '-' :: '!' :: '>' :: r => ([], r)
  | c :: r => (c :: (readCommentBody r).1, (readCommentBody r).2)

/-- A comment that ends as soon as it starts counts too. -/
def readComment : List Char → List Char × List Char
  | '>' :: r => ([], r)
  | '-' :: '>' :: r => ([], r)
  | r => readCommentBody r

theorem length_readComment_le (s : List Char) : (readComment s).2.length ≤ s.length := by
  have hb (s : List Char) : (readCommentBody s).2.length ≤ s.length := by
    fun_induction readCommentBody s <;> simp_all <;> omega
  unfold readComment
  split
  · simp
  · simp only [List.length_cons]
    omega
  · exact hb s

/-- Everything up to the next closing bracket. -/
def readBogusComment (s : List Char) : Token × List Char :=
  (.comment (keptText (s.takeWhile (· != '>'))), (s.dropWhile (· != '>')).drop 1)

def startsWithWord (word : String) (s : List Char) : Bool :=
  word.toList.isPrefixOf ((s.take word.length).map Char.toLower)

/-- An identifier of a document type in quotes: the text, what is left, and whether it is closed. -/
def readQuotedId? (s : List Char) : Option (String × List Char × Bool) :=
  match s with
  | c :: r =>
    if c == '"' || c == '\'' then
      let inside (d : Char) := d != c && d != '>'
      match r.dropWhile inside with
      | d :: rest =>
        some (keptText (r.takeWhile inside), if d == c then rest else d :: rest, d == c)
      | [] => some (keptText (r.takeWhile inside), [], false)
    else none
  | [] => none

/-- The part of a document type behind its name. -/
def Doctype.withIds (d : Doctype) (s : List Char) : Doctype :=
  let broken : Doctype := { d with broken := true }
  if startsWithWord "public" s then
    match readQuotedId? ((s.drop 6).dropWhile isGap) with
    | none => broken
    | some (text, _, false) => { broken with publicId := some text }
    | some (text, rest, true) =>
      let d := { d with publicId := some text }
      match rest.dropWhile isGap with
      | '>' :: _ => d
      | rest =>
        match readQuotedId? rest with
        | none => { d with broken := true }
        | some (text, _, closed) => { d with systemId := some text, broken := !closed }
  else if startsWithWord "system" s then
    match readQuotedId? ((s.drop 6).dropWhile isGap) with
    | none => broken
    | some (text, _, closed) => { d with systemId := some text, broken := !closed }
  else broken

/-- The text behind a document type: its closing bracket may also stand in quotes. -/
def readDoctype (s : List Char) : Token × List Char :=
  let inside := s.takeWhile (· != '>')
  let rest := (s.dropWhile (· != '>')).drop 1
  let closed := inside.length < s.length
  let named := inside.dropWhile isGap
  let afterName := (named.dropWhile (!isGap ·)).dropWhile isGap
  let d : Doctype :=
    match named with
    | [] => { broken := true }
    | _ => { name := some (keptName (named.takeWhile (!isGap ·))) }
  let d := if afterName.isEmpty then d else d.withIds (afterName ++ ['>'])
  (.doctype { d with broken := d.broken || !closed }, rest)

def cdataMark : List Char := ['[', 'C', 'D', 'A', 'T', 'A', '[']

def readSection : List Char → List Char × List Char
  | [] => ([], [])
  | ']' :: ']' :: '>' :: r => ([], r)
  | c :: r => (c :: (readSection r).1, (readSection r).2)

def readDeclaration (foreign : Bool) (s : List Char) : Token × List Char :=
  match s with
  | '-' :: '-' :: r => (.comment (keptText (readComment r).1), (readComment r).2)
  | _ =>
    if startsWithWord "doctype" s then readDoctype (s.drop 7)
    else if foreign && cdataMark.isPrefixOf s then
      let (run, rest) := readSection (s.drop 7)
      (.chars run, rest)
    else readBogusComment s

/-- What stands behind an opening bracket, if that is no text. -/
def readMarkup? (foreign : Bool) (s : List Char) : Option (Option Token × List Char) :=
  match s with
  | '!' :: r => some (some (readDeclaration foreign r).1, (readDeclaration foreign r).2)
  | '?' :: _ => some (some (readBogusComment s).1, (readBogusComment s).2)
  | '/' :: '>' :: r => some (none, r)
  | '/' :: c :: r =>
    if c.isAlpha then
      match readTag? (c :: r) with
      | some (tag, rest) => some (some (.closing tag.name), rest)
      | none => some (none, [])
    else some (some (readBogusComment (c :: r)).1, (readBogusComment (c :: r)).2)
  | c :: r =>
    if c.isAlpha then
      match readTag? (c :: r) with
      | some (tag, rest) => some (some (.opening tag), rest)
      | none => some (none, [])
    else none
  | [] => none

def isPlain (c : Char) : Bool :=
  c != '<' && c != '&'

/--
The token that starts with `c` and goes on with `s`, and the text behind it. `foreign` says whether
sections without tags may stand here.
-/
def readToken (foreign : Bool) (c : Char) (s : List Char) : Option Token × List Char :=
  if c == '<' then (readMarkup? foreign s).getD (some (.chars ['<']), s)
  else if c == '&' then
    match readReference? false s with
    | some (text, rest) => (some (.chars text), rest)
    | none => (some (.chars ['&']), s)
  else (some (.chars (c :: s.takeWhile isPlain)), s.dropWhile isPlain)

theorem length_readBogusComment_le (s : List Char) : (readBogusComment s).2.length ≤ s.length := by
  have := Text.length_dropWhile_le (· != '>') s
  simp only [readBogusComment, List.length_drop]
  omega

theorem length_readDeclaration_le (foreign : Bool) (s : List Char) :
    (readDeclaration foreign s).2.length ≤ s.length := by
  have hsec (s : List Char) : (readSection s).2.length ≤ s.length := by
    fun_induction readSection s <;> simp_all <;> omega
  unfold readDeclaration
  split
  · rename_i r
    have := length_readComment_le r
    simp only [List.length_cons]
    omega
  · split
    · have := Text.length_dropWhile_le (· != '>') (s.drop 7)
      simp only [readDoctype, List.length_drop] at *
      omega
    · split
      · have := hsec (s.drop 7)
        simp only [List.length_drop] at *
        omega
      · exact length_readBogusComment_le s

theorem length_of_readMarkup? {foreign : Bool} {s rest : List Char} {token? : Option Token}
    (h : readMarkup? foreign s = some (token?, rest)) : rest.length ≤ s.length := by
  unfold readMarkup? at h
  split at h
  · rename_i r
    have := length_readDeclaration_le foreign r
    simp only [Option.some.injEq, Prod.mk.injEq] at h
    rw [← h.2, List.length_cons]
    omega
  · simp only [Option.some.injEq, Prod.mk.injEq] at h
    rw [← h.2]
    exact length_readBogusComment_le _
  · simp only [Option.some.injEq, Prod.mk.injEq] at h
    rw [← h.2]
    simp only [List.length_cons]
    omega
  · rename_i c r _
    have hb := length_readBogusComment_le (c :: r)
    split at h
    · split at h
      · rename_i ht
        have := length_of_readTag? ht
        simp only [Option.some.injEq, Prod.mk.injEq] at h
        rw [← h.2, List.length_cons]
        omega
      · simp only [Option.some.injEq, Prod.mk.injEq] at h
        simp [← h.2]
    · simp only [Option.some.injEq, Prod.mk.injEq] at h
      rw [← h.2, List.length_cons]
      omega
  · split at h
    · split at h
      · rename_i ht
        have := length_of_readTag? ht
        simp only [Option.some.injEq, Prod.mk.injEq] at h
        rw [← h.2]
        exact this
      · simp only [Option.some.injEq, Prod.mk.injEq] at h
        simp [← h.2]
    · simp at h
  · simp at h

theorem length_readToken_le (foreign : Bool) (c : Char) (s : List Char) :
    (readToken foreign c s).2.length ≤ s.length := by
  unfold readToken
  split
  · cases hm : readMarkup? foreign s with
    | none => simp
    | some p => exact @length_of_readMarkup? _ _ p.2 p.1 hm
  · split
    · split
      · rename_i hr
        exact length_of_readReference? hr
      · simp
    · exact Text.length_dropWhile_le _ _

end PageHarvest.Html
