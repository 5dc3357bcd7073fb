import PageHarvest.Html.Scan

namespace PageHarvest.Html

/-- Whether the text goes on with `mark`, with `name` in any case, and with the end of a name. -/
def startsWithTag (mark name : String) (s : List Char) : Bool :=
  let r := s.drop mark.length
  mark.toList.isPrefixOf s && startsWithWord name r &&
    match r.drop name.length with
    | c :: _ => !isTagNameChar c
    | [] => false

def readPlainText (name : String) : List Char → List Char × List Char
  | [] => ([], [])
  | c :: r =>
    if startsWithTag "</" name (c :: r) then ([], c :: r)
    else (c :: (readPlainText name r).1, (readPlainText name r).2)

/-- How deep a script hides its text. -/
inductive ScriptDepth
  | bare
  | commented
  /-- In a script inside a comment, where an end tag ends that script only. -/
  | nested
deriving DecidableEq, Repr

def readScriptText (depth : ScriptDepth) : List Char → List Char × List Char
  | [] => ([], [])
  | c :: r =>
    let goOn (depth : ScriptDepth) := (c :: (readScriptText depth r).1, (readScriptText depth r).2)
    let closing := startsWithTag "</" "script" (c :: r)
    let unhidden := "-->".toList.isPrefixOf (c :: r)
    match depth with
    | .bare =>
      if closing then ([], c :: r)
      else if "<!--".toList.isPrefixOf (c :: r) then goOn .commented
      else goOn .bare
    | .commented =>
      if closing then ([], c :: r)
      else if unhidden then goOn .bare
      else if startsWithTag "<" "script" (c :: r) then goOn .nested
      else goOn .commented
    | .nested =>
      if unhidden then goOn .bare
      else if closing then goOn .commented
      else goOn .nested

/-- The text of an element named `name`, and the text from its end tag on. -/
def readRawText (kind : RawKind) (name : String) (s : List Char) : List Char × List Char :=
  match kind with
  | .plain => ((readPlainText name s).1.map visible, (readPlainText name s).2)
  | .escapable =>
    (decodeReferences false ((readPlainText name s).1.map visible), (readPlainText name s).2)
  | .script => ((readScriptText .bare s).1.map visible, (readScriptText .bare s).2)

def skipEndTag (s : List Char) : List Char :=
  match s with
  | '<' :: '/' :: r =>
    match readTag? r with
    | some (_, rest) => rest
    | none => []
  | _ => []

theorem length_readRawText_le (kind : RawKind) (name : String) (s : List Char) :
    (readRawText kind name s).2.length ≤ s.length := by
  have hp (s : List Char) : (readPlainText name s).2.length ≤ s.length := by
    induction s with
    | nil => simp [readPlainText]
    | cons c r ih =>
      unfold readPlainText
      split <;> simp only [List.length_cons] <;> omega
  have hs (depth : ScriptDepth) (s : List Char) :
      (readScriptText depth s).2.length ≤ s.length := by
    induction s generalizing depth with
    | nil => simp [readScriptText]
    | cons c r ih =>
      have h1 := ih .bare
      have h2 := ih .commented
      have h3 := ih .nested
      unfold readScriptText
      simp only
      cases depth <;> simp only <;> repeat' split
      all_goals simp only [List.length_cons]
      all_goals omega
  cases kind with
  | plain => exact hp s
  | escapable => exact hp s
  | script => exact hs .bare s

theorem length_skipEndTag_le (s : List Char) : (skipEndTag s).length ≤ s.length := by
  unfold skipEndTag
  split
  · split
    · rename_i h
      have := length_of_readTag? h
      simp only [List.length_cons]
      omega
    · simp
  · simp

end PageHarvest.Html
