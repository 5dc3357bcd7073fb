import PageHarvest.Attrs.Scan

namespace PageHarvest

namespace AttrPair

def named (pair : AttrPair) (name : String) : Bool :=
  pair.key.toList.map Char.toLower == name.toList

/-- Puts a backslash before each double quote. -/
def escapeQuotes : List Char → List Char
  | [] => []
  | '"' :: r => '\\' :: '"' :: escapeQuotes r
  | c :: r => c :: escapeQuotes r

def idPart (pair : AttrPair) : Except AttrFault (List Char) :=
  match Text.words pair.value.toList with
  | first :: _ => .ok ('#' :: first)
  | [] => .error (.emptyValue pair.key)

def classPart (pair : AttrPair) : List Char :=
  (Text.words pair.value.toList).flatMap ('.' :: ·)

def testPart (pair : AttrPair) : List Char :=
  '[' :: pair.key.toList ++ ['=', '"'] ++ escapeQuotes pair.value.toList ++ ['"', ']']

def selectorPart (pair : AttrPair) : Except AttrFault (List Char) :=
  if pair.named "id" then pair.idPart
  else if pair.named "class" then .ok pair.classPart
  else .ok pair.testPart

end AttrPair

/-- A selector that is valid and matches nothing. It stands for a description that has none. -/
def unmatchable : String := ":not(*)"

def trySelector (tag attrs : String) : Except AttrFault String :=
  if Text.allBlank attrs then .ok (Text.trimmed tag)
  else do
    let pairs ← tokenizeAttrs attrs
    let parts ← pairs.mapM AttrPair.selectorPart
    return String.ofList (Text.trim tag.toList ++ parts.flatten)

/-- The selector of a tag and an attribute text, `unmatchable` if the text is at fault. -/
def selectorOf (tag attrs : String) : String :=
  match trySelector tag attrs with
  | .ok selector => selector
  | .error _ => unmatchable

end PageHarvest
