import PageHarvest.Css.Fault
import PageHarvest.Css.Selector

namespace PageHarvest.Css

/-- Names that are compared without regard to the case of ASCII letters. -/
def lowered (name : String) : String :=
  String.ofList (name.toList.map Char.toLower)

/-- Attributes of HTML whose values are compared without regard to case. -/
def caselessAttributes : List String :=
  ["accept", "accept-charset", "align", "alink", "axis", "bgcolor", "charset", "checked", "clear",
   "codetype", "color", "compact", "declare", "defer", "dir", "direction", "disabled", "enctype",
   "face", "frame", "hreflang", "http-equiv", "lang", "language", "link", "media", "method",
   "multiple", "nohref", "noresize", "noshade", "nowrap", "readonly", "rel", "rev", "rules",
   "scope", "scrolling", "selected", "shape", "target", "text", "type", "valign", "valuetype",
   "vlink"]

def skipBlank (ts : List Token) : List Token :=
  ts.dropWhile Token.isBlank

def checkEnd (ts : List Token) : Except Fault Unit :=
  match skipBlank ts with
  | [] => .ok ()
  | t :: _ => .error (.unexpected t)

def readLocalName : List Token → Except Fault (String × List Token)
  | .ident name :: ts => .ok (name, ts)
  | t :: _ => .error (.localNameExpected t)
  | [] => .error .endOfText

def readAttributeName : List Token → Except Fault ((String × Bool) × List Token)
  | .ident name :: .delim '|' :: _ => .error (.unknownNamespace name)
  | .ident name :: ts => .ok ((name, false), ts)
  | .delim '*' :: .delim '|' :: ts => do
    let (name, rest) ← readLocalName ts
    return ((name, true), rest)
  | .delim '*' :: t :: _ => .error (.barExpected t)
  | [.delim '*'] => .error .endOfText
  | .delim '|' :: ts => do
    let (name, rest) ← readLocalName ts
    return ((name, false), rest)
  | t :: _ => .error (.attributeNameExpected t)
  | [] => .error .endOfText

def comparison? : Token → Option Comparison
  | .delim '=' => some .equal
  | .includes => some .includesWord
  | .dashes => some .equalOrDash
  | .begins => some .startsWith
  | .ends => some .endsWith
  | .holds => some .contains
  | _ => none

def readAttributeValue (ts : List Token) : Except Fault (String × List Token) :=
  match skipBlank ts with
  | .ident value :: rest | .quoted value :: rest => .ok (value, rest)
  | t :: _ => .error (.attributeValueExpected t)
  | [] => .error .endOfText

/-- The letter that says whether case counts. Without one it depends on the attribute. -/
def readLetterCase (name : String) (anyNamespace : Bool) (ts : List Token) :
    Except Fault (LetterCase × List Token) :=
  match skipBlank ts with
  | [] =>
    let caseless := !anyNamespace && caselessAttributes.contains (lowered name)
    .ok (if caseless then .ignoredInHtml else .exact, [])
  | .ident flag :: rest =>
    if lowered flag == "i" then .ok (.ignored, rest)
    else if lowered flag == "s" then .ok (.exact, rest)
    else .error (.unexpected (.ident flag))
  | t :: _ => .error (.unexpected t)

def readAttributeTest (ts : List Token) : Except Fault AttributeTest := do
  let ((name, anyNamespace), afterName) ← readAttributeName (skipBlank ts)
  match skipBlank afterName with
  | [] => return ⟨name, anyNamespace, none⟩
  | t :: afterOperator =>
    match comparison? t with
    | none => .error (.attributeOperatorExpected t)
    | some comparison =>
      let (value, afterValue) ← readAttributeValue afterOperator
      let (letterCase, rest) ← readLetterCase name anyNamespace afterValue
      checkEnd rest
      return ⟨name, anyNamespace, some ⟨comparison, value, letterCase⟩⟩

def dashedOffset? (name : List Char) : Option Int :=
  match name with
  | n :: '-' :: digits =>
    if n.toLower == 'n' && !digits.isEmpty && digits.all Char.isDigit then
      let value := digits.foldl (fun sum d => 10 * sum + (d.toNat - '0'.toNat)) 0
      some (max (-2147483648) (-(value : Int)))
    else none
  | _ => none

def readUnsignedOffset (step sign : Int) (ts : List Token) : Except Fault (Places × List Token) :=
  match skipBlank ts with
  | .number ⟨signed, bits, whole⟩ :: rest =>
    match signed, whole with
    | false, some b => .ok (⟨step, sign * b⟩, rest)
    | _, _ => .error (.unexpected (.number ⟨signed, bits, whole⟩))
  | t :: _ => .error (.unexpected t)
  | [] => .error .endOfText

def readOffset (step : Int) (ts : List Token) : Except Fault (Places × List Token) :=
  match skipBlank ts with
  | .delim '+' :: rest => readUnsignedOffset step 1 rest
  | .delim '-' :: rest => readUnsignedOffset step (-1) rest
  | .number ⟨true, _, some b⟩ :: rest => .ok (⟨step, b⟩, rest)
  | _ => .ok (⟨step, 0⟩, ts)

/-- Goes on behind a step whose last letters are `name`: `n`, `n-` or `n-3`. -/
def readPlacesFrom (step : Int) (name whole : String) (ts : List Token) :
    Except Fault (Places × List Token) :=
  if lowered name == "n" then readOffset step ts
  else if lowered name == "n-" then readUnsignedOffset step (-1) ts
  else match dashedOffset? name.toList with
    | some b => .ok (⟨step, b⟩, ts)
    | none => .error (.unexpected (.ident whole))

def readPlaces (ts : List Token) : Except Fault (Places × List Token) :=
  match skipBlank ts with
  | .number ⟨_, _, some b⟩ :: rest => .ok (⟨0, b⟩, rest)
  | .dimension ⟨_, _, some a⟩ unit :: rest => readPlacesFrom a unit unit rest
  | .ident name :: rest =>
    if lowered name == "even" then .ok (⟨2, 0⟩, rest)
    else if lowered name == "odd" then .ok (⟨2, 1⟩, rest)
    else match name.toList with
      | '-' :: tail => readPlacesFrom (-1) (String.ofList tail) name rest
      | _ => readPlacesFrom 1 name name rest
  | .delim '+' :: .ident name :: rest => readPlacesFrom 1 name name rest
  | .delim '+' :: t :: _ => .error (.unexpected t)
  | [.delim '+'] => .error .endOfText
  | t :: _ => .error (.unexpected t)
  | [] => .error .endOfText

/-- What stands in the parentheses of a pseudo-class that counts siblings. -/
def readPlacesOnly (ts : List Token) : Except Fault Places := do
  let (places, rest) ← readPlaces ts
  checkEnd rest
  return places

end PageHarvest.Css
