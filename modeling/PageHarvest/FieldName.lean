import PageHarvest.Text.Basic

namespace PageHarvest

inductive NameFault
  | blank (name : String)
  | unsupported (name : String)
  | repeated (name : String)
deriving DecidableEq, Repr

namespace NameFault

def name : NameFault → String
  | blank n => n
  | unsupported n => n
  | repeated n => n

def reason : NameFault → String
  | blank _ => "Field name cannot be empty or whitespace-only"
  | unsupported _ => "Field name may only contain letters, digits and underscores"
  | repeated _ => "Field name is used more than once"

def message : NameFault → String
  | repeated n => s!"Field name '{n}' is used more than once"
  | fault => "Invalid name '" ++ fault.name ++ "': " ++ fault.reason

end NameFault

namespace FieldName

def isNameChar (c : Char) : Bool :=
  c.isAlphanum || c == '_'

def isSafe (name : String) : Bool :=
  !name.toList.isEmpty && name.toList.all isNameChar

/-- Writes one underscore for each maximal run of other characters. -/
def bridgeGaps (inGap : Bool) : List Char → List Char
  | [] => []
  | c :: r =>
    if isNameChar c then c :: bridgeGaps false r
    else if inGap then bridgeGaps true r
    else '_' :: bridgeGaps true r

def stripUnderscores (s : List Char) : List Char :=
  Text.dropTrailing (· == '_') (s.dropWhile (· == '_'))

/-- A safe name made from any text, or `fallback` when nothing of the text is usable. -/
def sanitize (raw fallback : String) : String :=
  let name := stripUnderscores (bridgeGaps false (Text.trim raw.toList))
  if name.isEmpty then fallback else String.ofList name

def check (name : String) : Except NameFault Unit :=
  if Text.allBlank name then .error (.blank name)
  else if isSafe name then .ok ()
  else .error (.unsupported name)

/-- The first name that is among `seen` or stands earlier in the list. -/
def firstRepeat? (seen : List String) : List String → Option String
  | [] => none
  | n :: r => if n ∈ seen then some n else firstRepeat? (n :: seen) r

def checkDistinct (names : List String) : Except NameFault Unit :=
  match firstRepeat? [] names with
  | some n => .error (.repeated n)
  | none => .ok ()

/-- Each name by itself first, in order, and only then the repeats. -/
def checkAll (names : List String) : Except NameFault Unit := do
  names.forM check
  checkDistinct names

end FieldName
end PageHarvest
