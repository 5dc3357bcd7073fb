import PageHarvest.Advice.Basic
import PageHarvest.Json.Tree
import PageHarvest.Text.Basic

namespace PageHarvest.Advice

open Json (Value)

def fence : List Char := ['\x60', '\x60', '\x60']

/-- The characters of the word behind an opening fence. -/
def isInfoChar (c : Char) : Bool :=
  c.isAlphanum || c == '_' || c == '-'

def dropReturn : List Char → List Char
  | '\r' :: r => r
  | s => s

def dropFeed : List Char → List Char
  | '\n' :: r => r
  | s => s

/-- Drops the word behind an opening fence, the blanks behind it and one line break. -/
def dropInfo (s : List Char) : List Char :=
  dropFeed (dropReturn ((s.dropWhile isInfoChar).dropWhile fun c => c == ' ' || c == '\t'))

def fenced? (s : List Char) : Option (List Char) := do
  let (_, opened) ← Text.cut? fence s
  let (content, _) ← Text.cut? fence (dropInfo opened)
  return content

def payload (raw : String) : String :=
  String.ofList (Text.trim ((fenced? raw.toList).getD raw.toList))

def string? : Value → Option String
  | .string s => some s
  | _ => none

def isString (v : Value) : Bool :=
  (string? v).isSome

def isObject : Value → Bool
  | .object _ => true
  | _ => false

/--
What a record is made from, name for name: the members of an object, whatever else it has, or the
items of a list that is no longer than the record.
-/
def entries? (names : List String) : Value → Option (List (Option Value))
  | .object members => some (names.map (Value.object members).member?)
  | .array items =>
    if items.length ≤ names.length then some ((List.range names.length).map (items[·]?)) else none
  | _ => none

def requiredText? (entry : Option Value) : Option String :=
  entry.bind string?

def optionalText? : Option Value → Option String
  | none => some ""
  | some v => string? v

def method? (v : Value) : Option Advice := do
  let [recommendation, reason] ← entries? ["recommendation", "reason"] v | none
  let recommendation ← requiredText? recommendation
  let reason ← optionalText? reason
  return .method recommendation reason

def fieldIdea? (v : Value) : Option FieldIdea := do
  let [name, tag, attrs] ← entries? ["name", "tag", "attrs"] v | none
  let name ← requiredText? name
  let tag ← requiredText? tag
  let attrs ← optionalText? attrs
  return { name, tag, attrs }

/--
What a value advises. The empty list accepts no link. Records are looked for in objects only, though
they could be made from lists.
-/
def ofValue? (v : Value) : Option Advice :=
  match v with
  | .object _ => if (v.member? "recommendation").any isString then method? v else none
  | .array items =>
    if items.all isString then
      some (.acceptedLinks ((items.filterMap string?).map Text.trimmed))
    else if items.all isObject then (items.mapM fieldIdea?).map .fields
    else none
  | _ => none

def read (raw : String) : Advice :=
  match Value.parse (payload raw) with
  | .ok v => (ofValue? v).getD (.text (Text.trimmed raw))
  | .error _ => .text (Text.trimmed raw)

end PageHarvest.Advice
