import PageHarvest.Json.Decode
import PageHarvest.Probe.Basic

namespace PageHarvest.Probe

open Json (Value ReadFault)

namespace Status

/-- The kind, and beside it the message of a selector that was refused. -/
def toValue (s : Status) : Value :=
  .object (("kind", .string s.label) ::
    match s with
    | selectorInvalid message => [("detail", .string message)]
    | _ => [])

end Status

namespace Result

def toValue (r : Result) : Value :=
  .object (("count", .natural r.count) ::
    (r.total.map fun n => ("total", Value.natural n)).toList ++
    [("preview", .string r.preview), ("status", r.status.toValue)])

end Result

namespace Status

def all : List Status :=
  [matched, noMatches, emptyTag, selectorInvalid "", containerUnresolved, noContainers]

/-- How a message names a kind that has no content. -/
def title : Status → String
  | matched => "Matched"
  | noMatches => "NoMatches"
  | emptyTag => "EmptyTag"
  | selectorInvalid _ => "SelectorInvalid"
  | containerUnresolved => "ContainerUnresolved"
  | noContainers => "NoContainers"

def expectation : String := "adjacently tagged enum TestStatus"

def kindOf : Value → Except ReadFault Status
  | .string s => Json.pick all label s
  | .object members =>
    match Value.sortMembers members with
    | [(key, value)] => do
      let kind ← Json.pick all label key
      match value with
      | .null => return kind
      | v => throw (.wrongType v.found "unit")
    | _ => throw (.wrongValue .map "map with a single key")
  | v => throw (.wrongType v.found "string or map")

def withContent (content : Value) : Status → Except ReadFault Status
  | selectorInvalid _ =>
    match content with
    | .string s => .ok (selectorInvalid s)
    | v => .error (.wrongType v.found "a string")
  | kind =>
    match content with
    | .null => .ok kind
    | v => .error (.wrongType v.found ("unit variant TestStatus::" ++ kind.title))

def withoutContent : Status → Except ReadFault Status
  | selectorInvalid _ => .error (.missingMember "detail")
  | kind => .ok kind

def ofValue : Value → Except ReadFault Status
  | .object members =>
    match (Value.object members).member? "kind" with
    | none => .error (.missingMember "kind")
    | some kind => do
      let kind ← kindOf kind
      match (Value.object members).member? "detail" with
      | some content => kind.withContent content
      | none => kind.withoutContent
  | .array [] => .error (.wrongLength 0 expectation)
  | .array (kind :: rest) => do
    let kind ← kindOf kind
    match rest with
    | [] => throw (.wrongLength 1 expectation)
    | content :: more =>
      let status ← kind.withContent content
      if more.isEmpty then return status
      else throw (.wrongLength (more.length + 2) "fewer elements in array")
  | v => .error (.wrongType v.found expectation)

end Status

namespace Result

def countOf (v : Value) : Except ReadFault Nat :=
  Json.naturalOf "usize" UInt64.size v.found

def totalOf : Value → Except ReadFault (Option Nat)
  | .null => .ok none
  | v => some <$> countOf v

def textOf : Value → Except ReadFault String
  | .string s => .ok s
  | v => .error (.wrongType v.found "a string")

def required {α : Type} (name : String) : Option α → Except ReadFault α
  | some a => .ok a
  | none => .error (.missingMember name)

/-- Members are read in the order of their names; only then is looked for missing ones. -/
def ofMembers (object : Value) : Except ReadFault Result := do
  let count ← (object.member? "count").mapM countOf
  let preview ← (object.member? "preview").mapM textOf
  let status ← (object.member? "status").mapM Status.ofValue
  let total ← (object.member? "total").mapM totalOf
  let count ← required "count" count
  let preview ← required "preview" preview
  let status ← required "status" status
  return { count, total := total.join, preview, status }

def expectation : String := "struct SelectorTestResult"

def readItem {α : Type} (items : List Value) (index : Nat) (read : Value → Except ReadFault α) :
    Except ReadFault α :=
  match items[index]? with
  | some v => read v
  | none => .error (.wrongLength index (expectation ++ " with 4 elements"))

def ofItems (items : List Value) : Except ReadFault Result := do
  let count ← readItem items 0 countOf
  let total ← items[1]?.mapM totalOf
  let preview ← readItem items 2 textOf
  let status ← readItem items 3 Status.ofValue
  if items.length ≤ 4 then return { count, total := total.join, preview, status }
  else throw (.wrongLength items.length "fewer elements in array")

def ofValue : Value → Except ReadFault Result
  | .object members => ofMembers (.object members)
  | .array items => ofItems items
  | v => .error (.wrongType v.found expectation)

end Result
end PageHarvest.Probe
