import PageHarvest.Json.Value
import PageHarvest.Url.Parse

namespace PageHarvest

/-- A link found on a page; `selected` tells whether it is kept. -/
structure Link where
  text : String
  href : String
  selected : Bool := true
deriving DecidableEq, Repr, Inhabited

namespace Link

def toValue (l : Link) : Json.Value :=
  .object [("text", .string l.text), ("href", .string l.href), ("selected", .bool l.selected)]

end Link

/-- An address that could not be made absolute, and why. -/
structure LinkWarning where
  href : String
  reason : String
deriving DecidableEq, Repr, Inhabited

def LinkWarning.toValue (w : LinkWarning) : Json.Value :=
  .object [("href", .string w.href), ("reason", .string w.reason)]

/-- What a harvest brings: links and warnings in the order of the links' discovery. -/
structure Harvest where
  links : List Link := []
  warnings : List LinkWarning := []
  /-- A selector that was refused; there are no links then. -/
  refusal : Option String := none
deriving DecidableEq, Repr, Inhabited

namespace Harvest

def selectedCount (h : Harvest) : Nat :=
  (h.links.filter (·.selected)).length

def toValue (h : Harvest) : Json.Value :=
  .object ([
    ("links", .array (h.links.map Link.toValue)),
    ("warnings", .array (h.warnings.map LinkWarning.toValue))] ++
    (h.refusal.map fun message => ("selector_error", Json.Value.string message)).toList)

end Harvest

/-- An address on the page with a given URL; without one it stays as it is. -/
def resolveHref (base : Option Url) (href : String) : Except Url.Fault String :=
  match base with
  | some base => (base.join href).map Url.text
  | none => .ok href

/-- What addresses are resolved against. -/
inductive LinkBase
  | absent
  | url (base : Url)
  | invalid (text : String) (fault : Url.Fault)
deriving DecidableEq, Repr

namespace LinkBase

def ofText (text : Option String) : LinkBase :=
  match (text.map Text.trimmed).filter (· ≠ "") with
  | none => absent
  | some text =>
    match Url.parse text with
    | .ok base => url base
    | .error fault => invalid text fault

/-- The resolved address, or why there is none. -/
def resolve (b : LinkBase) (href : String) : Except String String :=
  match b with
  | absent => .ok href
  | url base =>
    match resolveHref (some base) href with
    | .ok resolved => .ok resolved
    | .error fault => .error fault.message
  | invalid text fault => .error s!"base URL '{text}' is invalid: {fault.message}"

def link (b : LinkBase) (text href : String) : Link :=
  match b.resolve href with
  | .ok resolved => { text, href := resolved }
  | .error _ => { text, href }

def warning? (b : LinkBase) (href : String) : Option LinkWarning :=
  match b.resolve href with
  | .ok _ => none
  | .error reason => some { href, reason }

end LinkBase
end PageHarvest
