import PageHarvest.Css.Query
import PageHarvest.Probe.Basic

namespace PageHarvest.Probe

open Css (Unreportable)
open Html (Document NodeId)

def previewMatches : Nat := 3

/-- How many characters of each text a preview shows. -/
def previewChars : Nat := 20

def previewSeparator : String := " | "

def noTextNotice : String := "(no text content)"

/-- The selector of a description, or a message why it has none. -/
def selectorFor (d : ElementDescriptor) : Except String String :=
  if d.selector = unmatchable then
    .error ("could not read attrs '" ++ Text.trimmed d.attrs ++ "'")
  else .ok d.selector

def find (page : Document) (d : ElementDescriptor) :
    Except Unreportable (Except String (List NodeId)) :=
  match selectorFor d with
  | .error message => .ok (.error message)
  | .ok selector => page.select selector

def noMatchPreview : String := "No elements match this selector."

def countContainers (count : Nat) : Result where
  count := count
  preview := if count = 0 then noMatchPreview else s!"Found {count} matching element(s)."
  status := .ofCount count

/-- A text for a preview, cut off where it grows too long. -/
def clipped (text : String) : String :=
  if previewChars < text.toList.length then
    String.ofList (text.toList.take previewChars) ++ "..."
  else text

def textPreview (page : Document) (found : List NodeId) : String :=
  let texts := ((found.take previewMatches).map page.elementText).filter (· ≠ "")
  if texts.isEmpty then noTextNotice else previewSeparator.intercalate (texts.map clipped)

def showTexts (page : Document) (found : List NodeId) : Result where
  count := found.length
  preview := if found.length = 0 then noMatchPreview else textPreview page found
  status := .ofCount found.length

def countHolders (page : Document) (containers : List NodeId) (selectors : Css.SelectorList)
    (summary : String) : Result :=
  let total := containers.length
  let count := (containers.filter fun c => (page.firstBelow? c selectors).isSome).length
  { count, total := some total, preview := s!"{count} of {total} {summary}",
    status := .ofCount count }

def runWithin (page : Document) (container d : ElementDescriptor) (summary : String) :
    Except Unreportable Result := do
  if !container.hasTag then return .containerUnresolved
  match ← find page container with
  | .error _ => return .containerUnresolved
  | .ok [] => return .noContainers
  | .ok containers =>
    match selectorFor d with
    | .error message => return .invalid message
    | .ok selector =>
      match ← Css.selectorsOf selector with
      | .error message => return .invalid message
      | .ok selectors => return countHolders page containers selectors summary

def run (page : Document) (kind : Kind) (d : ElementDescriptor) (scope : Scope) :
    Except Unreportable Result := do
  if !d.hasTag then return .emptyTag
  match kind, scope with
  | .container, _ | .linkContainer, _ =>
    match ← find page d with
    | .error message => return .invalid message
    | .ok found => return countContainers found.length
  | .field, .page =>
    match ← find page d with
    | .error message => return .invalid message
    | .ok found => return showTexts page found
  | .field, .within container => runWithin page container d "containers have a match"
  | .linkField, .within container => runWithin page container d "containers have a matching link"
  | .linkField, .page => return .containerUnresolved

end PageHarvest.Probe
