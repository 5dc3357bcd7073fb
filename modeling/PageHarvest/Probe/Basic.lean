import PageHarvest.Descriptor.Basic

namespace PageHarvest.Probe

inductive Kind
  | container
  | linkContainer
  | field
  | linkField
deriving DecidableEq, Repr, Inhabited

namespace Kind

def all : List Kind := [container, linkContainer, field, linkField]

def label : Kind → String
  | container => "container"
  | linkContainer => "link_container"
  | field => "field"
  | linkField => "link_field"

def isContainer : Kind → Bool
  | container | linkContainer => true
  | field | linkField => false

end Kind

/-- Where the elements are looked for. -/
inductive Scope
  | page
  /-- In each of the containers that a description gives. -/
  | within (container : ElementDescriptor)
deriving DecidableEq, Repr

inductive Status
  | matched
  | noMatches
  | emptyTag
  | selectorInvalid (message : String)
  /-- The container cannot be looked for. -/
  | containerUnresolved
  /-- There is no container. -/
  | noContainers
deriving DecidableEq, Repr, Inhabited

namespace Status

def label : Status → String
  | matched => "matched"
  | noMatches => "no_matches"
  | emptyTag => "empty_tag"
  | selectorInvalid _ => "selector_invalid"
  | containerUnresolved => "container_unresolved"
  | noContainers => "no_containers"

def isError : Status → Bool
  | matched => false
  | _ => true

def isSelectorInvalid : Status → Bool
  | selectorInvalid _ => true
  | _ => false

def ofCount (count : Nat) : Status :=
  if count = 0 then noMatches else matched

end Status

structure Result where
  /-- Elements found, or containers that hold one. -/
  count : Nat
  /-- Containers looked into. -/
  total : Option Nat := none
  preview : String
  status : Status
deriving DecidableEq, Repr, Inhabited

namespace Result

def isError (r : Result) : Bool :=
  r.status.isError

def failure (status : Status) (preview : String) : Result where
  count := 0
  preview := preview
  status := status

def emptyTag : Result :=
  failure .emptyTag "Enter a tag to test this selector."

def invalid (message : String) : Result :=
  failure (.selectorInvalid message) ("Invalid selector: " ++ message)

def containerUnresolved : Result :=
  failure .containerUnresolved "Define and test the container before testing this selector."

def noContainers : Result :=
  failure .noContainers "No containers to test within. Check the container selector."

end Result
end PageHarvest.Probe
