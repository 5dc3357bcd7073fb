import PageHarvest.Descriptor.Selector
import PageHarvest.FieldId
import PageHarvest.FieldName

namespace PageHarvest

/-- An element or a family of elements: a tag and an attribute text. -/
structure ElementDescriptor where
  tag : String := ""
  attrs : String := ""
deriving DecidableEq, Repr, Inhabited

namespace ElementDescriptor

def hasTag (d : ElementDescriptor) : Bool :=
  !Text.allBlank d.tag

def selector (d : ElementDescriptor) : String :=
  selectorOf d.tag d.attrs

/-- The descriptor in angle brackets, as a page would show it. -/
def display (d : ElementDescriptor) : String :=
  if Text.allBlank d.attrs then "<" ++ Text.trimmed d.tag ++ ">"
  else "<" ++ Text.trimmed d.tag ++ " " ++ Text.trimmed d.attrs ++ ">"

end ElementDescriptor

/-- A field of a record: its name and the element that holds its value. -/
structure FieldDescriptor where
  id : FieldId
  name : String
  tag : String := ""
  attrs : String := ""
deriving DecidableEq, Repr, Inhabited

namespace FieldDescriptor

def sanitized (id : FieldId) (rawName tag attrs : String) : FieldDescriptor where
  id := id
  name := FieldName.sanitize rawName "field"
  tag := tag
  attrs := attrs

def element (f : FieldDescriptor) : ElementDescriptor where
  tag := f.tag
  attrs := f.attrs

def hasTag (f : FieldDescriptor) : Bool :=
  f.element.hasTag

def selector (f : FieldDescriptor) : String :=
  f.element.selector

end FieldDescriptor
end PageHarvest
