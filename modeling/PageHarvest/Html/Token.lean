import PageHarvest.Html.Document

namespace PageHarvest.Html

structure Tag where
  name : String
  attributes : List Attribute := []
  /-- Whether a slash stands before the closing bracket. -/
  selfClosing : Bool := false
deriving DecidableEq, Repr, Inhabited

def Tag.attribute? (t : Tag) (name : String) : Option String :=
  (t.attributes.find? fun a => a.name == name).map (·.value)

structure Doctype where
  name : Option String := none
  publicId : Option String := none
  systemId : Option String := none
  /-- Whether it is not written as it should be. -/
  broken : Bool := false
deriving DecidableEq, Repr, Inhabited

inductive Token
  | opening (tag : Tag)
  | closing (name : String)
  | comment (text : String)
  | doctype (d : Doctype)
  | chars (run : List Char)
deriving DecidableEq, Repr, Inhabited

/-- How the text of an element is read that holds no tags. -/
inductive RawKind
  /-- References count. -/
  | escapable
  | plain
  /-- A comment may hide an end tag. -/
  | script
deriving DecidableEq, Repr

end PageHarvest.Html
