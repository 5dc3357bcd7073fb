import PageHarvest.Descriptor.Basic

namespace PageHarvest

inductive ScrapingMode
  | structured
  | simple
  | links
deriving DecidableEq, Repr, Inhabited

namespace ScrapingMode

def all : List ScrapingMode := [structured, simple, links]

def label : ScrapingMode → String
  | structured => "structured"
  | simple => "simple"
  | links => "links"

end ScrapingMode

inductive LinkStrategy
  | allLinks
  | linksFromContainer
deriving DecidableEq, Repr, Inhabited

namespace LinkStrategy

def all : List LinkStrategy := [allLinks, linksFromContainer]

def label : LinkStrategy → String
  | allLinks => "all_links"
  | linksFromContainer => "links_from_container"

end LinkStrategy

/-- The link in a container of a job that names none. -/
def Extraction.defaultLinkSelector : ElementDescriptor where
  tag := "a"

/-- Each mode reads some of the members; the others keep what was entered for them. -/
structure Extraction where
  mode : ScrapingMode := .structured
  container : ElementDescriptor := {}
  fields : List FieldDescriptor := []
  simpleField : FieldDescriptor
  linkStrategy : LinkStrategy := .allLinks
  linkContainer : ElementDescriptor := {}
  linkSelector : ElementDescriptor := Extraction.defaultLinkSelector
deriving DecidableEq, Repr, Inhabited

namespace Extraction

def defaultSimpleField (id : FieldId) : FieldDescriptor where
  id := id
  name := "value"

/-- The extraction that is made without naming anything; `id` goes to its simple field. -/
def initial (id : FieldId) : Extraction where
  simpleField := defaultSimpleField id

def structured (id : FieldId) (container : ElementDescriptor) : Extraction :=
  { initial id with container := container }

def simple (field : FieldDescriptor) : Extraction where
  mode := .simple
  simpleField := field

def allLinks (id : FieldId) : Extraction :=
  { initial id with mode := .links }

def linksFromContainer (id : FieldId) (container link : ElementDescriptor) : Extraction :=
  { initial id with
    mode := .links
    linkStrategy := .linksFromContainer
    linkContainer := container
    linkSelector := link }

def withField (e : Extraction) (field : FieldDescriptor) : Extraction :=
  { e with fields := e.fields ++ [field] }

/-- A change of mode drops the fields; choosing the same mode again keeps them. -/
def switchMode (e : Extraction) (mode : ScrapingMode) : Extraction :=
  if e.mode = mode then e else { e with mode := mode, fields := [] }

inductive Lack
  | containerTag
  | fieldTag
  | linkContainerTag
  | linkTag
deriving DecidableEq, Repr

def Lack.message : Lack → String
  | containerTag => "a container tag is required for structured extraction"
  | fieldTag => "a field tag is required for simple extraction"
  | linkContainerTag => "a link container tag is required to harvest links from containers"
  | linkTag => "a link tag is required to pick the link inside each container"

/-- The first element that the active mode needs and that has no tag. -/
def lack? (e : Extraction) : Option Lack :=
  match e.mode, e.linkStrategy with
  | .structured, _ => if e.container.hasTag then none else some .containerTag
  | .simple, _ => if e.simpleField.hasTag then none else some .fieldTag
  | .links, .allLinks => none
  | .links, .linksFromContainer =>
    if !e.linkContainer.hasTag then some .linkContainerTag
    else if !e.linkSelector.hasTag then some .linkTag
    else none

end Extraction
end PageHarvest
