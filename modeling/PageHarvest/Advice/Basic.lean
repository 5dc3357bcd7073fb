import PageHarvest.Descriptor.Basic
import PageHarvest.Job.Target
import PageHarvest.Json.Value
import PageHarvest.Text.Basic

namespace PageHarvest

open Json (Value)

namespace Advice

/-- A field as a response describes it; its name may be unusable. -/
structure FieldIdea where
  name : String
  tag : String
  attrs : String := ""
deriving DecidableEq, Repr, Inhabited

def FieldIdea.toField (idea : FieldIdea) (id : FieldId) : FieldDescriptor :=
  .sanitized id idea.name (Text.trimmed idea.tag) (Text.trimmed idea.attrs)

def FieldIdea.toValue (idea : FieldIdea) : Value :=
  .object [
    ("name", .string idea.name), ("tag", .string idea.tag), ("attrs", .string idea.attrs)]

end Advice

inductive Advice
  | text (content : String)
  | method (recommendation reason : String)
  | fields (ideas : List Advice.FieldIdea)
  | acceptedLinks (hrefs : List String)
deriving DecidableEq, Repr

namespace Advice

def label : Advice → String
  | text _ => "text"
  | method _ _ => "method_advice"
  | fields _ => "fields"
  | acceptedLinks _ => "accepted_links"

def content : Advice → Value
  | text content => .string content
  | method recommendation reason =>
    .object [("recommendation", .string recommendation), ("reason", .string reason)]
  | fields ideas => .array (ideas.map FieldIdea.toValue)
  | acceptedLinks hrefs => .strings hrefs

def toValue (a : Advice) : Value :=
  .object [("kind", .string a.label), ("value", a.content)]

def descriptors (a : Advice) (id : FieldId) : List FieldDescriptor :=
  match a with
  | fields ideas => ideas.map (·.toField id)
  | _ => []

def browserWords : List String := ["selenium", "playwright", "browser", "interactive"]

def fetchWords : List String := ["requests", "static", "beautifulsoup", "http"]

def mentions (text : String) (words : List String) : Bool :=
  let text := text.toList.map Char.toLower
  words.any fun w => Text.contains w.toList text

/--
The backend that a recommendation speaks of, if it is only one. Folding ASCII letters is enough:
the only other letters with ASCII in their small form are the Kelvin sign and the dotted capital I,
and no word has a k or ends in an i.
-/
def backendOf (recommendation : String) : Option BackendKind :=
  match mentions recommendation browserWords, mentions recommendation fetchWords with
  | true, false => some .interactiveBrowser
  | false, true => some .staticFetch
  | _, _ => none

def backend? : Advice → Option BackendKind
  | method recommendation _ => backendOf recommendation
  | _ => none

end Advice
end PageHarvest
