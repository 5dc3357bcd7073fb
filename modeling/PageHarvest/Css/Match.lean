import PageHarvest.Css.Read
import PageHarvest.Html.Document
import PageHarvest.Text.Basic

namespace PageHarvest.Css

open Html (Document NodeId Element)

/-- The page, the element that `:scope` stands for, and the one that `:has` looks from. -/
structure Surroundings where
  page : Document
  scope : Option NodeId := none
  anchor : Option NodeId := none

def foldCase (s : List Char) : List Char :=
  s.map Char.toLower

def isWordGap (c : Char) : Bool :=
  c == ' ' || c == '\t' || c == '\n' || c == '\r' || c == '\x0c'

namespace Comparison

/--
Whether the value found compares with the one wanted. An empty text starts, ends and stands in every
value.
-/
def holds (comparison : Comparison) (wanted found : List Char) : Bool :=
  match comparison with
  | equal => found == wanted
  | includesWord => (Text.fields isWordGap found).contains wanted
  | equalOrDash => found == wanted || (wanted ++ ['-']).isPrefixOf found
  | startsWith => wanted.isPrefixOf found
  | endsWith => wanted.isSuffixOf found
  | contains => Text.contains wanted found

end Comparison

def ValueTest.holds (test : ValueTest) (onHtml : Bool) (found : String) : Bool :=
  let caseless := test.letterCase == .ignored || (test.letterCase == .ignoredInHtml && onHtml)
  if caseless then test.comparison.holds (foldCase test.value.toList) (foldCase found.toList)
  else test.comparison.holds test.value.toList found.toList

/-- The name that an element has to have: in HTML names are written in lower case. -/
def wantedName (e : Element) (name : String) : String :=
  if e.space == .html then lowered name else name

def AttributeTest.holds (test : AttributeTest) (e : Element) : Bool :=
  let name := wantedName e test.name
  e.attributes.any fun a =>
    (test.anyNamespace || !a.foreign) && a.name == name &&
      match test.value with
      | none => true
      | some value => value.holds (e.space == .html) a.value

def hasId (e : Element) (id : String) : Bool :=
  (e.attributes.find? fun a => a.name == "id").any fun a => a.value == id

def hasClass (e : Element) (name : String) : Bool :=
  e.attributes.any fun a => a.name == "class" && (Text.words a.value.toList).contains name.toList

def Places.holds (p : Places) (place : Nat) : Bool :=
  let distance := (place : Int) - p.offset
  if distance > 2147483647 then false
  else if p.step == 0 then distance == 0
  else distance.tmod p.step == 0 && 0 ≤ distance.tdiv p.step

namespace Surroundings

def sameType (s : Surroundings) (a b : NodeId) : Bool :=
  match s.page.element? a, s.page.element? b with
  | some x, some y => x.name == y.name && x.space == y.space
  | _, _ => false

def place (s : Surroundings) (counting : Counting) (id : NodeId) : Nat :=
  let before := if counting.fromEnd then s.page.nextElements id else s.page.previousElements id
  (before.filter fun sibling => !counting.sameType || s.sameType sibling id).length + 1

def isOnly (s : Surroundings) (sameType : Bool) (id : NodeId) : Bool :=
  s.place ⟨sameType, false⟩ id == 1 && s.place ⟨sameType, true⟩ id == 1

def isRoot (s : Surroundings) (id : NodeId) : Bool :=
  match s.page.parent? id with
  | some p => s.page.content p == .document
  | none => false

def isEmpty (s : Surroundings) (id : NodeId) : Bool :=
  !(s.page.children id).any fun c => s.page.isElement c || s.page.isText c

def reach (s : Surroundings) (combinator : Combinator) (id : NodeId) : List NodeId :=
  match combinator with
  | .descendant => s.page.ancestorElements id
  | .child => (s.page.parentElement? id).toList
  | .nextSibling => (s.page.previousElements id).take 1
  | .laterSibling => s.page.previousElements id

/-- The elements that a selector in `:has` may describe: below, or behind and below those. -/
def aroundAnchor (s : Surroundings) (id : NodeId) : List NodeId :=
  s.page.elementsBelow id ++
    (s.page.nextElements id).flatMap fun c => c :: s.page.elementsBelow c

mutual

def meets (s : Surroundings) (id : NodeId) : Simple → Bool
  | .anyType => true
  | .type name => (s.page.element? id).any fun e => e.name == wantedName e name
  | .noNamespace => false
  | .id name => (s.page.element? id).any fun e => hasId e name
  | .class name => (s.page.element? id).any fun e => hasClass e name
  | .attribute test => (s.page.element? id).any test.holds
  | .root => s.isRoot id
  | .scope =>
    match s.scope with
    | some scope => id == scope
    | none => s.isRoot id
  | .empty => s.isEmpty id
  | .place counting places => places.holds (s.place counting id)
  | .only sameType => s.isOnly sameType id
  | .not alternatives => !s.meetsAny id alternatives
  | .any alternatives => s.meetsAny id alternatives
  | .has alternatives =>
    (s.aroundAnchor id).any fun c => { s with anchor := some id }.meetsAny c alternatives
  | .anchor => s.anchor == some id
  | .never => false

def meetsAll (s : Surroundings) (id : NodeId) : List Simple → Bool
  | [] => true
  | part :: parts => s.meets id part && s.meetsAll id parts

def meetsComplex (s : Surroundings) (id : NodeId) : Complex → Bool
  | .compound parts => s.meetsAll id parts
  | .combined left combinator parts =>
    s.meetsAll id parts && (s.reach combinator id).any fun c => s.meetsComplex c left

def meetsAny (s : Surroundings) (id : NodeId) : List Complex → Bool
  | [] => false
  | c :: cs => s.meetsComplex id c || s.meetsAny id cs

end

end Surroundings

/-- The elements of a page that a selector describes, in the order of their creation. -/
def selectIn (page : Document) (selectors : SelectorList) : List NodeId :=
  page.ids.filter fun id =>
    page.isElement id && (page.parent? id).isSome &&
      ({ page := page } : Surroundings).meetsAny id selectors

/-- The elements under `scope` that a selector describes, in the order of the tree. -/
def selectBelow (page : Document) (scope : NodeId) (selectors : SelectorList) : List NodeId :=
  (page.descendants scope).filter fun id =>
    page.isElement id &&
      ({ page := page, scope := some scope } : Surroundings).meetsAny id selectors

end PageHarvest.Css
