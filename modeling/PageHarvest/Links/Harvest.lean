import PageHarvest.Css.Query
import PageHarvest.Links.Basic

namespace PageHarvest

open Css (Unreportable)
open Html (Document NodeId)

def anchorSelector : String := "a[href]"

namespace Harvest

def refused (selector message : String) : Harvest where
  refusal := some (Css.refusal selector message)

/-- The address of an element, trimmed; a blank one counts as none. -/
def href? (page : Document) (id : NodeId) : Option String := do
  let element ← page.element? id
  let href ← element.attribute? "href"
  let href := Text.trimmed href
  if href = "" then none else some href

/-- The harvest of some elements in their order; those without an address are passed over. -/
def ofElements (page : Document) (base : LinkBase) (found : List NodeId) : Harvest :=
  let anchors := found.filterMap fun id => (href? page id).map fun href => (id, href)
  { links := anchors.map fun (id, href) => base.link (page.elementText id) href
    warnings := anchors.filterMap fun (_, href) => base.warning? href }

def allLinks (page : Document) (baseUrl : Option String) : Except Unreportable Harvest := do
  match ← page.select anchorSelector with
  | .error message => return refused anchorSelector message
  | .ok anchors => return ofElements page (.ofText baseUrl) anchors

def containerLinks (page : Document) (container link : String) (baseUrl : Option String) :
    Except Unreportable Harvest := do
  match ← page.select container with
  | .error message => return refused container message
  | .ok containers =>
    match ← Css.selectorsOf link with
    | .error message => return refused link message
    | .ok selectors =>
      let anchors := containers.filterMap fun id => page.firstBelow? id selectors
      return ofElements page (.ofText baseUrl) anchors

end Harvest
end PageHarvest
