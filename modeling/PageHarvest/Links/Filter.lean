import PageHarvest.Links.Basic
import PageHarvest.Text.Basic

namespace PageHarvest

/-- Links that were decided on, and how many of them are kept. -/
structure FilteredLinks where
  links : List Link
  kept : Nat
deriving DecidableEq, Repr

namespace FilteredLinks

/-- Decides on one link after another; `kept` counts on. -/
def decideFrom (kept : Nat) (accepted : List String) : List Link → FilteredLinks
  | [] => { links := [], kept }
  | l :: rest =>
    let selected := accepted.contains l.href
    let after := decideFrom (if selected then kept + 1 else kept) accepted rest
    { after with links := { l with selected } :: after.links }

end FilteredLinks

/-- Selects the links whose address is, blanks around it aside, among the accepted ones. -/
def filterLinks (links : List Link) (accepted : List String) : FilteredLinks :=
  .decideFrom 0 (accepted.map Text.trimmed) links

def Harvest.filtered (h : Harvest) (accepted : List String) : Harvest :=
  { h with links := (filterLinks h.links accepted).links }

end PageHarvest
