import PageHarvest.Css.Match
import PageHarvest.Html.Parse

namespace PageHarvest

namespace Css

/--
A fault of a selector that nothing can be said about, because its message would have to show a
token that has no text. Whatever needed the selector stops without a result.
-/
structure Unreportable where
  fault : Fault
deriving DecidableEq, Repr

/-- The selectors of a text, or a message why there are none. -/
def selectorsOf (text : String) : Except Unreportable (Except String SelectorList) :=
  match readSelectors text with
  | .ok selectors => .ok (.ok selectors)
  | .error fault =>
    match fault.message? with
    | some message => .ok (.error message)
    | none => .error ⟨fault⟩

def refusal (text message : String) : String :=
  "Invalid selector '" ++ text ++ "': " ++ message

end Css

namespace Html.Document

/-- The elements that a selector describes, in the order of their creation. -/
def select (page : Document) (selector : String) :
    Except Css.Unreportable (Except String (List NodeId)) :=
  match Css.selectorsOf selector with
  | .error e => .error e
  | .ok (.error message) => .ok (.error message)
  | .ok (.ok selectors) => .ok (.ok (Css.selectIn page selectors))

def count (page : Document) (selector : String) :
    Except Css.Unreportable (Except String Nat) :=
  (page.select selector).map fun found => found.map List.length

/-- The first element under `scope`, in the order of the tree, that a selector describes. -/
def firstBelow? (page : Document) (scope : NodeId) (selectors : Css.SelectorList) :
    Option NodeId :=
  (Css.selectBelow page scope selectors).head?

end Html.Document
end PageHarvest
