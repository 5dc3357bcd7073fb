namespace PageHarvest.Css

/-- How an attribute's value is compared with the one written. -/
inductive Comparison
  | equal
  | includesWord
  | equalOrDash
  | startsWith
  | endsWith
  | contains
deriving DecidableEq, Repr

/-- Which letters of a value count as equal. -/
inductive LetterCase
  | exact
  | ignored
  /-- Ignored for elements of HTML only. -/
  | ignoredInHtml
deriving DecidableEq, Repr

structure ValueTest where
  comparison : Comparison
  value : String
  letterCase : LetterCase
deriving DecidableEq, Repr

structure AttributeTest where
  name : String
  /-- Whether attributes in a namespace count too. -/
  anyNamespace : Bool
  value : Option ValueTest
deriving DecidableEq, Repr

/-- The places `step * n + offset` for `n = 0, 1, 2, …`, counted from one. -/
structure Places where
  step : Int
  offset : Int
deriving DecidableEq, Repr

/-- What is counted to find the place of an element among its siblings, and from which end. -/
structure Counting where
  sameType : Bool
  fromEnd : Bool
deriving DecidableEq, Repr

inductive Combinator
  | descendant
  | child
  | nextSibling
  | laterSibling
deriving DecidableEq, Repr

mutual

/-- One condition on an element. -/
inductive Simple
  | anyType
  | type (name : String)
  | noNamespace
  | id (name : String)
  | class (name : String)
  | attribute (test : AttributeTest)
  | root
  | scope
  | empty
  | place (counting : Counting) (places : Places)
  | only (sameType : Bool)
  | not (alternatives : List Complex)
  | any (alternatives : List Complex)
  /-- An element around the one tested matches; `anchor` is the one tested. -/
  | has (alternatives : List Complex)
  | anchor
  /-- What is at fault in a list that forgives it, and the host of a tree, which no page has. -/
  | never

/-- Conditions on an element and on those before or above it, the last element outermost. -/
inductive Complex
  | compound (parts : List Simple)
  | combined (left : Complex) (combinator : Combinator) (parts : List Simple)

end

instance : Inhabited Simple := ⟨.never⟩

instance : Inhabited Complex := ⟨.compound []⟩

abbrev SelectorList := List Complex

end PageHarvest.Css
