import PageHarvest.Css.Outline

namespace PageHarvest.Css

inductive Fault
  | unexpected (found : Token)
  | endOfText
  /-- Something other than a name stands behind the colons of a pseudo-class or pseudo-element. -/
  | pseudoNameExpected (found : Token)
  | empty
  /-- A combinator has nothing behind it. -/
  | danglingCombinator
  /-- A part that is fine elsewhere stands where it is not allowed. -/
  | misplaced
  | unknownPseudo (name : String)
  | unknownNamespace (name : String)
  /-- Behind the bar of a type selector. -/
  | typeNameExpected (found : Token)
  | attributeNameExpected (found : Token)
  | barExpected (found : Token)
  /-- Behind the bar of an attribute's name. -/
  | localNameExpected (found : Token)
  | attributeOperatorExpected (found : Token)
  | attributeValueExpected (found : Token)
  | classNameExpected (found : Token)
deriving DecidableEq, Repr

namespace Fault

def outline : Fault → Outline
  | unexpected t => .tuple "UnexpectedToken" [t.outline]
  | endOfText => .plain "EndOfInput"
  | pseudoNameExpected t => .tuple "PseudoElementExpectedIdent" [t.outline]
  | empty => .plain "EmptySelector"
  | danglingCombinator => .plain "DanglingCombinator"
  | misplaced => .plain "InvalidState"
  | unknownPseudo name => .tuple "UnsupportedPseudoClassOrElement" [.quoted name]
  | unknownNamespace name => .tuple "ExpectedNamespace" [.quoted name]
  | typeNameExpected t => .tuple "ExplicitNamespaceUnexpectedToken" [t.outline]
  | attributeNameExpected t => .tuple "NoQualifiedNameInAttributeSelector" [t.outline]
  | barExpected t => .tuple "ExpectedBarInAttr" [t.outline]
  | localNameExpected t => .tuple "InvalidQualNameInAttr" [t.outline]
  | attributeOperatorExpected t => .tuple "UnexpectedTokenInAttributeSelector" [t.outline]
  | attributeValueExpected t => .tuple "BadValueInAttr" [t.outline]
  | classNameExpected t => .tuple "ClassNeedsIdent" [t.outline]

def message? : Fault → Option String
  | unexpected t => t.text?.map fun text => "Token " ++ Text.quoted text ++ " was not expected"
  | endOfText => some "Unexpected EOL"
  | pseudoNameExpected t => t.text?.map fun text =>
      "Expected identity for pseudoelement, got " ++ Text.quoted text ++ " instead"
  | fault => some ("Unexpected error occurred. Please report this to the developer\n" ++
      fault.outline.text)

end Fault
end PageHarvest.Css
