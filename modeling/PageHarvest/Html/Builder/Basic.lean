import PageHarvest.Html.Kinds
import PageHarvest.Html.Token

namespace PageHarvest.Html

/-- The part of a page that is being read, which decides how a token is taken. -/
inductive Mode
  | start
  | beforeHtml
  | beforeHead
  | inHead
  | afterHead
  | inBody
  | inTable
  | inTableText
  | inCaption
  | inColumns
  | inSection
  | inRow
  | inCell
  | inSelect
  | inSelectInTable
  | inTemplate
  | afterBody
  | inFrameset
  | afterFrameset
  | afterPage
  | afterFramesetPage
deriving DecidableEq, Repr, Inhabited

/-- An element whose formatting goes on where the blocks around it end. -/
inductive Formatting
  /-- Formatting from before does not reach past a marker. -/
  | marker
  | element (id : NodeId) (tag : Tag)
deriving DecidableEq, Repr, Inhabited

namespace Formatting

def isMarker : Formatting → Bool
  | marker => true
  | element .. => false

def isFor (id : NodeId) : Formatting → Bool
  | marker => false
  | element i _ => i == id

end Formatting

/-- What a token is to the tree. Text comes one character at a time. -/
inductive Item
  | char (c : Char)
  | comment (text : String)
  | opening (tag : Tag)
  | closing (name : String)
  | finish
deriving Repr, Inhabited

/-- How reading goes on after an item. -/
inductive Next
  | done
  /-- The same item counts again, in the mode that is now set. -/
  | again
  /-- The text of the element up to its end tag belongs to it as it is. -/
  | raw (kind : RawKind) (id : NodeId) (name : String)
deriving Repr, Inhabited

structure Builder where
  page : Document := .blank
  mode : Mode := .start
  /-- The mode to go back to when the text in a table ends. -/
  tableMode : Mode := .inTable
  /-- The modes of the open templates, the innermost first. -/
  templateModes : List Mode := []
  /-- The open elements, the innermost first. -/
  stack : List NodeId := []
  /-- Formatting, the latest first. -/
  formatting : List Formatting := []
  head : Option NodeId := none
  form : Option NodeId := none
  /-- Whether a frameset may still take the place of the body. -/
  framesetAllowed : Bool := true
  /-- Whether what does not fit a table goes before it. -/
  fostering : Bool := false
  /-- Whether the page was written for old browsers, which put a table inside a paragraph. -/
  oldStyle : Bool := false
  /-- Whether a line feed that comes next is dropped. -/
  dropsFeed : Bool := false
  /-- Whether all that follows is text. -/
  plaintext : Bool := false
  tableText : List Char := []
deriving Inhabited

namespace Builder

def element? (b : Builder) (id : NodeId) : Option Element :=
  b.page.element? id

def has (b : Builder) (id : NodeId) (p : Element → Bool) : Bool :=
  (b.element? id).any p

def current (b : Builder) : NodeId :=
  b.stack.headD Document.root

def currentHas (b : Builder) (p : Element → Bool) : Bool :=
  b.has b.current p

def currentIs (b : Builder) (name : String) : Bool :=
  b.currentHas (·.isHtml name)

def isOpen (b : Builder) (name : String) : Bool :=
  b.stack.any fun id => b.has id (·.isHtml name)

/-- Whether a wanted element is open, and none that limits the search is open inside it. -/
def inScope (b : Builder) (limits : Element → Bool) (wanted : NodeId → Bool) : Bool :=
  let rec search : List NodeId → Bool
    | [] => false
    | id :: ids => wanted id || (!b.has id limits && search ids)
  search b.stack

def nameInScope (b : Builder) (limits : Element → Bool) (name : String) : Bool :=
  b.inScope limits fun id => b.has id (·.isHtml name)

def pop (b : Builder) : Builder :=
  { b with stack := b.stack.drop 1 }

def popWhile (b : Builder) (p : Element → Bool) : Builder :=
  { b with stack := b.stack.dropWhile fun id => b.has id p }

/-- Closes elements up to the first that has a property, which stays open. -/
def popUntilCurrent (b : Builder) (p : Element → Bool) : Builder :=
  { b with stack := b.stack.dropWhile fun id => !b.has id p }

/-- Closes elements up to the first that has a property and that one too. -/
def popThrough (b : Builder) (p : Element → Bool) : Builder :=
  (b.popUntilCurrent p).pop

def popThroughName (b : Builder) (name : String) : Builder :=
  b.popThrough (·.isHtml name)

def endImplied (b : Builder) (names : List String := impliedEndNames) : Builder :=
  b.popWhile (·.isHtmlIn names)

def endImpliedExcept (b : Builder) (name : String) : Builder :=
  b.popWhile fun e => e.isHtmlIn impliedEndNames && e.name != name

def closeParagraph (b : Builder) : Builder :=
  (b.endImpliedExcept "p").popThroughName "p"

def closeOpenParagraph (b : Builder) : Builder :=
  if b.nameInScope Element.limitsButtonScope "p" then b.closeParagraph else b

/-- Takes one element off the stack, wherever it stands there. -/
def unstack (b : Builder) (id : NodeId) : Builder :=
  { b with stack := b.stack.filter (· != id) }

inductive Place
  | lastChild (parent : NodeId)
  | before (sibling : NodeId)

/-- The place for what would stand in `target`: usually there, but not straight in a table. -/
def placeIn (b : Builder) (target : NodeId) : Place :=
  if b.fostering && b.has target (·.isHtmlIn tableFrameNames) then
    let rec search : List NodeId → Place
      | [] => .lastChild (b.stack.getLastD Document.root)
      | id :: ids =>
        if b.page.isHtml id "template" then .lastChild (b.page.contentNode id)
        else if b.page.isHtml id "table" then
          if (b.page.parent? id).isSome then .before id
          else .lastChild (ids.headD Document.root)
        else search ids
    search b.stack
  else .lastChild (b.page.contentNode target)

def insertAt (b : Builder) (place : Place) (id : NodeId) : Builder :=
  match place with
  | .lastChild parent => { b with page := b.page.append parent id }
  | .before sibling => { b with page := b.page.insertBefore sibling id }

def appendChar (b : Builder) (c : Char) : Builder :=
  match b.placeIn b.current with
  | .lastChild parent => { b with page := b.page.appendChar parent c }
  | .before sibling => { b with page := b.page.insertCharBefore sibling c }

def commentIn (b : Builder) (parent : NodeId) (text : String) : Builder :=
  { b with page := (b.page.create (.comment text)).append parent b.page.nodes.size }

def appendComment (b : Builder) (text : String) : Builder :=
  let place := b.placeIn b.current
  { b with page := b.page.create (.comment text) }.insertAt place b.page.nodes.size

/-- Inserts an element without opening it. Its number is the former number of nodes. -/
def insert (b : Builder) (e : Element) : Builder :=
  let place := b.placeIn b.current
  { b with page := b.page.createElement e }.insertAt place b.page.nodes.size

def openElement (b : Builder) (e : Element) : Builder :=
  let b' := b.insert e
  { b' with stack := b.page.nodes.size :: b'.stack }

def htmlElement (t : Tag) : Element where
  space := .html
  name := t.name
  attributes := t.attributes

def openTag (b : Builder) (t : Tag) : Builder :=
  b.openElement (htmlElement t)

def insertTag (b : Builder) (t : Tag) : Builder :=
  b.insert (htmlElement t)

def openImplied (b : Builder) (name : String) : Builder :=
  b.openTag { name }

def openRoot (b : Builder) (attributes : List Attribute) : Builder :=
  let id := b.page.nodes.size
  let page := b.page.createElement ⟨.html, "html", attributes⟩
  { b with page := page.append Document.root id, stack := id :: b.stack }

/-- Adds the attributes of a second tag for the page to the first. -/
def mergeRoot (b : Builder) (t : Tag) : Builder :=
  match b.stack.getLast? with
  | some id =>
    if b.isOpen "template" then b
    else { b with page := b.page.addMissingAttributes id t.attributes }
  | none => b

def modeOfStack (b : Builder) : Mode :=
  let rec search : List NodeId → Mode
    | [] => .inBody
    | id :: outer =>
      match (b.element? id).filter (·.space == .html) with
      | none => search outer
      | some e =>
        let last := outer.isEmpty
        if e.name == "select" then
          match outer.find? fun i => b.has i (·.isHtmlIn ["template", "table"]) with
          | some i => if b.page.isHtml i "table" then .inSelectInTable else .inSelect
          | none => .inSelect
        else if cellNames.contains e.name && !last then .inCell
        else if e.name == "tr" then .inRow
        else if sectionNames.contains e.name then .inSection
        else if e.name == "caption" then .inCaption
        else if e.name == "colgroup" then .inColumns
        else if e.name == "table" then .inTable
        else if e.name == "template" then b.templateModes.headD .inBody
        else if e.name == "head" && !last then .inHead
        else if e.name == "body" then .inBody
        else if e.name == "frameset" then .inFrameset
        else if e.name == "html" then (if b.head.isNone then .beforeHead else .afterHead)
        else search outer
  search b.stack

def inMode (b : Builder) (mode : Mode) : Builder :=
  { b with mode := mode }

def resetMode (b : Builder) : Builder :=
  b.inMode b.modeOfStack

def done (b : Builder) : Builder × Next :=
  (b, .done)

def againIn (b : Builder) (mode : Mode) : Builder × Next :=
  (b.inMode mode, .again)

def insertRaw (b : Builder) (t : Tag) (kind : RawKind) : Builder × Next :=
  (b.insertTag t, .raw kind b.page.nodes.size t.name)

end Builder

/-- The characters that may stand between elements without being text. -/
def isFiller (c : Char) : Bool :=
  c == '\t' || c == '\n' || c == '\x0c' || c == '\r' || c == ' '

end PageHarvest.Html
