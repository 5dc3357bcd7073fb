import PageHarvest.Text.Basic

namespace PageHarvest.Html

abbrev NodeId := Nat

/-- The vocabulary that an element belongs to. -/
inductive Space
  | html
  | svg
  | mathml
deriving DecidableEq, Repr, Inhabited

structure Attribute where
  name : String
  value : String
  /-- Whether the name belongs to a vocabulary of its own, such as that of links. -/
  foreign : Bool := false
deriving DecidableEq, Repr, Inhabited

structure Element where
  space : Space
  name : String
  attributes : List Attribute
deriving DecidableEq, Repr, Inhabited

namespace Element

def attribute? (e : Element) (name : String) : Option String :=
  (e.attributes.find? fun a => !a.foreign && a.name == name).map (·.value)

def isHtml (e : Element) (name : String) : Bool :=
  e.space == .html && e.name == name

def addMissing (e : Element) (attributes : List Attribute) : Element :=
  let missing := attributes.filter fun a => !e.attributes.any fun b => b.name == a.name
  { e with attributes := e.attributes ++ missing }

end Element

inductive Content
  | document
  /-- What a template holds. -/
  | fragment
  | doctype
  | comment (text : String)
  | text (text : String)
  | element (e : Element)
deriving DecidableEq, Repr, Inhabited

structure Node where
  content : Content
  parent : Option NodeId := none
  children : List NodeId := []
deriving DecidableEq, Repr, Inhabited

/--
The nodes of a page in the order of their creation. Node `0` is the page itself. The number of a
node says nothing about where it stands, because nodes move while a page is read.
-/
structure Document where
  nodes : Array Node
deriving DecidableEq, Repr, Inhabited

namespace Document

def blank : Document where
  nodes := #[{ content := .document }]

def root : NodeId := 0

def content (d : Document) (id : NodeId) : Content :=
  match d.nodes[id]? with
  | some node => node.content
  | none => .fragment

def parent? (d : Document) (id : NodeId) : Option NodeId :=
  d.nodes[id]? >>= (·.parent)

def children (d : Document) (id : NodeId) : List NodeId :=
  match d.nodes[id]? with
  | some node => node.children
  | none => []

def element? (d : Document) (id : NodeId) : Option Element :=
  match d.content id with
  | .element e => some e
  | _ => none

def isElement (d : Document) (id : NodeId) : Bool :=
  (d.element? id).isSome

def isHtml (d : Document) (id : NodeId) (name : String) : Bool :=
  match d.element? id with
  | some e => e.isHtml name
  | none => false

def text? (d : Document) (id : NodeId) : Option String :=
  match d.content id with
  | .text s => some s
  | _ => none

def isText (d : Document) (id : NodeId) : Bool :=
  (d.text? id).isSome

def ids (d : Document) : List NodeId :=
  List.range d.nodes.size

/-- The nodes that `next` leads to from `id` within `depth` steps, each before what follows it. -/
def walk (next : NodeId → List NodeId) : Nat → NodeId → List NodeId
  | 0, _ => []
  | depth + 1, id => (next id).flatMap fun c => c :: walk next depth c

/-- Puts the nodes of a walk before `rest`, so that none is moved again on the way up. -/
def walkBefore (next : NodeId → List NodeId) : Nat → NodeId → List NodeId → List NodeId
  | 0, _, rest => rest
  | depth + 1, id, rest =>
    (next id).foldr (fun c rest => c :: walkBefore next depth c rest) rest

theorem walkBefore_eq (next : NodeId → List NodeId) (depth : Nat) (id : NodeId)
    (rest : List NodeId) : walkBefore next depth id rest = walk next depth id ++ rest := by
  induction depth generalizing id rest with
  | zero => rfl
  | succ depth ih =>
    simp only [walkBefore, walk]
    induction next id with
    | nil => rfl
    | cons c cs ihc => rw [List.foldr_cons, ihc, ih]; simp

/-- The nodes under `id` in the order of the tree. A tree is no deeper than it has nodes. -/
def descendants (d : Document) (id : NodeId) : List NodeId :=
  walkBefore d.children d.nodes.size id []

theorem descendants_eq (d : Document) (id : NodeId) :
    d.descendants id = walk d.children d.nodes.size id := by
  simp [descendants, walkBefore_eq]

def ancestorsWithin (d : Document) : Nat → NodeId → List NodeId
  | 0, _ => []
  | depth + 1, id =>
    match d.parent? id with
    | some p => p :: d.ancestorsWithin depth p
    | none => []

/-- The nodes above `id`, the nearest first. -/
def ancestors (d : Document) (id : NodeId) : List NodeId :=
  d.ancestorsWithin d.nodes.size id

def parentElement? (d : Document) (id : NodeId) : Option NodeId :=
  (d.parent? id).filter d.isElement

/-- The elements above `id` up to the first node that is none, the nearest first. -/
def ancestorElements (d : Document) (id : NodeId) : List NodeId :=
  (d.ancestors id).takeWhile d.isElement

def siblings (d : Document) (id : NodeId) : List NodeId :=
  match d.parent? id with
  | some p => d.children p
  | none => [id]

/-- The elements before `id` among its siblings, the nearest first. -/
def previousElements (d : Document) (id : NodeId) : List NodeId :=
  ((d.siblings id).takeWhile (· != id)).reverse.filter d.isElement

/-- The elements behind `id` among its siblings, the nearest first. -/
def nextElements (d : Document) (id : NodeId) : List NodeId :=
  (((d.siblings id).dropWhile (· != id)).drop 1).filter d.isElement

def childElements (d : Document) (id : NodeId) : List NodeId :=
  (d.children id).filter d.isElement

/-- The elements under `id` that are reached through elements alone. -/
def elementsBelow (d : Document) (id : NodeId) : List NodeId :=
  walkBefore d.childElements d.nodes.size id []

/-- The words of the texts under `id`, with one blank between two of them. -/
def elementText (d : Document) (id : NodeId) : String :=
  let texts := (d.descendants id).filterMap d.text?
  String.ofList (Text.joinWith " " (texts.flatMap fun t => Text.words t.toList))

def modify (d : Document) (id : NodeId) (f : Node → Node) : Document where
  nodes := d.nodes.modify id f

/-- Adds a node that stands nowhere yet; its number is the former number of nodes. -/
def create (d : Document) (c : Content) : Document where
  nodes := d.nodes.push { content := c }

def detach (d : Document) (id : NodeId) : Document :=
  match d.parent? id with
  | none => d
  | some p =>
    (d.modify p fun n => { n with children := n.children.filter (· != id) }).modify id
      fun n => { n with parent := none }

/-- Puts `id` behind the last child of `parent`. -/
def append (d : Document) (parent id : NodeId) : Document :=
  ((d.detach id).modify parent fun n => { n with children := n.children ++ [id] }).modify id
    fun n => { n with parent := some parent }

/-- Puts `id` before `sibling`, if that stands anywhere. -/
def insertBefore (d : Document) (sibling id : NodeId) : Document :=
  let d := d.detach id
  match d.parent? sibling with
  | none => d
  | some p =>
    let place (children : List NodeId) : List NodeId :=
      children.takeWhile (· != sibling) ++ id :: children.dropWhile (· != sibling)
    (d.modify p fun n => { n with children := place n.children }).modify id
      fun n => { n with parent := some p }

def extendText (d : Document) (id : NodeId) (c : Char) : Document :=
  d.modify id fun n =>
    match n.content with
    | .text s => { n with content := .text (s.push c) }
    | _ => n

/-- Adds a character at the end of `parent`, in its last child if that is a text. -/
def appendChar (d : Document) (parent : NodeId) (c : Char) : Document :=
  match (d.children parent).getLast?.filter d.isText with
  | some last => d.extendText last c
  | none => (d.create (.text (String.singleton c))).append parent d.nodes.size

def insertCharBefore (d : Document) (sibling : NodeId) (c : Char) : Document :=
  match ((d.siblings sibling).takeWhile (· != sibling)).getLast?.filter d.isText with
  | some previous => d.extendText previous c
  | none =>
    if (d.parent? sibling).isSome then
      (d.create (.text (String.singleton c))).insertBefore sibling d.nodes.size
    else d

def moveChildren (d : Document) (source target : NodeId) : Document :=
  (d.children source).foldl (fun d id => d.append target id) d

def addMissingAttributes (d : Document) (id : NodeId) (attributes : List Attribute) : Document :=
  d.modify id fun n =>
    match n.content with
    | .element e => { n with content := .element (e.addMissing attributes) }
    | _ => n

/-- Adds an element that stands nowhere yet. A template comes with a node for what it holds. -/
def createElement (d : Document) (e : Element) : Document :=
  let id := d.nodes.size
  let d := d.create (.element e)
  if e.isHtml "template" then (d.create .fragment).append id (id + 1) else d

/-- The node that takes what stands in `id`. -/
def contentNode (d : Document) (id : NodeId) : NodeId :=
  if d.isHtml id "template" then (d.children id).headD id else id

end Document
end PageHarvest.Html
