import PageHarvest.Html.Builder.Basic

namespace PageHarvest.Html

namespace Builder

def recentFormatting (b : Builder) : List (NodeId × Tag) :=
  (b.formatting.takeWhile (!·.isMarker)).filterMap fun
    | .marker => none
    | .element id tag => some (id, tag)

def setMarker (b : Builder) : Builder :=
  { b with formatting := .marker :: b.formatting }

def clearToMarker (b : Builder) : Builder :=
  { b with formatting := (b.formatting.dropWhile (!·.isMarker)).drop 1 }

def forgetFormatting (b : Builder) (id : NodeId) : Builder :=
  { b with formatting := b.formatting.filter (!·.isFor id) }

def replaceFormatting (b : Builder) (id : NodeId) (entry : Formatting) : Builder :=
  { b with formatting := b.formatting.map fun f => if f.isFor id then entry else f }

/-- Puts an entry straight behind the one for `id`, that is, makes it the next later one. -/
def addFormattingBehind (b : Builder) (id : NodeId) (entry : Formatting) : Builder :=
  { b with formatting := b.formatting.flatMap fun f => if f.isFor id then [entry, f] else [f] }

/-- Opens an element like one that has been closed too early. -/
def reopen (b : Builder) (entry : NodeId × Tag) : Builder :=
  let (id, tag) := entry
  (b.openTag tag).replaceFormatting id (.element b.page.nodes.size tag)

/-- Opens again, in their order, the latest formatting elements that are not open. -/
def reconstruct (b : Builder) : Builder :=
  let closed := b.recentFormatting.takeWhile fun (id, _) => !b.stack.contains id
  closed.reverse.foldl reopen b

def Tag.alike (s t : Tag) : Bool :=
  s.name == t.name && s.attributes.length == t.attributes.length &&
    s.attributes.all fun a => t.attributes.contains a

/-- Opens a formatting element. Of elements that are alike the three latest are remembered. -/
def openFormatting (b : Builder) (t : Tag) : Builder :=
  let alike := b.recentFormatting.filter fun entry => Tag.alike entry.2 t
  let b := match (alike.drop 2).getLast? with
    | some entry => b.forgetFormatting entry.1
    | none => b
  let opened := b.openTag t
  { opened with formatting := .element b.page.nodes.size t :: b.formatting }

/-- Closes an element by its end tag, unless a special element is open inside it. -/
def closeAny (b : Builder) (name : String) : Builder :=
  let rec search : List NodeId → Option (List NodeId)
    | [] => none
    | id :: outer =>
      if b.has id (·.isHtml name) then some outer
      else if b.has id Element.isSpecial then none
      else search outer
  match search b.stack with
  | some outer => { b with stack := outer }
  | none => b

/-- What has been done so far with the elements between a block and the formatting around it. -/
structure Unwinding where
  builder : Builder
  /-- The outermost node of what has been moved. -/
  last : NodeId
  /-- The entry that the new formatting element comes behind, if not the old one's place. -/
  bookmark : Option NodeId := none
  /-- The elements that stay open, the outermost first. -/
  kept : List NodeId := []
  count : Nat := 0

/-- Takes one element between the block and the formatting: a copy of it goes around the block. -/
def Unwinding.step (block : NodeId) (u : Unwinding) (id : NodeId) : Unwinding :=
  let b := u.builder
  let count := u.count + 1
  match b.formatting.find? (·.isFor id) with
  | some (.element _ tag) =>
    if count > 3 then { u with builder := b.forgetFormatting id, count := count }
    else
      let copy := b.page.nodes.size
      let page := (b.page.createElement (htmlElement tag)).append copy u.last
      { builder := { b with page := page }.replaceFormatting id (.element copy tag)
        last := copy
        bookmark := if u.last == block then some copy else u.bookmark
        kept := copy :: u.kept
        count := count }
  | _ => { u with count := count }

/-- Takes a formatting element apart around a block that stands in it. -/
def splitAround (b : Builder) (id : NodeId) (tag : Tag) (block : NodeId) : Builder :=
  let inside := b.stack.takeWhile (· != id)
  let outside := (b.stack.dropWhile (· != id)).drop 1
  let deeper := inside.takeWhile (· != block)
  let between := (inside.dropWhile (· != block)).drop 1
  let u := between.foldl (Unwinding.step block) { builder := b, last := block }
  let b := u.builder
  let b := { b with page := b.page.detach u.last }
  let b := b.insertAt (b.placeIn (outside.headD Document.root)) u.last
  let copy := b.page.nodes.size
  let page := (b.page.createElement (htmlElement tag)).moveChildren block copy
  let b := { b with page := page.append block copy }
  let entry : Formatting := .element copy tag
  let b := match u.bookmark with
    | none => b.replaceFormatting id entry
    | some behind => (b.addFormattingBehind behind entry).forgetFormatting id
  { b with stack := deeper ++ copy :: block :: u.kept.reverse ++ outside }

/-- Closes a formatting element by its end tag, at most `rounds` times. -/
def closeFormattingRounds (b : Builder) (name : String) : Nat → Builder
  | 0 => b
  | rounds + 1 =>
    match b.recentFormatting.find? fun (_, tag) => tag.name == name with
    | none => b.closeAny name
    | some (id, tag) =>
      if !b.stack.contains id then b.forgetFormatting id
      else if !b.inScope Element.limitsScope (· == id) then b
      else
        match (b.stack.takeWhile (· != id)).reverse.find? fun i => b.has i Element.isSpecial with
        | none =>
          { b with stack := (b.stack.dropWhile (· != id)).drop 1 }.forgetFormatting id
        | some block => (b.splitAround id tag block).closeFormattingRounds name rounds

/-- Closes a formatting element by its end tag and keeps its effect on what stays open. -/
def closeFormatting (b : Builder) (name : String) : Builder :=
  if b.currentIs name && !b.formatting.any (·.isFor b.current) then b.pop
  else b.closeFormattingRounds name 8

def closeOpenLink (b : Builder) : Builder :=
  match b.recentFormatting.find? fun (id, _) => b.has id (·.isHtml "a") with
  | none => b
  | some (id, _) => ((b.closeFormatting "a").forgetFormatting id).unstack id

end Builder
end PageHarvest.Html
