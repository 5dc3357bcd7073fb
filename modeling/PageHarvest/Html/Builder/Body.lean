import PageHarvest.Html.Builder.Formatting
import PageHarvest.Html.Builder.Foreign

namespace PageHarvest.Html

namespace Builder

def openTemplate (b : Builder) (t : Tag) : Builder :=
  let b := (b.openTag t).setMarker
  { b with framesetAllowed := false, mode := .inTemplate,
           templateModes := .inTemplate :: b.templateModes }

def closeTemplate (b : Builder) : Builder :=
  if b.isOpen "template" then
    let b := ((b.endImplied thoroughEndNames).popThroughName "template").clearToMarker
    { b with templateModes := b.templateModes.drop 1 }.resetMode
  else b

def headTag (b : Builder) (t : Tag) : Builder × Next :=
  if headVoidNames.contains t.name then (b.insertTag t).done
  else if t.name == "template" then (b.openTemplate t).done
  else if t.name == "script" then b.insertRaw t .script
  else if t.name == "title" then b.insertRaw t .escapable
  else b.insertRaw t .plain

def openHead (b : Builder) (t : Tag) : Builder :=
  let id := b.page.nodes.size
  { b.openTag t with head := some id, mode := .inHead }

def endsHead (name : String) : Bool :=
  ["body", "html", "br"].contains name

def start (b : Builder) : Item → Builder × Next
  | .char c => if isFiller c then b.done else { b with oldStyle := true }.againIn .beforeHtml
  | .comment text => (b.commentIn Document.root text).done
  | _ => { b with oldStyle := true }.againIn .beforeHtml

def beforeHtml (b : Builder) (item : Item) : Builder × Next :=
  let openBare := (b.openRoot []).againIn .beforeHead
  match item with
  | .comment text => (b.commentIn Document.root text).done
  | .char c => if isFiller c then b.done else openBare
  | .opening t =>
    if t.name == "html" then ((b.openRoot t.attributes).inMode .beforeHead).done else openBare
  | .closing name => if name == "head" || endsHead name then openBare else b.done
  | .finish => openBare

def beforeHead (b : Builder) (item : Item) : Builder × Next :=
  let openBare := ((b.openHead { name := "head" }), Next.again)
  match item with
  | .comment text => (b.appendComment text).done
  | .char c => if isFiller c then b.done else openBare
  | .opening t =>
    if t.name == "html" then (b.mergeRoot t).done
    else if t.name == "head" then (b.openHead t).done
    else openBare
  | .closing name => if name == "head" || endsHead name then openBare else b.done
  | .finish => openBare

def inHead (b : Builder) (item : Item) : Builder × Next :=
  let leave := b.pop.againIn .afterHead
  match item with
  | .comment text => (b.appendComment text).done
  | .char c => if isFiller c then (b.appendChar c).done else leave
  | .opening t =>
    if t.name == "html" then (b.mergeRoot t).done
    else if headNames.contains t.name || t.name == "noscript" then b.headTag t
    else if t.name == "head" then b.done
    else leave
  | .closing name =>
    if name == "head" then (b.pop.inMode .afterHead).done
    else if name == "template" then b.closeTemplate.done
    else if endsHead name then leave
    else b.done
  | .finish => leave

def afterHead (b : Builder) (item : Item) : Builder × Next :=
  let openBare := (b.openImplied "body").againIn .inBody
  match item with
  | .comment text => (b.appendComment text).done
  | .char c => if isFiller c then (b.appendChar c).done else openBare
  | .opening t =>
    if t.name == "html" then (b.mergeRoot t).done
    else if t.name == "body" then
      ({ b.openTag t with framesetAllowed := false }.inMode .inBody).done
    else if t.name == "frameset" then ((b.openTag t).inMode .inFrameset).done
    else if headNames.contains t.name then
      match b.head with
      | none => b.done
      | some head =>
        let (b, next) := { b with stack := head :: b.stack }.headTag t
        (b.unstack head, next)
    else if t.name == "head" then b.done
    else openBare
  | .closing name =>
    if name == "template" then b.closeTemplate.done
    else if endsHead name then openBare
    else b.done
  | .finish => openBare

def bodyId? (b : Builder) : Option NodeId :=
  (b.stack.dropLast.getLast?).filter fun id => b.page.isHtml id "body"

def openBlock (b : Builder) (t : Tag) : Builder :=
  b.closeOpenParagraph.openTag t

def noFrameset (b : Builder) : Builder :=
  { b with framesetAllowed := false }

def isHidden (t : Tag) : Bool :=
  (t.attribute? "type").any fun v => v.toList.map Char.toLower == "hidden".toList

/-- Closes the item of a list that is still open where the next one starts. -/
def closeItem (b : Builder) (names : List String) : Builder :=
  let rec search : List NodeId → Option String
    | [] => none
    | id :: ids =>
      match b.element? id with
      | none => search ids
      | some e =>
        if e.isHtmlIn names then some e.name
        else if e.isSpecial && !e.isHtmlIn ["address", "div", "p"] then none
        else search ids
  match search b.stack with
  | some name => (b.endImpliedExcept name).popThroughName name
  | none => b

def bodyChar (b : Builder) (c : Char) : Builder :=
  if c == '\x00' then b
  else
    let b := b.reconstruct
    (if isFiller c then b else b.noFrameset).appendChar c

def bodyVoid (b : Builder) (t : Tag) : Builder :=
  let b := b.reconstruct.insertTag t
  if t.name == "input" && isHidden t then b else b.noFrameset

def selectMode (mode : Mode) : Mode :=
  if [Mode.inTable, .inCaption, .inSection, .inRow, .inCell].contains mode then .inSelectInTable
  else .inSelect

def bodyOpening (b : Builder) (t : Tag) : Builder × Next :=
  let name := t.name
  if name == "html" then (b.mergeRoot t).done
  else if headNames.contains name then b.headTag t
  else if name == "body" then
    match b.bodyId?.filter fun _ => !b.isOpen "template" with
    | some id =>
      { b with page := b.page.addMissingAttributes id t.attributes }.noFrameset.done
    | none => b.done
  else if name == "frameset" then
    match b.bodyId?.filter fun _ => b.framesetAllowed with
    | some id =>
      let b := { b with page := b.page.detach id, stack := b.stack.getLast?.toList }
      ((b.openTag t).inMode .inFrameset).done
    | none => b.done
  else if blockNames.contains name then (b.openBlock t).done
  else if headingNames.contains name then
    let b := b.closeOpenParagraph
    ((if b.currentHas (·.isHtmlIn headingNames) then b.pop else b).openTag t).done
  else if name == "pre" || name == "listing" then
    { (b.openBlock t).noFrameset with dropsFeed := true }.done
  else if name == "form" then
    let inTemplate := b.isOpen "template"
    if b.form.isSome && !inTemplate then b.done
    else
      let b := b.closeOpenParagraph
      let id := b.page.nodes.size
      let b := b.openTag t
      (if inTemplate then b else { b with form := some id }).done
  else if name == "li" then ((b.noFrameset.closeItem ["li"]).openBlock t).done
  else if name == "dd" || name == "dt" then
    ((b.noFrameset.closeItem ["dd", "dt"]).openBlock t).done
  else if name == "plaintext" then { b.openBlock t with plaintext := true }.done
  else if name == "button" then
    let b :=
      if b.nameInScope Element.limitsScope "button" then b.endImplied.popThroughName "button"
      else b
    (b.reconstruct.openTag t).noFrameset.done
  else if name == "a" then (b.closeOpenLink.reconstruct.openFormatting t).done
  else if formattingNames.contains name then (b.reconstruct.openFormatting t).done
  else if name == "nobr" then
    let b := b.reconstruct
    let b :=
      if b.nameInScope Element.limitsScope "nobr" then (b.closeFormatting "nobr").reconstruct
      else b
    (b.openFormatting t).done
  else if shieldNames.contains name then
    (b.reconstruct.openTag t).setMarker.noFrameset.done
  else if name == "table" then
    let b := if b.oldStyle then b else b.closeOpenParagraph
    ((b.openTag t).noFrameset.inMode .inTable).done
  else if voidNames.contains name then (b.bodyVoid t).done
  else if sourceNames.contains name then (b.insertTag t).done
  else if name == "hr" then (b.closeOpenParagraph.insertTag t).noFrameset.done
  else if name == "image" then (b.bodyVoid { t with name := "img" }).done
  else if name == "textarea" then
    { b.noFrameset with dropsFeed := true }.insertRaw t .escapable
  else if name == "xmp" then b.closeOpenParagraph.reconstruct.noFrameset.insertRaw t .plain
  else if name == "iframe" then b.noFrameset.insertRaw t .plain
  else if name == "noembed" || name == "noscript" then b.insertRaw t .plain
  else if name == "select" then
    let b := (b.reconstruct.openTag t).noFrameset
    (b.inMode (selectMode b.mode)).done
  else if name == "optgroup" || name == "option" then
    ((if b.currentIs "option" then b.pop else b).reconstruct.openTag t).done
  else if name == "rb" || name == "rtc" then
    let b := if b.nameInScope Element.limitsScope "ruby" then b.endImplied else b
    (b.openTag t).done
  else if name == "rp" || name == "rt" then
    let b :=
      if b.nameInScope Element.limitsScope "ruby" then b.endImpliedExcept "rtc" else b
    (b.openTag t).done
  else if name == "math" then (b.enterForeign t .mathml).done
  else if name == "svg" then (b.enterForeign t .svg).done
  else if misplacedNames.contains name then b.done
  else (b.reconstruct.openTag t).done

def closeForm (b : Builder) : Builder :=
  if b.isOpen "template" then
    if b.nameInScope Element.limitsScope "form" then b.endImplied.popThroughName "form" else b
  else
    match b.form with
    | none => b
    | some id =>
      let b := { b with form := none }
      if b.inScope Element.limitsScope (· == id) then b.endImplied.unstack id else b

def bodyClosing (b : Builder) (name : String) : Builder × Next :=
  let bodyInScope := b.nameInScope Element.limitsScope "body"
  if name == "template" then b.closeTemplate.done
  else if name == "body" then (if bodyInScope then b.inMode .afterBody else b).done
  else if name == "html" then (if bodyInScope then b.againIn .afterBody else b.done)
  else if closableNames.contains name then
    (if b.nameInScope Element.limitsScope name then b.endImplied.popThroughName name else b).done
  else if name == "form" then b.closeForm.done
  else if name == "p" then
    let b := if b.nameInScope Element.limitsButtonScope "p" then b else b.openImplied "p"
    b.closeParagraph.done
  else if name == "li" then
    (if b.nameInScope Element.limitsListScope name then
      (b.endImpliedExcept name).popThroughName name
    else b).done
  else if name == "dd" || name == "dt" then
    (if b.nameInScope Element.limitsScope name then
      (b.endImpliedExcept name).popThroughName name
    else b).done
  else if headingNames.contains name then
    (if b.inScope Element.limitsScope fun id => b.has id (·.isHtmlIn headingNames) then
      b.endImplied.popThrough (·.isHtmlIn headingNames)
    else b).done
  else if name == "a" || name == "nobr" || formattingNames.contains name then
    (b.closeFormatting name).done
  else if shieldNames.contains name then
    (if b.nameInScope Element.limitsScope name then
      (b.endImplied.popThroughName name).clearToMarker
    else b).done
  else if name == "br" then (b.bodyVoid { name := "br" }).done
  else (b.closeAny name).done

def finishTemplate (b : Builder) : Builder × Next :=
  if b.isOpen "template" then
    let b := (b.popThroughName "template").clearToMarker
    ({ b with templateModes := b.templateModes.drop 1 }.resetMode, .again)
  else b.done

def inBody (b : Builder) : Item → Builder × Next
  | .char c => (b.bodyChar c).done
  | .comment text => (b.appendComment text).done
  | .opening t => b.bodyOpening t
  | .closing name => b.bodyClosing name
  | .finish => if b.templateModes.isEmpty then b.done else b.finishTemplate

def afterBody (b : Builder) (item : Item) : Builder × Next :=
  match item with
  | .char c => if isFiller c then b.inBody item else b.againIn .inBody
  | .comment text => (b.commentIn (b.stack.getLastD Document.root) text).done
  | .opening t => if t.name == "html" then (b.mergeRoot t).done else b.againIn .inBody
  | .closing name =>
    if name == "html" then (b.inMode .afterPage).done else b.againIn .inBody
  | .finish => b.done

def afterPage (b : Builder) (item : Item) : Builder × Next :=
  match item with
  | .char c => if isFiller c then b.inBody item else b.againIn .inBody
  | .comment text => (b.commentIn Document.root text).done
  | .opening t => if t.name == "html" then (b.mergeRoot t).done else b.againIn .inBody
  | .closing _ => b.againIn .inBody
  | .finish => b.done

def inFrameset (b : Builder) : Item → Builder × Next
  | .char c => (if isFiller c then b.appendChar c else b).done
  | .comment text => (b.appendComment text).done
  | .opening t =>
    if t.name == "html" then (b.mergeRoot t).done
    else if t.name == "frameset" then (b.openTag t).done
    else if t.name == "frame" then (b.insertTag t).done
    else if t.name == "noframes" then b.headTag t
    else b.done
  | .closing name =>
    if name == "frameset" && b.stack.length != 1 then
      let b := b.pop
      (if b.currentIs "frameset" then b else b.inMode .afterFrameset).done
    else b.done
  | .finish => b.done

def afterFrameset (b : Builder) : Item → Builder × Next
  | .char c => (if isFiller c then b.appendChar c else b).done
  | .comment text => (b.appendComment text).done
  | .opening t =>
    if t.name == "html" then (b.mergeRoot t).done
    else if t.name == "noframes" then b.headTag t
    else b.done
  | .closing name => (if name == "html" then b.inMode .afterFramesetPage else b).done
  | .finish => b.done

def afterFramesetPage (b : Builder) (item : Item) : Builder × Next :=
  match item with
  | .char c => if isFiller c then b.inBody item else b.done
  | .comment text => (b.commentIn Document.root text).done
  | .opening t =>
    if t.name == "html" then (b.mergeRoot t).done
    else if t.name == "noframes" then b.headTag t
    else b.done
  | _ => b.done

end Builder
end PageHarvest.Html
