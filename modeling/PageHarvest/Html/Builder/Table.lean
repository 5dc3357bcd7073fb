import PageHarvest.Html.Builder.Body

namespace PageHarvest.Html

namespace Builder

/-- Takes an item as in the body, but puts what it inserts before the table. -/
def fosterInBody (b : Builder) (item : Item) : Builder × Next :=
  let (b, next) := { b with fostering := true }.inBody item
  ({ b with fostering := false }, next)

def nameInTable (b : Builder) (name : String) : Bool :=
  b.nameInScope Element.limitsTableScope name

def clearToTable (b : Builder) : Builder :=
  b.popUntilCurrent Element.limitsTableScope

def inTable (b : Builder) (item : Item) : Builder × Next :=
  match item with
  | .char _ =>
    if b.currentHas (·.isHtmlIn tableFrameNames) then
      { b with tableMode := b.mode, tableText := [] }.againIn .inTableText
    else b.fosterInBody item
  | .comment text => (b.appendComment text).done
  | .opening t =>
    let name := t.name
    if name == "caption" then ((b.clearToTable.setMarker.openTag t).inMode .inCaption).done
    else if name == "colgroup" then ((b.clearToTable.openTag t).inMode .inColumns).done
    else if name == "col" then (b.clearToTable.openImplied "colgroup").againIn .inColumns
    else if sectionNames.contains name then ((b.clearToTable.openTag t).inMode .inSection).done
    else if cellNames.contains name || name == "tr" then
      (b.clearToTable.openImplied "tbody").againIn .inSection
    else if name == "table" then
      if b.nameInTable "table" then ((b.popThroughName "table").resetMode, .again) else b.done
    else if ["style", "script", "template"].contains name then b.headTag t
    else if name == "input" && isHidden t then (b.insertTag t).done
    else if name == "form" then
      if b.form.isNone && !b.isOpen "template" then
        { b.insertTag t with form := some b.page.nodes.size }.done
      else b.done
    else b.fosterInBody item
  | .closing name =>
    if name == "table" then
      (if b.nameInTable "table" then (b.popThroughName "table").resetMode else b).done
    else if name == "body" || name == "html" || tablePartNames.contains name then b.done
    else if name == "template" then b.closeTemplate.done
    else b.fosterInBody item
  | .finish => b.inBody item

/-- Text in a table stays there if it is filler, and goes before the table otherwise. -/
def flushTableText (b : Builder) : Builder :=
  let text := b.tableText
  let b := { b with tableText := [] }
  if text.all isFiller then text.foldl appendChar b
  else text.foldl (fun b c => (b.fosterInBody (.char c)).1) b

def inTableText (b : Builder) : Item → Builder × Next
  | .char c =>
    (if c == '\x00' then b else { b with tableText := b.tableText ++ [c] }).done
  | _ => b.flushTableText.againIn b.tableMode

def inCaption (b : Builder) (item : Item) : Builder × Next :=
  let close := (b.endImplied.popThroughName "caption").clearToMarker
  let leave :=
    if b.nameInTable "caption" then close.againIn .inTable else b.done
  match item with
  | .opening t => if tablePartNames.contains t.name then leave else b.inBody item
  | .closing name =>
    if name == "caption" then
      (if b.nameInTable "caption" then close.inMode .inTable else b).done
    else if name == "table" then leave
    else if name == "body" || name == "html" || tablePartNames.contains name then b.done
    else b.inBody item
  | _ => b.inBody item

def inColumns (b : Builder) (item : Item) : Builder × Next :=
  let leave := if b.currentIs "colgroup" then b.pop.againIn .inTable else b.done
  match item with
  | .char c => if isFiller c then (b.appendChar c).done else leave
  | .comment text => (b.appendComment text).done
  | .opening t =>
    if t.name == "html" then (b.mergeRoot t).done
    else if t.name == "col" then (b.insertTag t).done
    else if t.name == "template" then b.headTag t
    else leave
  | .closing name =>
    if name == "colgroup" then
      (if b.currentIs "colgroup" then b.pop.inMode .inTable else b).done
    else if name == "col" then b.done
    else if name == "template" then b.closeTemplate.done
    else leave
  | .finish => b.inBody item

def clearToSection (b : Builder) : Builder :=
  b.popUntilCurrent Element.holdsRows

def inSection (b : Builder) (item : Item) : Builder × Next :=
  let leave :=
    let open? := b.inScope Element.limitsTableScope fun id =>
      b.has id (·.isHtmlIn ["table", "tbody", "tfoot"])
    if open? then b.clearToSection.pop.againIn .inTable else b.done
  match item with
  | .opening t =>
    let name := t.name
    if name == "tr" then ((b.clearToSection.openTag t).inMode .inRow).done
    else if cellNames.contains name then (b.clearToSection.openImplied "tr").againIn .inRow
    else if ["caption", "col", "colgroup"].contains name || sectionNames.contains name then leave
    else b.inTable item
  | .closing name =>
    if sectionNames.contains name then
      (if b.nameInTable name then b.clearToSection.pop.inMode .inTable else b).done
    else if name == "table" then leave
    else if name == "body" || name == "html" || tablePartNames.contains name then b.done
    else b.inTable item
  | _ => b.inTable item

def clearToRow (b : Builder) : Builder :=
  b.popUntilCurrent Element.holdsCells

def inRow (b : Builder) (item : Item) : Builder × Next :=
  let close := b.clearToRow.pop
  let leave := if b.nameInTable "tr" then close.againIn .inSection else b.done
  match item with
  | .opening t =>
    if cellNames.contains t.name then
      (((b.clearToRow.openTag t).inMode .inCell).setMarker).done
    else if tablePartNames.contains t.name then leave
    else b.inTable item
  | .closing name =>
    if name == "tr" then (if b.nameInTable "tr" then close.inMode .inSection else b).done
    else if name == "table" then leave
    else if sectionNames.contains name then (if b.nameInTable name then leave else b.done)
    else if name == "body" || name == "html" || tablePartNames.contains name then b.done
    else b.inTable item
  | _ => b.inTable item

def closeCell (b : Builder) : Builder :=
  (b.endImplied.popThrough (·.isHtmlIn cellNames)).clearToMarker

def inCell (b : Builder) (item : Item) : Builder × Next :=
  match item with
  | .opening t =>
    if tablePartNames.contains t.name then
      if b.inScope Element.limitsTableScope fun id => b.has id (·.isHtmlIn cellNames) then
        b.closeCell.againIn .inRow
      else b.done
    else b.inBody item
  | .closing name =>
    if cellNames.contains name then
      (if b.nameInTable name then
        ((b.endImplied.popThroughName name).clearToMarker).inMode .inRow
      else b).done
    else if name == "table" || name == "tr" || sectionNames.contains name then
      if b.nameInTable name then b.closeCell.againIn .inRow else b.done
    else if name == "body" || name == "html" || tablePartNames.contains name then b.done
    else b.inBody item
  | _ => b.inBody item

def closeSelect (b : Builder) : Builder :=
  (b.popThroughName "select").resetMode

def popIf (b : Builder) (name : String) : Builder :=
  if b.currentIs name then b.pop else b

def inSelect (b : Builder) (item : Item) : Builder × Next :=
  let selectOpen := b.nameInScope Element.limitsSelectScope "select"
  match item with
  | .char c => (if c == '\x00' then b else b.appendChar c).done
  | .comment text => (b.appendComment text).done
  | .opening t =>
    let name := t.name
    if name == "html" then (b.mergeRoot t).done
    else if name == "option" then ((b.popIf "option").openTag t).done
    else if name == "optgroup" then (((b.popIf "option").popIf "optgroup").openTag t).done
    else if name == "select" then (if selectOpen then b.closeSelect else b).done
    else if ["input", "keygen", "textarea"].contains name then
      if selectOpen then (b.closeSelect, .again) else b.done
    else if name == "script" || name == "template" then b.headTag t
    else b.done
  | .closing name =>
    if name == "optgroup" then
      let outer := (b.stack.drop 1).head?
      let inGroup := outer.any fun id => b.page.isHtml id "optgroup"
      ((if inGroup then b.popIf "option" else b).popIf "optgroup").done
    else if name == "option" then (b.popIf "option").done
    else if name == "select" then (if selectOpen then b.closeSelect else b).done
    else if name == "template" then b.closeTemplate.done
    else b.done
  | .finish => b.inBody item

def inSelectInTable (b : Builder) (item : Item) : Builder × Next :=
  let parts := ["caption", "table", "tbody", "tfoot", "thead", "tr", "td", "th"]
  match item with
  | .opening t => if parts.contains t.name then (b.closeSelect, .again) else b.inSelect item
  | .closing name =>
    if parts.contains name then
      if b.nameInTable name then (b.closeSelect, .again) else b.done
    else b.inSelect item
  | _ => b.inSelect item

def turnInto (b : Builder) (mode : Mode) : Builder × Next :=
  { b with templateModes := mode :: b.templateModes.drop 1 }.againIn mode

def inTemplate (b : Builder) (item : Item) : Builder × Next :=
  match item with
  | .char c => if c == '\x00' then b.done else b.inBody item
  | .comment _ => b.inBody item
  | .opening t =>
    if headNames.contains t.name then b.headTag t
    else if t.name == "caption" || t.name == "colgroup" || sectionNames.contains t.name then
      b.turnInto .inTable
    else if t.name == "col" then b.turnInto .inColumns
    else if t.name == "tr" then b.turnInto .inSection
    else if cellNames.contains t.name then b.turnInto .inRow
    else b.turnInto .inBody
  | .closing name => (if name == "template" then b.closeTemplate else b).done
  | .finish => b.finishTemplate

end Builder
end PageHarvest.Html
