import PageHarvest.Html.Builder.Formatting

namespace PageHarvest.Html

def svgNames : List String :=
  ["altGlyph", "altGlyphDef", "altGlyphItem", "animateColor", "animateMotion", "animateTransform",
   "clipPath", "feBlend", "feColorMatrix", "feComponentTransfer", "feComposite",
   "feConvolveMatrix", "feDiffuseLighting", "feDisplacementMap", "feDistantLight",
   "feDropShadow", "feFlood", "feFuncA", "feFuncB", "feFuncG", "feFuncR", "feGaussianBlur",
   "feImage", "feMerge", "feMergeNode", "feMorphology", "feOffset", "fePointLight",
   "feSpecularLighting", "feSpotLight", "feTile", "feTurbulence", "foreignObject", "glyphRef",
   "linearGradient", "radialGradient", "textPath"]

def svgAttributeNames : List String :=
  ["attributeName", "attributeType", "baseFrequency", "baseProfile", "calcMode", "clipPathUnits",
   "diffuseConstant", "edgeMode", "filterUnits", "glyphRef", "gradientTransform",
   "gradientUnits", "kernelMatrix", "kernelUnitLength", "keyPoints", "keySplines", "keyTimes",
   "lengthAdjust", "limitingConeAngle", "markerHeight", "markerUnits", "markerWidth",
   "maskContentUnits", "maskUnits", "numOctaves", "pathLength", "patternContentUnits",
   "patternTransform", "patternUnits", "pointsAtX", "pointsAtY", "pointsAtZ", "preserveAlpha",
   "preserveAspectRatio", "primitiveUnits", "refX", "refY", "repeatCount", "repeatDur",
   "requiredExtensions", "requiredFeatures", "specularConstant", "specularExponent",
   "spreadMethod", "startOffset", "stdDeviation", "stitchTiles", "surfaceScale",
   "systemLanguage", "tableValues", "targetX", "targetY", "textLength", "viewBox", "viewTarget",
   "xChannelSelector", "yChannelSelector", "zoomAndPan"]

def foreignAttributeNames : List (String × String) :=
  [("xlink:actuate", "actuate"), ("xlink:arcrole", "arcrole"), ("xlink:href", "href"),
   ("xlink:role", "role"), ("xlink:show", "show"), ("xlink:title", "title"),
   ("xlink:type", "type"), ("xml:lang", "lang"), ("xml:space", "space"), ("xmlns", "xmlns"),
   ("xmlns:xlink", "xlink")]

/-- The spelling of a name among the given ones, which differ from it in case only. -/
def spelling (names : List String) (name : String) : String :=
  (names.find? fun n => n.toList.map Char.toLower == name.toList).getD name

def Attribute.inSpace (space : Space) (a : Attribute) : Attribute :=
  let name :=
    match space with
    | .html => a.name
    | .svg => spelling svgAttributeNames a.name
    | .mathml => spelling ["definitionURL"] a.name
  match foreignAttributeNames.find? fun n => n.1 == name with
  | some n => { a with name := n.2, foreign := true }
  | none => { a with name := name }

/-- Start tags that end the foreign elements around them. -/
def breakoutNames : List String :=
  ["b", "big", "blockquote", "body", "br", "center", "code", "dd", "div", "dl", "dt", "em",
   "embed", "h1", "h2", "h3", "h4", "h5", "h6", "head", "hr", "i", "img", "li", "listing",
   "menu", "meta", "nobr", "ol", "p", "pre", "ruby", "s", "small", "span", "strong", "strike",
   "sub", "sup", "table", "tt", "u", "ul", "var"]

def Tag.breaksOut (t : Tag) : Bool :=
  breakoutNames.contains t.name ||
    (t.name == "font" && t.attributes.any fun a => ["color", "face", "size"].contains a.name)

namespace Builder

def isForeign (b : Builder) (item : Item) : Bool :=
  match b.stack.head?.bind b.element?, item with
  | none, _ | _, .finish => false
  | some e, _ =>
    if e.space == .html then false
    else match item with
      | .char _ => !(e.holdsText || e.holdsHtml)
      | .opening t =>
        let inText := e.holdsText && t.name != "mglyph" && t.name != "malignmark"
        let svgNote := e.space == .mathml && e.name == "annotation-xml" && t.name == "svg"
        !(inText || e.holdsHtml || svgNote)
      | _ => true

def foreignElement (t : Tag) (space : Space) : Element where
  space := space
  name := t.name
  attributes := t.attributes.map (·.inSpace space)

def insertForeign (b : Builder) (t : Tag) (e : Element) : Builder :=
  if t.selfClosing then b.insert e else b.openElement e

def enterForeign (b : Builder) (t : Tag) (space : Space) : Builder :=
  b.insertForeign t (foreignElement t space)

/-- Closes a foreign element by its end tag; nothing if HTML around it has to take the tag. -/
def closeForeign? (b : Builder) (name : String) : Option Builder :=
  let rec search (first : Bool) : List NodeId → Option (List NodeId)
    | [] | [_] => some b.stack
    | id :: outer =>
      if !first && b.has id (·.space == .html) then none
      else if b.has id fun e => e.name.toList.map Char.toLower == name.toList then some outer
      else search false outer
  (search true b.stack).map fun stack => { b with stack := stack }

def leaveForeign (b : Builder) : Builder :=
  b.popUntilCurrent fun e => e.space == .html || e.holdsText || e.holdsHtml

/-- Takes an item in foreign content, and says whether that was all. If not, the mode takes it. -/
def inForeign (b : Builder) : Item → Builder × Bool
  | .char c =>
    if c == '\x00' then (b.appendChar '\ufffd', true)
    else ((if isFiller c then b else { b with framesetAllowed := false }).appendChar c, true)
  | .comment text => (b.appendComment text, true)
  | .opening t =>
    if t.breaksOut then (b.leaveForeign, false)
    else
      match b.stack.head?.bind b.element? with
      | some e =>
        let name := if e.space == .svg then spelling svgNames t.name else t.name
        (b.insertForeign t { foreignElement t e.space with name := name }, true)
      | none => (b, false)
  | .closing name =>
    if name == "br" || name == "p" then (b.leaveForeign, false)
    else
      match b.closeForeign? name with
      | some b => (b, true)
      | none => (b, false)
  | .finish => (b, false)

end Builder
end PageHarvest.Html
