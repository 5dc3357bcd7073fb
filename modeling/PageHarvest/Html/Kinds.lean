import PageHarvest.Html.Document

namespace PageHarvest.Html

def headVoidNames : List String :=
  ["base", "basefont", "bgsound", "link", "meta"]

/-- Elements that the head takes wherever they stand. -/
def headNames : List String :=
  headVoidNames ++ ["noframes", "script", "style", "template", "title"]

def headingNames : List String :=
  ["h1", "h2", "h3", "h4", "h5", "h6"]

def blockNames : List String :=
  ["address", "article", "aside", "blockquote", "center", "details", "dialog", "dir", "div", "dl",
   "fieldset", "figcaption", "figure", "footer", "header", "hgroup", "main", "menu", "nav", "ol",
   "p", "section", "summary", "ul"]

/-- Elements whose end tag ends them together with what is open in them. -/
def closableNames : List String :=
  blockNames.filter (· != "p") ++ ["button", "listing", "pre"]

/-- Elements that go on in the next block when the one around them ends. -/
def formattingNames : List String :=
  ["b", "big", "code", "em", "font", "i", "s", "small", "strike", "strong", "tt", "u"]

def shieldNames : List String :=
  ["applet", "marquee", "object"]

def voidNames : List String :=
  ["area", "br", "embed", "img", "keygen", "wbr", "input"]

/-- Elements without content that leave formatting alone. -/
def sourceNames : List String :=
  ["param", "source", "track"]

/-- Parts of tables and framesets, which mean nothing elsewhere. -/
def misplacedNames : List String :=
  ["caption", "col", "colgroup", "frame", "head", "tbody", "td", "tfoot", "th", "thead", "tr"]

def tablePartNames : List String :=
  ["caption", "col", "colgroup", "tbody", "td", "tfoot", "th", "thead", "tr"]

def sectionNames : List String :=
  ["tbody", "tfoot", "thead"]

def cellNames : List String :=
  ["td", "th"]

def tableFrameNames : List String :=
  ["table", "tbody", "tfoot", "thead", "tr"]

def impliedEndNames : List String :=
  ["dd", "dt", "li", "option", "optgroup", "p", "rb", "rp", "rt", "rtc"]

def thoroughEndNames : List String :=
  impliedEndNames ++ ["caption", "colgroup", "tbody", "td", "tfoot", "th", "thead", "tr"]

/-- Elements that no formatting element reaches across. -/
def specialNames : List String :=
  ["address", "applet", "area", "article", "aside", "base", "basefont", "bgsound", "blockquote",
   "body", "br", "button", "caption", "center", "col", "colgroup", "dd", "details", "dir", "div",
   "dl", "dt", "embed", "fieldset", "figcaption", "figure", "footer", "form", "frame", "frameset",
   "h1", "h2", "h3", "h4", "h5", "h6", "head", "header", "hgroup", "hr", "html", "iframe", "img",
   "input", "isindex", "li", "link", "listing", "main", "marquee", "menu", "meta", "nav",
   "noembed", "noframes", "noscript", "object", "ol", "p", "param", "plaintext", "pre", "script",
   "section", "select", "source", "style", "summary", "table", "tbody", "td", "template",
   "textarea", "tfoot", "th", "thead", "title", "tr", "track", "ul", "wbr", "xmp"]

def Element.isHtmlIn (e : Element) (names : List String) : Bool :=
  e.space == .html && names.contains e.name

def Element.isSpecial (e : Element) : Bool :=
  e.isHtmlIn specialNames

def Element.holdsText (e : Element) : Bool :=
  e.space == .mathml && ["mi", "mo", "mn", "ms", "mtext"].contains e.name

def Element.holdsHtml (e : Element) : Bool :=
  e.space == .svg && ["foreignObject", "desc", "title"].contains e.name

def Element.limitsScope (e : Element) : Bool :=
  e.isHtmlIn ["applet", "caption", "html", "table", "td", "th", "marquee", "object", "template"] ||
    e.holdsText || e.holdsHtml

def Element.limitsListScope (e : Element) : Bool :=
  e.limitsScope || e.isHtmlIn ["ol", "ul"]

def Element.limitsButtonScope (e : Element) : Bool :=
  e.limitsScope || e.isHtmlIn ["button"]

def Element.limitsTableScope (e : Element) : Bool :=
  e.isHtmlIn ["html", "table", "template"]

def Element.limitsSelectScope (e : Element) : Bool :=
  !e.isHtmlIn ["optgroup", "option"]

def Element.holdsRows (e : Element) : Bool :=
  e.isHtmlIn ["tbody", "tfoot", "thead", "template", "html"]

def Element.holdsCells (e : Element) : Bool :=
  e.isHtmlIn ["tr", "template", "html"]

end PageHarvest.Html
