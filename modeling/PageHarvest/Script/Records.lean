import PageHarvest.Script.Statement
import PageHarvest.Job.Basic

namespace PageHarvest.Script

/-- Stands in a script whose links stay as they are written in the page. -/
def unresolvedLinksNotice : String :=
  "Relative hrefs are left unresolved: no base URL is known for these pages."

def noFieldsNotice : String :=
  "No fields configured; the container text is recorded."

def resolvesLinks (e : Extraction) (baseKnown : Bool) : Bool :=
  e.mode == .links && baseKnown

def fieldStatements (f : FieldDescriptor) : List Statement :=
  let entry := [.code "record[", .quoted f.name]
  if f.hasTag then
    [ .line [.code "element = container.select_one(", .quoted f.selector, .code ")"],
      .line (entry ++
        [.code "] = element.get_text(strip=True) if element else None"]) ]
  else
    [ .comment ("Field " ++ commentText f.name ++ " has no tag configured."),
      .line (entry ++ [.code "] = None"]) ]

def containerTextStatements : List Statement :=
  [ .comment noFieldsNotice,
    .line [
      .code "record[", .quoted "text", .code "] = container.get_text(", .quoted " ",
      .code ", strip=True)"] ]

def structuredBody (e : Extraction) : List Statement :=
  let entries :=
    if e.fields.isEmpty then containerTextStatements else e.fields.flatMap fieldStatements
  [ .code "records = []",
    .line [.code "containers = soup.select(", .quoted e.container.selector, .code ")"],
    .under "for container in containers:"
      (.code "record = \x7b\x7d" :: entries ++ [.code "records.append(record)"]),
    .code "return records" ]

def simpleBody (f : FieldDescriptor) : List Statement :=
  [ .line [
      .code "return [element.get_text(strip=True) for element in soup.select(",
      .quoted f.selector, .code ")]"] ]

/-- Appends the record of the link `anchor`, unless its target is blank. -/
def linkRecord (baseKnown : Bool) : List Statement :=
  [ .line [
      .code "href = (anchor.get(", .quoted "href", .code ") or ", .quoted "", .code ").strip()"],
    .under "if not href:" [.code "continue"] ] ++
  (if baseKnown then [.code "href = urljoin(page_url, href)"] else []) ++
  [ .line [
      .code "records.append(\x7b", .quoted "text", .code ": anchor.get_text(strip=True), ",
      .quoted "href", .code ": href\x7d)"] ]

def linkLoop (e : Extraction) (baseKnown : Bool) : Statement :=
  match e.linkStrategy with
  | .allLinks =>
    .block [.code "for anchor in soup.select(", .quoted "a[href]", .code "):"]
      (linkRecord baseKnown)
  | .linksFromContainer =>
    .block [.code "for container in soup.select(", .quoted e.linkContainer.selector, .code "):"]
      ([ .line [.code "anchor = container.select_one(", .quoted e.linkSelector.selector, .code ")"],
         .under "if anchor is None:" [.code "continue"] ] ++ linkRecord baseKnown)

def linksBody (e : Extraction) (baseKnown : Bool) : List Statement :=
  [.code "records = []"] ++
  (if baseKnown then [] else [.comment unresolvedLinksNotice]) ++
  [linkLoop e baseKnown, .code "return records"]

def extractPage (e : Extraction) (baseKnown : Bool) : Statement :=
  .under "def extract_page(soup, page_url):"
    (match e.mode with
      | .structured => structuredBody e
      | .simple => simpleBody e.simpleField
      | .links => linksBody e baseKnown)

end PageHarvest.Script
