import PageHarvest.Script.Plan

namespace PageHarvest.Samples

def textOfLines (lines : List String) : String :=
  "\n".intercalate lines

/--
Product cards: three cards, two of them with a price; four headings in all and two images without
text.
-/
def mixedCards : String :=
  textOfLines [
    "<!DOCTYPE html>",
    "<html>",
    "<body>",
    "  <main>",
    "    <article class=\"card featured\">",
    "      <h3>Compact Widget</h3>",
    "      <img src=\"/img/widget.png\" alt=\"widget\">",
    "      <span class=\"price\">$9.99</span>",
    "    </article>",
    "    <article class=\"card\">",
    "      <h3>  An Extraordinarily Long Product Name That Keeps Going  </h3>",
    "      <span class=\"price\">$24.50</span>",
    "    </article>",
    "    <article class=\"card\">",
    "      <h3>Gadget</h3>",
    "      <img src=\"/img/gadget.png\" alt=\"gadget\">",
    "    </article>",
    "  </main>",
    "  <aside>",
    "    <h3>Related</h3>",
    "  </aside>",
    "</body>",
    "</html>"]

/-- Search results: three of them, two with a link, and anchors around them. -/
def linkPage : String :=
  textOfLines [
    "<!DOCTYPE html>",
    "<html>",
    "<body>",
    "  <nav><a href=\"/\">Home</a><a name=\"top\">Top</a></nav>",
    "  <ol>",
    "    <li class=\"result\"><a href=\" /story/1 \">First story</a></li>",
    "    <li class=\"result\"><a href=\"https://other.test/story/2\">Second   story</a></li>",
    "    <li class=\"result\"><span>Sponsored</span></li>",
    "  </ol>",
    "  <footer>",
    "    <a href=\"\">Empty</a>",
    "    <a href=\"?page=2\">Next page</a>",
    "  </footer>",
    "</body>",
    "</html>"]

def item (n : Nat) : String :=
  s!"    <div class=\"item\"><h2>Item {n}</h2><p class=\"blurb\">Blurb {n}</p></div>"

def itemListing (count : Nat) : String :=
  textOfLines (
    ["<!DOCTYPE html>", "<html>", "<body>", "  <div id=\"listing\">"] ++
    (List.range count).map (fun n => item (n + 1)) ++
    ["  </div>", "</body>", "</html>"])

def itemExtraction (id : FieldId) : Extraction :=
  (Extraction.structured id { tag := "div", attrs := "class=\"item\"" }).withField
    { id, name := "title", tag := "h2" }

def shopJob (target : Backend) (origin : Origin) (extraction : Extraction)
    (output : OutputFormat) : Job where
  project := { folder := "shop_scrape", startUrl := some "https://shop.test/catalog" }
  target := target
  origin := origin
  extraction := extraction
  output := output

end PageHarvest.Samples
