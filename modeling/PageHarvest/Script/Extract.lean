import PageHarvest.Script.Preamble
import PageHarvest.Script.Records
import PageHarvest.Script.Output

namespace PageHarvest.Script

def staticClickNotice : String :=
  "Button pagination needs an interactive browser; only the start page is fetched."

def fetchTimeout : Nat := 30

/-- Live pages resolve links against their own URL, saved ones only against a base URL. -/
def baseKnown (j : Job) : Bool :=
  match j.origin with
  | .liveUrl => true
  | .localFiles => j.project.baseUrl?.isSome

def packageImports (j : Job) (live : Bool) : List String :=
  (if live then ["import requests"] else []) ++ ["from bs4 import BeautifulSoup"] ++
  (if resolvesLinks j.extraction (baseKnown j) then ["from urllib.parse import urljoin"] else [])

def extractModules (j : Job) (live : Bool) : List String :=
  ["os"] ++ (outputModule? j.output).toList ++
  (if live then "time" :: (if j.network.hasProxies then ["random"] else []) else ["glob"])

def userAgentHeader : List Piece :=
  [.code "headers=\x7b", .quoted "User-Agent", .code ": USER_AGENT\x7d"]

def proxyArgument : List Piece :=
  [ .code ", proxies=\x7b", .quoted "http", .code ": proxy, ", .quoted "https",
    .code ": proxy\x7d" ]

def fetchFunction (proxies : Bool) : Statement :=
  .under "def fetch(url):"
    ((if proxies then [.code "proxy = random.choice(PROXIES)"] else []) ++
    [ .line ([.code "response = session.get(url, "] ++ userAgentHeader ++
        (if proxies then proxyArgument else []) ++
        [.code (", timeout=" ++ toString fetchTimeout ++ ")")]),
      .code "response.raise_for_status()",
      .code "return response.text" ])

def pageUrls (p : Pagination) : List Statement :=
  if p.usesUrlPattern then
    [ .line [
        .code "page_urls = [URL_PREFIX + str(page_number) + URL_SUFFIX for page_number in ",
        .code "range(FIRST_PAGE, FIRST_PAGE + PAGE_COUNT)]"] ]
  else
    (if p.usesNextButton then [.comment staticClickNotice] else []) ++
    [.code "page_urls = [START_URL]"]

def parsePage (markup : String) : Statement :=
  .line [.code ("soup = BeautifulSoup(" ++ markup ++ ", "), .quoted "html.parser", .code ")"]

def collectRecords (pageUrl : String) : List Statement :=
  [ .code ("records = extract_page(soup, " ++ pageUrl ++ ")"),
    .code "all_data.extend(records)" ]

def fetchLoop : Statement :=
  .under "for index, page_url in enumerate(page_urls):"
    ([ .under "if index > 0:" [.code "time.sleep(REQUEST_DELAY)"],
       .under "try:" [.code "html = fetch(page_url)"],
       .under "except requests.RequestException as error:"
         [ .print [.plain "Failed to fetch ", .hole "page_url", .plain ": ", .hole "error"],
           .code "continue" ],
       parsePage "html" ] ++
     collectRecords "page_url" ++
     [.print [.hole "page_url", .plain ": ", .hole "len(records)", .plain " extracted"]])

def fetchScript (j : Job) : List Statement :=
  importStatements (extractModules j true) (packageImports j true) ++
  folderConstants j.project ++ networkConstants j.network ++
  [.assign "USER_AGENT" j.network.browserProfile.userAgent] ++ pageConstants j false ++
  [ .blank, extractPage j.extraction true, .blank, fetchFunction j.network.hasProxies, .blank,
    .code "session = requests.Session()", .code "all_data = []" ] ++
  pageUrls j.pagination ++ [fetchLoop, .blank] ++ outputStatements j.extraction j.output

/-- The key by which saved pages are put in order: the number in their name, then the name. -/
def pageOrder : Statement :=
  .under "def page_order(path):"
    [ .line [
        .code "digits = ", .quoted "",
        .code ".join(ch for ch in os.path.basename(path) if ch.isdigit())"],
      .code "return (int(digits) if digits else 0, path)" ]

def baseConstant (baseUrl : Option String) : List Statement :=
  match baseUrl with
  | some url => [.assign "BASE_URL" url]
  | none => []

def savedLoop (pageUrl : String) : List Statement :=
  [ .under "if not page_files:"
      [.print [.plain "No saved pages found in ", .hole "PAGES_FOLDER"]],
    .under "for path in page_files:"
      ([ .block [.code "with open(path, encoding=", .quoted "utf-8", .code ") as handle:"]
           [parsePage "handle.read()"] ] ++
       collectRecords pageUrl ++
       [ .print [
           .hole "os.path.basename(path)", .plain ": ", .hole "len(records)",
           .plain " extracted"] ]) ]

def savedPagesScript (j : Job) : List Statement :=
  let baseUrl := j.project.baseUrl?
  importStatements (extractModules j false) (packageImports j false) ++
  folderConstants j.project ++ baseConstant baseUrl ++
  [ .blank, extractPage j.extraction baseUrl.isSome, .blank, pageOrder, .blank,
    .code "all_data = []",
    .line [
      .code "page_files = sorted(glob.glob(os.path.join(PAGES_FOLDER, ", .quoted "*.html",
      .code ")), key=page_order)"] ] ++
  savedLoop (if baseUrl.isSome then "BASE_URL" else "None") ++
  [.blank] ++ outputStatements j.extraction j.output

end PageHarvest.Script
