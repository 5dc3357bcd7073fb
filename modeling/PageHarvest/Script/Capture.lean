import PageHarvest.Script.Preamble

namespace PageHarvest.Script

def engineImports (engine : Engine) (clicks proxies : Bool) : List String :=
  match engine with
  | .classic =>
    ["from selenium import webdriver"] ++
    (if clicks then
      [ "from selenium.common.exceptions import NoSuchElementException",
        "from selenium.webdriver.common.by import By" ]
    else []) ++
    (if proxies then ["from selenium.webdriver.common.proxy import Proxy, ProxyType"] else [])
  | .modern => ["from playwright.sync_api import sync_playwright"]

def savePage : Statement :=
  .under "def save_page(markup, page_number):"
    [ .line [
        .code "path = os.path.join(PAGES_FOLDER, ",
        .interpolated [.plain "page_", .hole "page_number", .plain ".html"], .code ")"],
      .block
        [ .code "with open(path, ", .quoted "w", .code ", encoding=", .quoted "utf-8",
          .code ") as handle:" ]
        [.code "handle.write(markup)"],
      .print [.plain "Saved ", .hole "path"] ]

/-- Opens the page whose URL is the value of an expression. -/
def navigate (engine : Engine) (url : String) : Statement :=
  match engine with
  | .classic => .code ("session.get(" ++ url ++ ")")
  | .modern => .code ("session.goto(" ++ url ++ ")")

/-- Saves the open page under the number that an expression gives. -/
def saveCurrent (engine : Engine) (page : String) : Statement :=
  match engine with
  | .classic => .code ("save_page(session.page_source, " ++ page ++ ")")
  | .modern => .code ("save_page(session.content(), " ++ page ++ ")")

/-- Leaves the loop over the pages because there is no button to click. -/
def stopStatements : List Statement :=
  [ .print [.plain "No next button after page ", .hole "page_number", .plain "; stopping."],
    .code "break" ]

def clickStatements : Engine → List Statement
  | .classic =>
    [ .under "try:" [.code "next_button = session.find_element(By.CSS_SELECTOR, NEXT_SELECTOR)"],
      .under "except NoSuchElementException:" stopStatements,
      .code "next_button.click()" ]
  | .modern =>
    [ .code "next_button = session.query_selector(NEXT_SELECTOR)",
      .under "if next_button is None:" stopStatements,
      .code "next_button.click()",
      .code "session.wait_for_load_state()" ]

def pageLoop (p : Pagination) (engine : Engine) : List Statement :=
  if p.usesUrlPattern then
    [ .under "for page_number in range(FIRST_PAGE, FIRST_PAGE + PAGE_COUNT):"
        [ .code "page_url = URL_PREFIX + str(page_number) + URL_SUFFIX",
          navigate engine "page_url",
          .code "time.sleep(REQUEST_DELAY)",
          saveCurrent engine "page_number" ] ]
  else if p.usesNextButton then
    [ navigate engine "START_URL",
      .under "for page_number in range(1, PAGE_COUNT + 1):"
        ([ .code "time.sleep(REQUEST_DELAY)",
           saveCurrent engine "page_number",
           .under "if page_number == PAGE_COUNT:" [.code "break"] ] ++ clickStatements engine) ]
  else
    [ navigate engine "START_URL",
      .code "time.sleep(REQUEST_DELAY)",
      saveCurrent engine "1" ]

def classicSession (j : Job) : List Statement :=
  let profile := j.network.browserProfile
  [.code ("options = webdriver." ++ profile.optionsClass ++ "()")] ++
  (if j.network.hasProxies then
    [ .code "proxy = Proxy()",
      .code "proxy.proxy_type = ProxyType.MANUAL",
      .code "proxy.http_proxy = PROXY",
      .code "proxy.ssl_proxy = PROXY",
      .code "options.proxy = proxy" ]
  else []) ++
  [ .code ("session = webdriver." ++ profile.driverClass ++ "(options=options)"),
    .under "try:" (pageLoop j.pagination .classic),
    .under "finally:" [.code "session.quit()"] ]

def launchArguments (n : Network) : List Piece :=
  [.code "headless=False"] ++
  (match n.browserProfile.channel? with
    | some channel => [.code ", channel=", .quoted channel]
    | none => []) ++
  (if n.hasProxies then [.code ", proxy=\x7b", .quoted "server", .code ": PROXY\x7d"] else [])

def modernSession (j : Job) : List Statement :=
  [ .under "with sync_playwright() as playwright:"
      [ .line (
          .code ("browser = playwright." ++ j.network.browserProfile.family ++ ".launch(") ::
            launchArguments j.network ++ [.code ")"]),
        .code "session = browser.new_page()",
        .under "try:" (pageLoop j.pagination .modern),
        .under "finally:" [.code "browser.close()"] ] ]

def session (j : Job) : Engine → List Statement
  | .classic => classicSession j
  | .modern => modernSession j

def proxyChoice (n : Network) : List Statement :=
  if n.hasProxies then
    [ .code "PROXY = random.choice(PROXIES)",
      .print [.plain "Using proxy ", .hole "PROXY"] ]
  else []

def captureScript (j : Job) (engine : Engine) : List Statement :=
  let proxies := j.network.hasProxies
  let clicks := j.pagination.usesNextButton
  importStatements (["os", "time"] ++ (if proxies then ["random"] else []))
    (engineImports engine clicks proxies) ++
  folderConstants j.project ++ networkConstants j.network ++ pageConstants j clicks ++ [.blank] ++
  [savePage, .blank, .code "os.makedirs(PAGES_FOLDER, exist_ok=True)"] ++
  proxyChoice j.network ++ session j engine ++
  [ .blank,
    .print [
      .plain "Pages saved to ", .hole "PAGES_FOLDER",
      .plain ". Read them with a local-files script to extract data."] ]

end PageHarvest.Script
