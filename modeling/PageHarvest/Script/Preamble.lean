import PageHarvest.Script.Statement
import PageHarvest.Job.Basic

namespace PageHarvest.Script

/-- The standard modules that scripts use, in the order in which they are imported. -/
def standardModules : List String :=
  ["csv", "glob", "json", "os", "random", "time"]

def importStatements (modules further : List String) : List Statement :=
  (standardModules.filter modules.contains).map (fun m => .code ("import " ++ m)) ++
  further.map .code ++ [.blank]

def folderConstants (p : Project) : List Statement :=
  [ .assign "PROJECT_FOLDER" (Text.trimmed p.folder),
    .line [.code "PAGES_FOLDER = os.path.join(PROJECT_FOLDER, ", .quoted "pages", .code ")"] ]

def networkConstants (n : Network) : List Statement :=
  .code ("REQUEST_DELAY = " ++ n.delaySeconds) ::
    (if n.hasProxies then [.line [.code "PROXIES = ", .list n.proxyList]] else [])

/-- Where the pages are; `clicks` tells whether the script goes on by clicking. -/
def pageConstants (j : Job) (clicks : Bool) : List Statement :=
  let p := j.pagination
  if p.usesUrlPattern then
    [ .assign "URL_PREFIX" p.urlPrefix,
      .assign "URL_SUFFIX" p.urlSuffix,
      .code ("FIRST_PAGE = " ++ toString p.firstPage),
      .code ("PAGE_COUNT = " ++ toString p.pages) ]
  else
    .assign "START_URL" (j.project.startUrl?.getD "") ::
      (if clicks then
        [ .assign "NEXT_SELECTOR" (Text.trimmed p.nextSelector),
          .code ("PAGE_COUNT = " ++ toString p.pages) ]
      else [])

end PageHarvest.Script
