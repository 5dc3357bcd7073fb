import PageHarvest.Script.Layout
import PageHarvest.Script.Capture
import PageHarvest.Script.Extract

namespace PageHarvest

namespace Script

/-- Starts the comment of a job that gets no script. -/
def guidanceNotice : String := "SCRIPT NOT GENERATED"

inductive MissingInput
  | extraction (lack : Extraction.Lack)
  | startUrl
  | nextSelector
  | urlPrefix
deriving DecidableEq, Repr

def MissingInput.message : MissingInput → String
  | extraction lack => lack.message
  | startUrl => "a start URL is required to load the first page"
  | nextSelector => "a next-button selector is required for click pagination"
  | urlPrefix => "a URL prefix is required for pattern pagination"

inductive Plan
  | guidance (reason : MissingInput)
  | capture (engine : Engine)
  | fetchLive
  | readSaved
deriving DecidableEq, Repr

def Plan.label : Plan → String
  | guidance _ => "guidance"
  | capture .classic => "selenium_capture"
  | capture .modern => "playwright_capture"
  | fetchLive => "fetch_live"
  | readSaved => "read_saved"

end Script

namespace Job

open Script (MissingInput Plan Statement)

/-- The first input that is missing. A browser only saves pages, so it needs no extraction. -/
def missingInput? (j : Job) : Option MissingInput :=
  let lack := if j.target.isBrowser then none else j.extraction.lack?
  match lack with
  | some lack => some (.extraction lack)
  | none =>
    if j.needsStartUrl && j.project.startUrl?.isNone then some .startUrl
    else if j.target.isBrowser && j.pagination.usesNextButton &&
        Text.allBlank j.pagination.nextSelector then
      some .nextSelector
    else if !j.readsFiles && j.pagination.usesUrlPattern &&
        Text.allBlank j.pagination.urlPrefix then
      some .urlPrefix
    else none

def plan (j : Job) : Plan :=
  match j.missingInput? with
  | some reason => .guidance reason
  | none =>
    match j.target, j.origin with
    | .browser engine, _ => .capture engine
    | .staticFetch, .liveUrl => .fetchLive
    | .staticFetch, .localFiles => .readSaved

def header (j : Job) : List Statement :=
  [ .comment "Scraping script generated by scrapesmith.",
    .comment ("Backend: " ++ j.target.label ++ " | Origin: " ++ j.origin.label ++ " | Mode: " ++
      j.extraction.mode.label),
    .blank ]

def guidance (reason : MissingInput) : List Statement :=
  [ .comment (Script.guidanceNotice ++ ": " ++ reason.message ++ "."),
    .comment "Complete the configuration and generate the script again." ]

def statements (j : Job) : List Statement :=
  j.header ++
    (match j.plan with
      | .guidance reason => guidance reason
      | .capture engine => Script.captureScript j engine
      | .fetchLive => Script.fetchScript j
      | .readSaved => Script.savedPagesScript j)

def synthesize (j : Job) : String :=
  Script.render j.statements

end Job
end PageHarvest
