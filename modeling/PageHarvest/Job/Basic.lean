import PageHarvest.Job.Target
import PageHarvest.Job.Network
import PageHarvest.Job.Pagination
import PageHarvest.Job.Extraction

namespace PageHarvest

def Project.defaultFolder : String := "scrape_project"

structure Project where
  folder : String := Project.defaultFolder
  startUrl : Option String := none
  baseUrl : Option String := none
deriving DecidableEq, Repr, Inhabited

namespace Project

def usable? (url : Option String) : Option String :=
  (url.map Text.trimmed).filter (· ≠ "")

def startUrl? (p : Project) : Option String :=
  usable? p.startUrl

def baseUrl? (p : Project) : Option String :=
  usable? p.baseUrl

end Project

structure Job where
  project : Project := {}
  target : Backend := .staticFetch
  origin : Origin := .liveUrl
  extraction : Extraction
  pagination : Pagination := {}
  network : Network := {}
  output : OutputFormat := .csv
deriving DecidableEq, Repr, Inhabited

namespace Job

/-- The job that is made without naming anything; `fresh` goes to its simple field. -/
def initial (fresh : FieldId) : Job where
  extraction := .initial fresh

def readsFiles (j : Job) : Bool :=
  j.target == .staticFetch && j.origin == .localFiles

/-- Live pages need a start URL unless a pattern gives all of them. -/
def needsStartUrl (j : Job) : Bool :=
  !j.readsFiles && !j.pagination.usesUrlPattern

end Job
end PageHarvest
