namespace PageHarvest

/-- The family of browser automation. -/
inductive Engine
  | classic
  | modern
deriving DecidableEq, Repr, Inhabited

namespace Engine

def all : List Engine := [classic, modern]

def label : Engine → String
  | classic => "classic"
  | modern => "modern"

end Engine

/-- How pages are acquired. -/
inductive Backend
  | browser (engine : Engine)
  | staticFetch
deriving DecidableEq, Repr

instance : Inhabited Backend := ⟨.staticFetch⟩

inductive BackendKind
  | interactiveBrowser
  | staticFetch
deriving DecidableEq, Repr

namespace BackendKind

def all : List BackendKind := [interactiveBrowser, staticFetch]

def label : BackendKind → String
  | interactiveBrowser => "interactive_browser"
  | staticFetch => "static_fetch"

end BackendKind

namespace Backend

def selenium : Backend := browser .classic

def playwright : Backend := browser .modern

def kind : Backend → BackendKind
  | browser _ => .interactiveBrowser
  | staticFetch => .staticFetch

def isBrowser : Backend → Bool
  | browser _ => true
  | staticFetch => false

/-- The name of the library that drives the pages. -/
def label : Backend → String
  | browser .classic => "selenium"
  | browser .modern => "playwright"
  | staticFetch => "static_fetch"

end Backend

/-- Where the pages of a job come from. -/
inductive Origin
  | liveUrl
  | localFiles
deriving DecidableEq, Repr, Inhabited

namespace Origin

def all : List Origin := [liveUrl, localFiles]

def label : Origin → String
  | liveUrl => "live_url"
  | localFiles => "local_files"

end Origin

inductive OutputFormat
  | csv
  | json
  | print
deriving DecidableEq, Repr, Inhabited

namespace OutputFormat

def all : List OutputFormat := [csv, json, print]

def label : OutputFormat → String
  | csv => "csv"
  | json => "json"
  | print => "print"

def fileName? : OutputFormat → Option String
  | csv => some "output.csv"
  | json => some "output.json"
  | print => none

end OutputFormat
end PageHarvest
