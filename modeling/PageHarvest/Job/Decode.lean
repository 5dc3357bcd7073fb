import PageHarvest.Job.Basic
import PageHarvest.Json.Decode

namespace PageHarvest

open Json

def ElementDescriptor.shape : RecordShape ElementDescriptor where
  name := "ElementDescriptor"
  members := [
    .of "tag" readText fun d s => { d with tag := s },
    .of "attrs" readText fun d s => { d with attrs := s }]

/-- What the members are that a text leaves out, each by itself. -/
def ElementDescriptor.unsaid : ElementDescriptor where
  tag := ""
  attrs := ""

def ElementDescriptor.read : Decoder ElementDescriptor :=
  ElementDescriptor.shape.read .unsaid

def FieldDescriptor.shape : RecordShape FieldDescriptor where
  name := "FieldDescriptor"
  members := [
    .of "id" readFieldId fun f id => { f with id := id },
    { Member.of "name" readText (fun f s => { f with name := s }) with required := true },
    .of "tag" readText fun f s => { f with tag := s },
    .of "attrs" readText fun f s => { f with attrs := s }]

def FieldDescriptor.unsaid (fresh : FieldId) : FieldDescriptor where
  id := fresh
  name := ""
  tag := ""
  attrs := ""

def FieldDescriptor.read (fresh : FieldId) : Decoder FieldDescriptor :=
  FieldDescriptor.shape.read (.unsaid fresh)

def Project.shape : RecordShape Project where
  name := "ProjectConfig"
  members := [
    .of "folder" readText fun p s => { p with folder := s },
    .of "start_url" (readOptional readText) fun p u => { p with startUrl := u },
    .of "base_url" (readOptional readText) fun p u => { p with baseUrl := u }]

def Project.unsaid : Project where
  folder := defaultFolder
  startUrl := none
  baseUrl := none

def Project.read : Decoder Project :=
  Project.shape.read .unsaid

namespace Backend

/-- What a buffered value shows of itself when a value without content was expected. -/
def unitOfValue : Value → Except ReadFault Unit
  | .null => .ok ()
  | .object [] => .ok ()
  | v => .error (.wrongType v.found "unit")

def engineOfValue : Value → Except ReadFault Engine
  | .string s => pick Engine.all Engine.label s
  | .object [(key, value)] => do
    let engine ← pick Engine.all Engine.label key
    unitOfValue value
    return engine
  | .object _ => .error (.wrongValue .map "map with a single key")
  | v => .error (.wrongType v.found "string or map")

/-- The engine among the members beside the kind of backend. -/
def engineOfMembers (engine : Option Engine) : List (String × Value) → Except ReadFault Engine
  | [] => .ok (engine.getD .classic)
  | (key, value) :: rest =>
    if key == "engine" then
      match engine with
      | some _ => .error (.repeatedMember key)
      | none => do
        let e ← engineOfValue value
        engineOfMembers (some e) rest
    else engineOfMembers engine rest

def ofMembers (kind : BackendKind) (members : List (String × Value)) : Except ReadFault Backend :=
  match kind with
  | .interactiveBrowser => .browser <$> engineOfMembers none members
  | .staticFetch => .ok .staticFetch

def ofItems (kind : BackendKind) (items : List Value) : Except ReadFault Backend :=
  match kind, items with
  | .staticFetch, [] => .ok .staticFetch
  | .staticFetch, _ => .error (.wrongLength items.length "0 elements in sequence")
  | .interactiveBrowser, [] => .ok (.browser .classic)
  | .interactiveBrowser, v :: rest => do
    let engine ← engineOfValue v
    if rest.isEmpty then return .browser engine
    else .error (.wrongLength items.length "1 element in sequence")

/-- The containers that a backend lies in, itself included. -/
def nesting : Nat := 2

/-- The kind and the other members of an object, in the order of the text. -/
def readTagged (kind : Option BackendKind) :
    Members → Except ReadFault (BackendKind × List (String × Value))
  | .ended ending =>
    match ending.objectFault?, kind with
    | some e, _ => malformed e
    | none, some k => .ok (k, [])
    | none, none => .error (.missingMember "backend")
  | .brokenKey reading _ => malformed reading
  | .otherKey _ => malformed .keyNotString
  | .member key value rest => do
    let name ← ofFault key
    if name == "backend" then
      match kind with
      | some _ => .error (.repeatedMember name)
      | none =>
        let k ← readLabel BackendKind.all BackendKind.label value
        readTagged (some k) rest
    else
      let v ← ofFault (value.value? (depthLimit - nesting))
      let (k, members) ← readTagged kind rest
      return (k, (name, v) :: members)

/-- An object tells the kind in a member, a list in its first item. -/
def read : Decoder Backend
  | .object members => do
    let (kind, others) ← readTagged none members
    ofMembers kind others
  | .array (.item tag rest) => do
    let kind ← readLabel BackendKind.all BackendKind.label tag
    let items ← ofFault (rest.values? (depthLimit - nesting))
    ofItems kind items
  | .array (.ended ending) =>
    match ending.listFault? with
    | some e => malformed e
    | none => .error (.missingMember "backend")
  | t => t.mismatch "internally tagged enum BackendTarget"

end Backend

def Extraction.shape (fresh : FieldId) : RecordShape Extraction where
  name := "ExtractionConfig"
  members := [
    .of "mode" (readChoice ScrapingMode.all ScrapingMode.label) fun e m => { e with mode := m },
    .of "container" ElementDescriptor.read fun e d => { e with container := d },
    .of "fields" (readList (FieldDescriptor.read fresh)) fun e fs => { e with fields := fs },
    .of "simple_field" (FieldDescriptor.read fresh) fun e f => { e with simpleField := f },
    .of "link_strategy" (readChoice LinkStrategy.all LinkStrategy.label)
      fun e s => { e with linkStrategy := s },
    .of "link_container" ElementDescriptor.read fun e d => { e with linkContainer := d },
    .of "link_selector" ElementDescriptor.read fun e d => { e with linkSelector := d }]

def Extraction.unsaid (fresh : FieldId) : Extraction where
  mode := .structured
  container := {}
  fields := []
  simpleField := defaultSimpleField fresh
  linkStrategy := .allLinks
  linkContainer := {}
  linkSelector := defaultLinkSelector

def Extraction.read (fresh : FieldId) : Decoder Extraction :=
  (Extraction.shape fresh).read (.unsaid fresh)

def Pagination.shape : RecordShape Pagination where
  name := "PaginationConfig"
  members := [
    .of "scope" (readChoice PageScope.all PageScope.label) fun p s => { p with scope := s },
    .of "mode" (readChoice PaginationMode.all PaginationMode.label)
      fun p m => { p with mode := m },
    .of "start_page" readU32 fun p n => { p with startPage := n },
    .of "page_count" readU32 fun p n => { p with pageCount := n },
    .of "next_selector" readText fun p s => { p with nextSelector := s },
    .of "url_prefix" readText fun p s => { p with urlPrefix := s },
    .of "url_suffix" readText fun p s => { p with urlSuffix := s }]

def Pagination.unsaid : Pagination where
  scope := .single
  mode := .nextButtonClick
  startPage := defaultPage
  pageCount := defaultPage
  nextSelector := ""
  urlPrefix := ""
  urlSuffix := ""

def Pagination.read : Decoder Pagination :=
  Pagination.shape.read .unsaid

def Network.shape : RecordShape Network where
  name := "NetworkConfig"
  members := [
    .of "proxies" (readList readText) fun n ps => { n with proxies := ps },
    .of "request_delay_ms" readU64 fun n d => { n with requestDelayMs := d },
    .of "browser_profile" (readChoice BrowserProfile.all BrowserProfile.label)
      fun n b => { n with browserProfile := b }]

def Network.unsaid : Network where
  proxies := []
  requestDelayMs := 0
  browserProfile := .chrome

def Network.read : Decoder Network :=
  Network.shape.read .unsaid

def OutputFormat.shape : RecordShape OutputFormat where
  name := "OutputSpec"
  members := [
    .of "format" (readChoice OutputFormat.all OutputFormat.label) fun _ f => f]

def OutputFormat.read : Decoder OutputFormat :=
  OutputFormat.shape.read .csv

namespace Job

def shape (fresh : FieldId) : RecordShape Job where
  name := "ScriptRequest"
  members := [
    .of "project" Project.read fun j p => { j with project := p },
    .of "target" Backend.read fun j b => { j with target := b },
    .of "origin" (readChoice Origin.all Origin.label) fun j o => { j with origin := o },
    .of "extraction" (Extraction.read fresh) fun j e => { j with extraction := e },
    .of "pagination" Pagination.read fun j p => { j with pagination := p },
    .of "network" Network.read fun j n => { j with network := n },
    .of "output" OutputFormat.read fun j o => { j with output := o }]

/-- A part that is left out is the one that is made without naming anything. -/
def unsaid (fresh : FieldId) : Job where
  project := {}
  target := .staticFetch
  origin := .liveUrl
  extraction := .initial fresh
  pagination := {}
  network := {}
  output := .csv

def read (fresh : FieldId) : Decoder Job :=
  (shape fresh).read (unsaid fresh)

/-- The job that a JSON text describes. `fresh` is the id of every field that brings none. -/
def decode (fresh : FieldId) (text : String) : Except ReadFault Job :=
  Json.decode (read fresh) text

end Job
end PageHarvest
