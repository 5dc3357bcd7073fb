import PageHarvest.Job.Basic
import PageHarvest.Json.Value
import PageHarvest.Url.Parse

namespace PageHarvest

/-- What a caller is told of a fault: a message, and the member it is about if that is known. -/
structure Complaint where
  message : String
  member : Option String := none
deriving DecidableEq, Repr

namespace Complaint

def toValue (c : Complaint) : Json.Value :=
  .object [("message", .string c.message), ("field", .ofOption c.member)]

def toDictionary (c : Complaint) : Json.Value :=
  .object (("message", .string c.message) ::
    (c.member.map fun m => ("field", Json.Value.string m)).toList)

end Complaint

inductive JobFault
  | emptyFolder
  | noStartUrl
  | startUrl (fault : Url.Fault)
  | baseUrl (fault : Url.Fault)
  | startPage
  | pageCount
  | noNextSelector
  | noUrlPrefix
  | fields (fault : NameFault)
  | simpleField (fault : NameFault)
deriving DecidableEq, Repr

namespace JobFault

def message : JobFault → String
  | emptyFolder => "project folder cannot be empty"
  | noStartUrl => "a start URL is required for live acquisition"
  | startUrl fault => "start URL is not absolute: " ++ fault.message
  | baseUrl fault => "base URL is not absolute: " ++ fault.message
  | startPage => "start_page must be at least 1"
  | pageCount => "page_count must be at least 1"
  | noNextSelector => "a next-button selector is required for click pagination"
  | noUrlPrefix => "a URL prefix is required for pattern pagination"
  | fields fault => fault.message
  | simpleField fault => fault.message

def member : JobFault → String
  | emptyFolder => "project.folder"
  | noStartUrl => "project.start_url"
  | startUrl _ => "project.start_url"
  | baseUrl _ => "project.base_url"
  | startPage => "pagination.start_page"
  | pageCount => "pagination.page_count"
  | noNextSelector => "pagination.next_selector"
  | noUrlPrefix => "pagination.url_prefix"
  | fields _ => "extraction.fields"
  | simpleField _ => "extraction.simple_field.name"

def complaint (fault : JobFault) : Complaint where
  message := fault.message
  member := some fault.member

end JobFault

def Pagination.validate (p : Pagination) : Except JobFault Unit :=
  if !p.isMulti then .ok ()
  else if p.startPage == 0 then .error .startPage
  else if p.pageCount == 0 then .error .pageCount
  else
    match p.mode with
    | .nextButtonClick => if Text.allBlank p.nextSelector then .error .noNextSelector else .ok ()
    | .urlPattern => if Text.allBlank p.urlPrefix then .error .noUrlPrefix else .ok ()

def Extraction.validate (e : Extraction) : Except JobFault Unit :=
  match e.mode with
  | .structured => (FieldName.checkAll (e.fields.map (·.name))).mapError .fields
  | .simple => (FieldName.check e.simpleField.name).mapError .simpleField
  | .links => .ok ()

namespace Job

def validateStartUrl (j : Job) : Except JobFault Unit :=
  if j.needsStartUrl then
    match j.project.startUrl? with
    | none => .error .noStartUrl
    | some url =>
      match Url.parse url with
      | .ok _ => .ok ()
      | .error fault => .error (.startUrl fault)
  else .ok ()

def validateBaseUrl (j : Job) : Except JobFault Unit :=
  match j.project.baseUrl? with
  | none => .ok ()
  | some url =>
    match Url.parse url with
    | .ok _ => .ok ()
    | .error fault => .error (.baseUrl fault)

/-- The first fault of a job, if it has one. A script is written from any job. -/
def validate (j : Job) : Except JobFault Unit := do
  if Text.allBlank j.project.folder then .error .emptyFolder
  j.validateStartUrl
  j.validateBaseUrl
  j.pagination.validate
  j.extraction.validate

end Job
end PageHarvest
