import PageHarvest.Job.Basic
import PageHarvest.Json.Value

namespace PageHarvest

open Json (Value)

def ElementDescriptor.toValue (d : ElementDescriptor) : Value :=
  .object [("tag", .string d.tag), ("attrs", .string d.attrs)]

def FieldDescriptor.toValue (f : FieldDescriptor) : Value :=
  .object [
    ("id", .string f.id.toText), ("name", .string f.name), ("tag", .string f.tag),
    ("attrs", .string f.attrs)]

def Project.toValue (p : Project) : Value :=
  .object [
    ("folder", .string p.folder), ("start_url", .ofOption p.startUrl),
    ("base_url", .ofOption p.baseUrl)]

/-- The kind of backend is a member beside the engine. -/
def Backend.toValue : Backend → Value
  | .browser engine =>
    .object [
      ("backend", .string BackendKind.interactiveBrowser.label), ("engine", .string engine.label)]
  | .staticFetch => .object [("backend", .string BackendKind.staticFetch.label)]

def Extraction.toValue (e : Extraction) : Value :=
  .object [
    ("mode", .string e.mode.label), ("container", e.container.toValue),
    ("fields", .array (e.fields.map FieldDescriptor.toValue)),
    ("simple_field", e.simpleField.toValue), ("link_strategy", .string e.linkStrategy.label),
    ("link_container", e.linkContainer.toValue), ("link_selector", e.linkSelector.toValue)]

def Pagination.toValue (p : Pagination) : Value :=
  .object [
    ("scope", .string p.scope.label), ("mode", .string p.mode.label),
    ("start_page", .natural p.startPage.toNat), ("page_count", .natural p.pageCount.toNat),
    ("next_selector", .string p.nextSelector), ("url_prefix", .string p.urlPrefix),
    ("url_suffix", .string p.urlSuffix)]

def Network.toValue (n : Network) : Value :=
  .object [
    ("proxies", .strings n.proxies), ("request_delay_ms", .number (.natural n.requestDelayMs)),
    ("browser_profile", .string n.browserProfile.label)]

namespace Job

def toValue (j : Job) : Value :=
  .object [
    ("project", j.project.toValue), ("target", j.target.toValue),
    ("origin", .string j.origin.label), ("extraction", j.extraction.toValue),
    ("pagination", j.pagination.toValue), ("network", j.network.toValue),
    ("output", .object [("format", .string j.output.label)])]

def encode (j : Job) : String :=
  j.toValue.prettyText

end Job
end PageHarvest
