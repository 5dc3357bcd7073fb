import PageHarvest.Job.Decode
import PageHarvest.Job.Encode
import PageHarvest.Proofs.FieldId
import PageHarvest.Proofs.Json.Record

namespace PageHarvest

open Json

theorem ScrapingMode.read_label (m : ScrapingMode) :
    readChoice all label (Value.string m.label).tree = .ok m :=
  readChoice_tree (by cases m <;> rfl)

theorem LinkStrategy.read_label (s : LinkStrategy) :
    readChoice all label (Value.string s.label).tree = .ok s :=
  readChoice_tree (by cases s <;> rfl)

theorem PageScope.read_label (s : PageScope) :
    readChoice all label (Value.string s.label).tree = .ok s :=
  readChoice_tree (by cases s <;> rfl)

theorem PaginationMode.read_label (m : PaginationMode) :
    readChoice all label (Value.string m.label).tree = .ok m :=
  readChoice_tree (by cases m <;> rfl)

theorem BrowserProfile.read_label (p : BrowserProfile) :
    readChoice all label (Value.string p.label).tree = .ok p :=
  readChoice_tree (by cases p <;> rfl)

theorem Origin.read_label (o : Origin) :
    readChoice all label (Value.string o.label).tree = .ok o :=
  readChoice_tree (by cases o <;> rfl)

theorem OutputFormat.read_label (f : OutputFormat) :
    readChoice all label (Value.string f.label).tree = .ok f :=
  readChoice_tree (by cases f <;> rfl)

theorem FieldId.read_toText (id : FieldId) :
    readFieldId (Value.string id.toText).tree = .ok id := by
  simp only [readFieldId, Value.tree, ofFault, bind, Except.bind, parse_toText]

theorem ElementDescriptor.read_toValue (d : ElementDescriptor) : read d.toValue.tree = .ok d :=
  RecordShape.read_zip shape [.string d.tag, .string d.attrs]
    (by decide) rfl rfl

theorem FieldDescriptor.read_toValue (fresh : FieldId) (f : FieldDescriptor) :
    read fresh f.toValue.tree = .ok f := by
  refine RecordShape.read_zip shape
    [.string f.id.toText, .string f.name, .string f.tag, .string f.attrs]
    (by decide) rfl ?_
  have hid := Member.put_of f.id.read_toText "id"
    (fun (g : FieldDescriptor) id => { g with id := id })
  simp only [shape, List.zip_cons_cons, List.zip_nil_left, List.foldlM_cons, List.foldlM_nil, hid]
  rfl

theorem Project.read_toValue (p : Project) : read p.toValue.tree = .ok p := by
  refine RecordShape.read_zip shape
    [.string p.folder, .ofOption p.startUrl, .ofOption p.baseUrl] (by decide) rfl ?_
  have hstart := Member.put_of (readOptional_tree p.startUrl) "start_url"
    (fun (q : Project) u => { q with startUrl := u })
  have hbase := Member.put_of (readOptional_tree p.baseUrl) "base_url"
    (fun (q : Project) u => { q with baseUrl := u })
  simp only [shape, List.zip_cons_cons, List.zip_nil_left, List.foldlM_cons, List.foldlM_nil,
    hstart, hbase]
  rfl

/-- The kind of backend comes first, so that the engine is kept aside for it. -/
theorem Backend.read_toValue (b : Backend) : read b.toValue.tree = .ok b := by
  cases b with
  | browser engine => cases engine <;> rfl
  | staticFetch => rfl

theorem Extraction.read_toValue (fresh : FieldId) (e : Extraction) :
    read fresh e.toValue.tree = .ok e := by
  refine RecordShape.read_zip (shape fresh)
    [ .string e.mode.label, e.container.toValue, .array (e.fields.map FieldDescriptor.toValue),
      e.simpleField.toValue, .string e.linkStrategy.label, e.linkContainer.toValue,
      e.linkSelector.toValue]
    (by simp [shape, Member.of]) rfl ?_
  have hmode := Member.put_of e.mode.read_label "mode"
    (fun (x : Extraction) m => { x with mode := m })
  have hcontainer := Member.put_of e.container.read_toValue "container"
    (fun (x : Extraction) d => { x with container := d })
  have hfields := Member.put_of
    (readList_tree fun f (_ : f ∈ e.fields) => FieldDescriptor.read_toValue fresh f) "fields"
    (fun (x : Extraction) fs => { x with fields := fs })
  have hsimple := Member.put_of (FieldDescriptor.read_toValue fresh e.simpleField) "simple_field"
    (fun (x : Extraction) f => { x with simpleField := f })
  have hstrategy := Member.put_of e.linkStrategy.read_label "link_strategy"
    (fun (x : Extraction) s => { x with linkStrategy := s })
  have hlinks := Member.put_of e.linkContainer.read_toValue "link_container"
    (fun (x : Extraction) d => { x with linkContainer := d })
  have hselector := Member.put_of e.linkSelector.read_toValue "link_selector"
    (fun (x : Extraction) d => { x with linkSelector := d })
  simp only [shape, List.zip_cons_cons, List.zip_nil_left, List.foldlM_cons, List.foldlM_nil,
    hmode, hcontainer, hfields, hsimple, hstrategy, hlinks, hselector]
  rfl

theorem Pagination.read_toValue (p : Pagination) : read p.toValue.tree = .ok p := by
  refine RecordShape.read_zip shape
    [ .string p.scope.label, .string p.mode.label, .natural p.startPage.toNat,
      .natural p.pageCount.toNat, .string p.nextSelector, .string p.urlPrefix,
      .string p.urlSuffix]
    (by decide) rfl ?_
  have hscope := Member.put_of p.scope.read_label "scope"
    (fun (q : Pagination) s => { q with scope := s })
  have hmode := Member.put_of p.mode.read_label "mode"
    (fun (q : Pagination) m => { q with mode := m })
  have hstart := Member.put_of (readU32_tree p.startPage) "start_page"
    (fun (q : Pagination) n => { q with startPage := n })
  have hcount := Member.put_of (readU32_tree p.pageCount) "page_count"
    (fun (q : Pagination) n => { q with pageCount := n })
  simp only [shape, List.zip_cons_cons, List.zip_nil_left, List.foldlM_cons, List.foldlM_nil,
    hscope, hmode, hstart, hcount]
  rfl

theorem Network.read_toValue (n : Network) : read n.toValue.tree = .ok n := by
  refine RecordShape.read_zip shape
    [.strings n.proxies, .number (.natural n.requestDelayMs), .string n.browserProfile.label]
    (by decide) rfl ?_
  have hproxies := Member.put_of
    (readList_tree fun s (_ : s ∈ n.proxies) => readText_tree s) "proxies"
    (fun (m : Network) ps => { m with proxies := ps })
  have hdelay := Member.put_of (readU64_tree n.requestDelayMs) "request_delay_ms"
    (fun (m : Network) d => { m with requestDelayMs := d })
  have hprofile := Member.put_of n.browserProfile.read_label "browser_profile"
    (fun (m : Network) b => { m with browserProfile := b })
  simp only [shape, List.zip_cons_cons, List.zip_nil_left, List.foldlM_cons, List.foldlM_nil,
    Value.strings, hproxies, hdelay, hprofile]
  rfl

theorem OutputFormat.read_written (f : OutputFormat) :
    read (Value.object [("format", .string f.label)]).tree = .ok f := by
  cases f <;> rfl

namespace Job

theorem read_toValue (fresh : FieldId) (j : Job) :
    read fresh j.toValue.tree = .ok j := by
  refine RecordShape.read_zip (shape fresh)
    [ j.project.toValue, j.target.toValue, .string j.origin.label, j.extraction.toValue,
      j.pagination.toValue, j.network.toValue, .object [("format", .string j.output.label)]]
    (by simp [shape, Member.of]) rfl ?_
  have hproject := Member.put_of j.project.read_toValue "project"
    (fun (k : Job) p => { k with project := p })
  have htarget := Member.put_of j.target.read_toValue "target"
    (fun (k : Job) b => { k with target := b })
  have horigin := Member.put_of j.origin.read_label "origin"
    (fun (k : Job) o => { k with origin := o })
  have hextraction := Member.put_of (j.extraction.read_toValue fresh) "extraction"
    (fun (k : Job) e => { k with extraction := e })
  have hpagination := Member.put_of j.pagination.read_toValue "pagination"
    (fun (k : Job) p => { k with pagination := p })
  have hnetwork := Member.put_of j.network.read_toValue "network"
    (fun (k : Job) n => { k with network := n })
  have houtput := Member.put_of j.output.read_written "output"
    (fun (k : Job) o => { k with output := o })
  simp only [shape, List.zip_cons_cons, List.zip_nil_left, List.foldlM_cons, List.foldlM_nil,
    hproject, htarget, horigin, hextraction, hpagination, hnetwork, houtput]
  rfl

/-- The numbers of a job are counts of pages and milliseconds. -/
theorem isWhole_toValue (j : Job) : j.toValue.isWhole = true := by
  have htarget : j.target.toValue.isWhole = true := by
    cases j.target <;> rfl
  have hproject : j.project.toValue.isWhole = true := by
    cases hs : j.project.startUrl <;> cases hb : j.project.baseUrl <;>
      simp [Project.toValue, hs, hb, Value.ofOption, Value.isWhole, Value.wholeMembers]
  have hfields : Value.wholeItems (j.extraction.fields.map FieldDescriptor.toValue) = true := by
    rw [Value.wholeItems_iff, List.forall_mem_map]
    intro f _
    rfl
  have hproxies : Value.wholeItems (j.network.proxies.map Value.string) = true := by
    rw [Value.wholeItems_iff, List.forall_mem_map]
    intro s _
    rfl
  simp [toValue, htarget, hproject, hfields, hproxies, Extraction.toValue,
    ElementDescriptor.toValue, FieldDescriptor.toValue, Pagination.toValue, Network.toValue,
    Value.natural, Value.strings, Value.isWhole, Value.wholeMembers]

/--
A written job is read as that very job, whatever texts it holds and whatever id a field without one
would get.
-/
theorem decode_encode (fresh : FieldId) (j : Job) : decode fresh j.encode = .ok j := by
  have htext := follow_prettyText j.isWhole_toValue
  simp only [decode, Json.decode, encode, htext, read_toValue, bind, Except.bind,
    Bool.false_eq_true, if_false]

end Job
end PageHarvest
