import PageHarvest.Proofs.Job.RoundTrip
import PageHarvest.Proofs.Json.Thinned

namespace PageHarvest

open Json

theorem ElementDescriptor.unsaid_eq : unsaid = {} :=
  rfl

theorem Project.unsaid_eq : unsaid = {} :=
  rfl

theorem Extraction.unsaid_eq (fresh : FieldId) : unsaid fresh = initial fresh :=
  rfl

theorem Pagination.unsaid_eq : unsaid = {} :=
  rfl

theorem Network.unsaid_eq : unsaid = {} :=
  rfl

theorem Job.unsaid_eq (fresh : FieldId) : unsaid fresh = initial fresh :=
  rfl

/--
Leaving out all members of a part, one by one, is the same as leaving out the part: an empty object
is read as the part that is made without naming anything.
-/
theorem Job.read_empty (fresh : FieldId) :
    ElementDescriptor.read (Value.object []).tree = .ok {} ∧
    Project.read (Value.object []).tree = .ok {} ∧
    Extraction.read fresh (Value.object []).tree = .ok (.initial fresh) ∧
    Pagination.read (Value.object []).tree = .ok {} ∧
    Network.read (Value.object []).tree = .ok {} ∧
    Job.read fresh (Value.object []).tree = .ok (.initial fresh) := by
  rw [← ElementDescriptor.unsaid_eq, ← Project.unsaid_eq, ← Extraction.unsaid_eq,
    ← Pagination.unsaid_eq, ← Network.unsaid_eq, ← Job.unsaid_eq]
  refine ⟨?_, ?_, ?_, ?_, ?_, ?_⟩ <;> apply RecordShape.read_empty
  all_goals
    simp [ElementDescriptor.shape, Project.shape, Extraction.shape, Pagination.shape,
      Network.shape, shape, Member.of]

def ElementDescriptor.standard : ElementDescriptor where
  tag := ""
  attrs := ""

def Project.standard : Project where
  folder := "scrape_project"
  startUrl := none
  baseUrl := none

def Extraction.standard (id : FieldId) : Extraction where
  mode := .structured
  container := .standard
  fields := []
  simpleField := { id := id, name := "value", tag := "", attrs := "" }
  linkStrategy := .allLinks
  linkContainer := .standard
  linkSelector := { tag := "a", attrs := "" }

def Pagination.standard : Pagination where
  scope := .single
  mode := .nextButtonClick
  startPage := 1
  pageCount := 1
  nextSelector := ""
  urlPrefix := ""
  urlSuffix := ""

def Network.standard : Network where
  proxies := []
  requestDelayMs := 0
  browserProfile := .chrome

def Job.standard (id : FieldId) : Job where
  project := .standard
  target := .staticFetch
  origin := .liveUrl
  extraction := .standard id
  pagination := .standard
  network := .standard
  output := .csv

def ElementDescriptor.thinning : Thinning :=
  .record (· = standard.toValue) [("tag", Eq), ("attrs", Eq)]

def FieldDescriptor.thinning : Thinning :=
  .record (· = .object [("tag", .string ""), ("attrs", .string "")])
    [("id", Eq), ("name", Eq), ("tag", Eq), ("attrs", Eq)]

def Project.thinning : Thinning :=
  .record (· = standard.toValue) [("folder", Eq), ("start_url", Eq), ("base_url", Eq)]

def Backend.thinning (v w : Value) : Prop :=
  v = w ∨ Thinning.record (· = .object [("engine", .string Engine.classic.label)])
    [("backend", Eq), ("engine", Eq)] v w

/-- The ids of fields make no difference to what is a default. -/
def Extraction.thinning : Thinning :=
  .record (∃ id, · = (standard id).toValue)
    [ ("mode", Eq), ("container", ElementDescriptor.thinning),
      ("fields", .items FieldDescriptor.thinning), ("simple_field", FieldDescriptor.thinning),
      ("link_strategy", Eq), ("link_container", ElementDescriptor.thinning),
      ("link_selector", ElementDescriptor.thinning)]

def Pagination.thinning : Thinning :=
  .record (· = standard.toValue)
    [ ("scope", Eq), ("mode", Eq), ("start_page", Eq), ("page_count", Eq), ("next_selector", Eq),
      ("url_prefix", Eq), ("url_suffix", Eq)]

def Network.thinning : Thinning :=
  .record (· = standard.toValue)
    [("proxies", Eq), ("request_delay_ms", Eq), ("browser_profile", Eq)]

def OutputFormat.thinning : Thinning :=
  .record (· = .object [("format", .string OutputFormat.csv.label)]) [("format", Eq)]

def Job.thinning : Thinning :=
  .record (∃ id, · = (standard id).toValue)
    [ ("project", Project.thinning), ("target", Backend.thinning), ("origin", Eq),
      ("extraction", Extraction.thinning), ("pagination", Pagination.thinning),
      ("network", Network.thinning), ("output", OutputFormat.thinning)]

theorem ElementDescriptor.read_thinned {d : ElementDescriptor} {w : Value}
    (h : thinning d.toValue w) : read w.tree = .ok d := by
  refine RecordShape.read_thinned (by decide) h ?_
  refine .leaf (readText_tree d.tag) (fun _ he => he ▸ ⟨_, rfl, rfl⟩) rfl ?_
  refine .leaf (readText_tree d.attrs) (fun _ he => he ▸ ⟨_, rfl, rfl⟩) rfl ?_
  exact .nil d

theorem FieldDescriptor.read_thinned (fresh : FieldId) {f : FieldDescriptor} {w : Value}
    (h : thinning f.toValue w) : read fresh w.tree = .ok f := by
  refine RecordShape.read_thinned (by decide) h ?_
  refine .always (Member.put_of f.id.read_toText _ _ _) (fun _ he => he ▸ rfl) ?_
  refine .always rfl (fun _ he => he ▸ rfl) ?_
  refine .leaf (readText_tree f.tag) (fun _ he => he ▸ ⟨_, rfl, rfl⟩) rfl ?_
  refine .leaf (readText_tree f.attrs) (fun _ he => he ▸ ⟨_, rfl, rfl⟩) rfl ?_
  exact .nil f

theorem Project.read_thinned {p : Project} {w : Value} (h : thinning p.toValue w) :
    read w.tree = .ok p := by
  refine RecordShape.read_thinned (by decide) h ?_
  refine .leaf (readText_tree p.folder) (fun _ he => he ▸ ⟨_, rfl, rfl⟩) rfl ?_
  refine .leaf (readOptional_tree p.startUrl) (fun _ he => he ▸ ⟨_, rfl, rfl⟩) rfl ?_
  refine .leaf (readOptional_tree p.baseUrl) (fun _ he => he ▸ ⟨_, rfl, rfl⟩) rfl ?_
  exact .nil p

/-- The engine of a browser can only be left out if it is the classic one. -/
theorem Backend.read_thinned {b : Backend} {w : Value} (h : thinning b.toValue w) :
    read w.tree = .ok b := by
  rcases h with rfl | h
  · exact b.read_toValue
  cases b with
  | staticFetch =>
    obtain ⟨h⟩ := h
    cases h with
    | without _ _ rest => cases rest
    | within _ rest => cases rest
  | browser engine =>
    obtain ⟨h⟩ := h
    cases h with
    | without hd hm rest =>
      subst hd
      cases hm
    | within he rest =>
      subst he
      cases rest with
      | within he rest =>
        subst he
        cases rest
        exact (browser engine).read_toValue
      | without hd hm rest =>
        subst hd
        cases rest
        cases engine with
        | classic => rfl
        | modern =>
          have same : Engine.classic.label = Engine.modern.label :=
            Value.string.inj (Option.some.inj hm)
          exact absurd same (by decide)

theorem Pagination.read_thinned {p : Pagination} {w : Value} (h : thinning p.toValue w) :
    read w.tree = .ok p := by
  refine RecordShape.read_thinned (by decide) h ?_
  refine .leaf p.scope.read_label (fun _ he => he ▸ ⟨_, rfl, rfl⟩) rfl ?_
  refine .leaf p.mode.read_label (fun _ he => he ▸ ⟨_, rfl, rfl⟩) rfl ?_
  refine .leaf (readU32_tree p.startPage) (fun _ he => he ▸ ⟨_, rfl, rfl⟩) rfl ?_
  refine .leaf (readU32_tree p.pageCount) (fun _ he => he ▸ ⟨_, rfl, rfl⟩) rfl ?_
  refine .leaf (readText_tree p.nextSelector) (fun _ he => he ▸ ⟨_, rfl, rfl⟩) rfl ?_
  refine .leaf (readText_tree p.urlPrefix) (fun _ he => he ▸ ⟨_, rfl, rfl⟩) rfl ?_
  refine .leaf (readText_tree p.urlSuffix) (fun _ he => he ▸ ⟨_, rfl, rfl⟩) rfl ?_
  exact .nil p

theorem Network.read_thinned {n : Network} {w : Value} (h : thinning n.toValue w) :
    read w.tree = .ok n := by
  have proxies := readList_tree fun s (_ : s ∈ n.proxies) => readText_tree s
  refine RecordShape.read_thinned (by decide) h ?_
  refine .leaf proxies (fun _ he => he ▸ ⟨_, rfl, rfl⟩) rfl ?_
  refine .leaf (readU64_tree n.requestDelayMs) (fun _ he => he ▸ ⟨_, rfl, rfl⟩) rfl ?_
  refine .leaf n.browserProfile.read_label (fun _ he => he ▸ ⟨_, rfl, rfl⟩) rfl ?_
  exact .nil n

theorem OutputFormat.read_thinned {f : OutputFormat} {w : Value}
    (h : thinning (.object [("format", .string f.label)]) w) : read w.tree = .ok f := by
  refine RecordShape.read_thinned (by decide) h ?_
  refine .leaf f.read_label (fun _ he => he ▸ ⟨_, rfl, rfl⟩) rfl ?_
  exact .nil f

def FieldDescriptor.redrawn (fresh : FieldId) (given : Option Value) (f : FieldDescriptor) :
    FieldDescriptor :=
  if given.isSome then f else { f with id := fresh }

def Extraction.redrawn (fresh : FieldId) (left : Value) (e : Extraction) : Extraction :=
  { e with simpleField := e.simpleField.redrawn fresh (left.member? "simple_field") }

def Job.redrawn (fresh : FieldId) (left : Value) (j : Job) : Job :=
  { j with extraction := j.extraction.redrawn fresh ((left.member? "extraction").getD .null) }

theorem FieldDescriptor.eq_of_toValue {f g : FieldDescriptor} (h : f.toValue = g.toValue) :
    f = g := by
  have same := f.read_toValue f.id
  rw [h, g.read_toValue f.id] at same
  exact (Except.ok.inj same).symm

theorem Extraction.eq_of_toValue {d e : Extraction} (h : d.toValue = e.toValue) : d = e := by
  have same := d.read_toValue d.simpleField.id
  rw [h, e.read_toValue d.simpleField.id] at same
  exact (Except.ok.inj same).symm

theorem of_exists_eq {f : FieldId → Value} {q : Value → Prop} (h : ∀ id, q (f id)) (d : Value)
    (hd : ∃ id, d = f id) : q d := by
  obtain ⟨id, rfl⟩ := hd
  exact h id

theorem Extraction.read_thinned (fresh : FieldId) {e : Extraction} {w : Value}
    (h : thinning e.toValue w) :
    read fresh w.tree = .ok (e.redrawn fresh w) := by
  have fields := readList_tree fun f (_ : f ∈ e.fields) => FieldDescriptor.read_toValue fresh f
  have left (u : Value) (hu : Thinning.items FieldDescriptor.thinning
      (.array (e.fields.map FieldDescriptor.toValue)) u) :
      readList (FieldDescriptor.read fresh) u.tree = .ok e.fields :=
    readList_thinned (fun f _ _ => FieldDescriptor.read_thinned fresh) hu
  have drawn (absent : w.member? "simple_field" = none) (d : Value)
      (hd : ∃ id, d = (standard id).toValue)
      (hm : d.member? "simple_field" = some e.simpleField.toValue) :
      e.simpleField.redrawn fresh (w.member? "simple_field") = defaultSimpleField fresh := by
    obtain ⟨id, rfl⟩ := hd
    have same : (standard id).simpleField.toValue = e.simpleField.toValue := Option.some.inj hm
    rw [absent, ← FieldDescriptor.eq_of_toValue same]
    rfl
  have given (u : Value) (hu : w.member? "simple_field" = some u)
      (left : FieldDescriptor.thinning e.simpleField.toValue u) :
      FieldDescriptor.read fresh u.tree =
        .ok (e.simpleField.redrawn fresh (w.member? "simple_field")) := by
    rw [hu]
    exact FieldDescriptor.read_thinned fresh left
  refine RecordShape.read_thinned (by simp [shape, Member.of]) h ?_
  refine .leaf e.mode.read_label (of_exists_eq fun _ => ⟨_, rfl, rfl⟩) rfl ?_
  refine .part e.container.read_toValue (fun _ => ElementDescriptor.read_thinned)
    (of_exists_eq fun _ => ⟨_, rfl, rfl⟩) rfl ?_
  refine .part fields left (of_exists_eq fun _ => ⟨_, rfl, rfl⟩) rfl ?_
  refine .member drawn given rfl ?_
  refine .leaf e.linkStrategy.read_label (of_exists_eq fun _ => ⟨_, rfl, rfl⟩) rfl ?_
  refine .part e.linkContainer.read_toValue (fun _ => ElementDescriptor.read_thinned)
    (of_exists_eq fun _ => ⟨_, rfl, rfl⟩) rfl ?_
  refine .part e.linkSelector.read_toValue (fun _ => ElementDescriptor.read_thinned)
    (of_exists_eq fun _ => ⟨_, rfl, rfl⟩) rfl ?_
  exact .nil (e.redrawn fresh w)

namespace Job

theorem read_thinned (fresh : FieldId) {j : Job} {w : Value} (h : thinning j.toValue w) :
    read fresh w.tree = .ok (j.redrawn fresh w) := by
  have drawn (absent : w.member? "extraction" = none) (d : Value)
      (hd : ∃ id, d = (standard id).toValue)
      (hm : d.member? "extraction" = some j.extraction.toValue) :
      j.extraction.redrawn fresh ((w.member? "extraction").getD .null) =
        Extraction.initial fresh := by
    obtain ⟨id, rfl⟩ := hd
    have same : (Extraction.standard id).toValue = j.extraction.toValue := Option.some.inj hm
    rw [absent, ← Extraction.eq_of_toValue same]
    rfl
  have given (u : Value) (hu : w.member? "extraction" = some u)
      (left : Extraction.thinning j.extraction.toValue u) :
      Extraction.read fresh u.tree =
        .ok (j.extraction.redrawn fresh ((w.member? "extraction").getD .null)) := by
    rw [hu]
    exact Extraction.read_thinned fresh left
  refine RecordShape.read_thinned (by simp [shape, Member.of]) h ?_
  refine .part j.project.read_toValue (fun _ => Project.read_thinned)
    (of_exists_eq fun _ => ⟨_, rfl, rfl⟩) rfl ?_
  refine .part j.target.read_toValue (fun _ => Backend.read_thinned)
    (of_exists_eq fun _ => ⟨_, rfl, rfl⟩) rfl ?_
  refine .leaf j.origin.read_label (of_exists_eq fun _ => ⟨_, rfl, rfl⟩) rfl ?_
  refine .member drawn given rfl ?_
  refine .part j.pagination.read_toValue (fun _ => Pagination.read_thinned)
    (of_exists_eq fun _ => ⟨_, rfl, rfl⟩) rfl ?_
  refine .part j.network.read_toValue (fun _ => Network.read_thinned)
    (of_exists_eq fun _ => ⟨_, rfl, rfl⟩) rfl ?_
  refine .part j.output.read_written (fun _ => OutputFormat.read_thinned)
    (of_exists_eq fun _ => ⟨_, rfl, rfl⟩) rfl ?_
  exact .nil (j.redrawn fresh w)

theorem keepsWhole_thinning : thinning.KeepsWhole := by
  have leaf := Thinning.keepsWhole_eq
  have element : ElementDescriptor.thinning.KeepsWhole := .record (by simp [leaf])
  have field : FieldDescriptor.thinning.KeepsWhole := .record (by simp [leaf])
  have project : Project.thinning.KeepsWhole := .record (by simp [leaf])
  have pagination : Pagination.thinning.KeepsWhole := .record (by simp [leaf])
  have network : Network.thinning.KeepsWhole := .record (by simp [leaf])
  have output : OutputFormat.thinning.KeepsWhole := .record (by simp [leaf])
  have extraction : Extraction.thinning.KeepsWhole :=
    .record (by simp [leaf, element, field, field.items])
  have target : Thinning.KeepsWhole Backend.thinning := by
    rintro v w (rfl | h) hv
    · exact hv
    · exact Thinning.KeepsWhole.record (by simp [leaf]) v w h hv
  exact .record (by simp [leaf, project, target, extraction, pagination, network, output])

/--
A job is read from whatever is left of its JSON without members that are as in a default, up to the
ids of fields; only a simple field that is not given gets another id.
-/
theorem decode_thinned (fresh : FieldId) {j : Job} {left : Value} (h : thinning j.toValue left) :
    decode fresh left.prettyText = .ok (j.redrawn fresh left) ∧
      ∀ text, follow text = (left.tree, false) →
        decode fresh text = .ok (j.redrawn fresh left) := by
  have read (text : String) (ht : follow text = (left.tree, false)) :
      decode fresh text = .ok (j.redrawn fresh left) := by
    simp only [decode, Json.decode, ht, read_thinned fresh h, bind, Except.bind,
      Bool.false_eq_true, if_false]
  have whole := keepsWhole_thinning _ _ h j.isWhole_toValue
  exact ⟨read _ (follow_prettyText whole), read⟩

def captureJob : Job :=
  { standard .zero with
    target := .browser .classic
    extraction := { Extraction.standard .zero with linkSelector := {} }
    pagination := { Pagination.standard with scope := .multi, nextSelector := "a.next" } }

/-- As little as the JSON of `captureJob` has to say. -/
def captureMembers : Value :=
  .object [
    ("target", .object [("backend", .string "interactive_browser")]),
    ("extraction", .object [("link_selector", .object [])]),
    ("pagination", .object [("scope", .string "multi"), ("next_selector", .string "a.next")])]

def drawnId : FieldId where
  digits := List.replicate 32 (Fin.last 15)

theorem decode_thinned_captureJob :
    thinning captureJob.toValue captureMembers ∧
      decode drawnId captureMembers.prettyText = .ok { captureJob with
        extraction := { captureJob.extraction with
          simpleField := { id := drawnId, name := "value" } } } := by
  have target : Backend.thinning captureJob.target.toValue
      (.object [("backend", .string "interactive_browser")]) :=
    .inr ⟨.within rfl (.without rfl rfl .nil)⟩
  have selector : ElementDescriptor.thinning captureJob.extraction.linkSelector.toValue
      (.object []) :=
    ⟨.without rfl rfl (.without rfl rfl .nil)⟩
  have extraction : Extraction.thinning captureJob.extraction.toValue
      (.object [("link_selector", .object [])]) := by
    constructor
    iterate 6 refine .without ⟨.zero, rfl⟩ rfl ?_
    exact .within selector .nil
  have pagination : Pagination.thinning captureJob.pagination.toValue
      (.object [("scope", .string "multi"), ("next_selector", .string "a.next")]) := by
    constructor
    refine .within rfl ?_
    iterate 3 refine .without rfl rfl ?_
    exact .within rfl (.without rfl rfl (.without rfl rfl .nil))
  have left : thinning captureJob.toValue captureMembers := by
    constructor
    refine .without ⟨.zero, rfl⟩ rfl (.within target ?_)
    refine .without ⟨.zero, rfl⟩ rfl (.within extraction (.within pagination ?_))
    exact .without ⟨.zero, rfl⟩ rfl (.without ⟨.zero, rfl⟩ rfl .nil)
  exact ⟨left, (decode_thinned drawnId left).1⟩

end Job
end PageHarvest
