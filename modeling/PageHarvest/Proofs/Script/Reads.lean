import PageHarvest.Proofs.Script.Gaps
import PageHarvest.Proofs.Script.Skeleton
import Mathlib.Tactic.SplitIfs

namespace PageHarvest

def FieldDescriptor.unnumbered (f : FieldDescriptor) : FieldDescriptor :=
  { f with id := .zero }

theorem FieldDescriptor.eq_of_unnumbered {f g : FieldDescriptor}
    (h : f.unnumbered = g.unnumbered) : f.name = g.name ∧ f.element = g.element := by
  injection h with _ hname htag hattrs
  exact ⟨hname, congrArg₂ ElementDescriptor.mk htag hattrs⟩

/-- Extractions that agree on what their mode and their link strategy use of them. -/
structure Extraction.SameUse (d e : Extraction) : Prop where
  mode : d.mode = e.mode
  container : d.mode = .structured → d.container = e.container
  fields : d.mode = .structured →
    d.fields.map FieldDescriptor.unnumbered = e.fields.map FieldDescriptor.unnumbered
  simpleField : d.mode = .simple → d.simpleField.unnumbered = e.simpleField.unnumbered
  linkStrategy : d.mode = .links → d.linkStrategy = e.linkStrategy
  linkContainer : d.mode = .links → d.linkStrategy = .linksFromContainer →
    d.linkContainer = e.linkContainer
  linkSelector : d.mode = .links → d.linkStrategy = .linksFromContainer →
    d.linkSelector = e.linkSelector

/-- Jobs that let the same browser visit the same pages and keep them in the same folder. -/
structure Job.SameVisit (engine : Engine) (j k : Job) : Prop where
  left : j.target = .browser engine
  right : k.target = .browser engine
  folder : j.project.folder = k.project.folder
  startUrl : j.project.startUrl = k.project.startUrl
  pagination : j.pagination = k.pagination
  network : j.network = k.network

/-- Jobs that read the same saved pages for the same records. -/
structure Job.SameReading (j k : Job) : Prop where
  left : j.target = .staticFetch ∧ j.origin = .localFiles
  right : k.target = .staticFetch ∧ k.origin = .localFiles
  folder : j.project.folder = k.project.folder
  baseUrl : j.project.baseUrl = k.project.baseUrl
  extraction : j.extraction = k.extraction
  output : j.output = k.output

/-- Jobs that fetch the same live pages for the same records. -/
structure Job.SameFetch (j k : Job) : Prop where
  left : j.target = .staticFetch ∧ j.origin = .liveUrl
  right : k.target = .staticFetch ∧ k.origin = .liveUrl
  folder : j.project.folder = k.project.folder
  startUrl : j.project.startUrl = k.project.startUrl
  extraction : j.extraction = k.extraction
  scope : j.pagination.scope = k.pagination.scope
  paginationMode : j.pagination.mode = k.pagination.mode
  urlPrefix : j.pagination.urlPrefix = k.pagination.urlPrefix
  urlSuffix : j.pagination.urlSuffix = k.pagination.urlSuffix
  numbers : j.pagination.usesUrlPattern = true →
    j.pagination.startPage = k.pagination.startPage ∧
      j.pagination.pageCount = k.pagination.pageCount
  network : j.network = k.network
  output : j.output = k.output

namespace Script

def remark (text : String) : String :=
  "# " ++ text ++ "\n"

def opening (target : Backend) (origin : Origin) (mode : ScrapingMode) : String :=
  remark "Scraping script generated by scrapesmith." ++
    remark
      ("Backend: " ++ target.label ++ " | Origin: " ++ origin.label ++ " | Mode: " ++ mode.label)

theorem chars_comment {text : String} (h : (Statement.comment text).isTidy = true) :
    (Row.comment 0 text.toList).chars = (remark text).toList := by
  have hne : text.toList ≠ [] := by
    simp only [Statement.isTidy, Bool.and_eq_true, Bool.not_eq_true',
      List.isEmpty_eq_false_iff] at h
    exact h.1
  have content : (Row.comment 0 text.toList).content = '#' :: ' ' :: text.toList := by
    obtain ⟨c, rest, he⟩ := List.exists_cons_of_ne_nil hne
    rw [he, Row.content]
    exact List.cons_ne_nil c rest
  rw [Row.chars, content, remark, String.toList_append, String.toList_append]
  rfl

/-- What stands behind two comments and a blank line does not depend on them. -/
theorem exists_render_eq (body : List Statement) :
    ∃ rest : String, ∀ a b : String,
      allTidy ([.comment a, .comment b, .blank] ++ body) = true →
      render ([.comment a, .comment b, .blank] ++ body) = remark a ++ remark b ++ rest := by
  refine ⟨String.ofList ((settledBehind (.gap :: rowsAll 0 body)).flatMap Row.chars),
    fun a b tidy => ?_⟩
  have comments := tidy
  simp only [List.cons_append, allTidy, Bool.and_eq_true] at comments
  obtain ⟨ha, hb, _⟩ := comments
  have rows : rowsAll 0 ([.comment a, .comment b, .blank] ++ body) =
      [] ++ [.comment 0 a.toList, .comment 0 b.toList] ++ .gap :: rowsAll 0 body := by
    simp only [List.cons_append, List.nil_append, rowsAll, Statement.rows,
      commentRows_of_isTidy ha, commentRows_of_isTidy hb]
  have text := render_eq_of_isTidy (isTidy_of_mem_rowsAll tidy)
    ⟨.comment 0 a.toList, rows ▸ List.mem_cons_self, rfl⟩
  rw [rows, settled_append (List.cons_ne_nil _ _) (by simp [Row.isGap])] at text
  apply String.toList_injective
  rw [text]
  simp [chars_comment ha, chars_comment hb]

end Script

namespace Job

open Script

namespace SameVisit

variable {engine : Engine} {j k : Job} (h : j.SameVisit engine k)

include h

theorem startUrl? : j.project.startUrl? = k.project.startUrl? := by
  rw [Project.startUrl?, Project.startUrl?, h.startUrl]

theorem pageConstants (clicks : Bool) : pageConstants j clicks = pageConstants k clicks := by
  simp only [Script.pageConstants, h.pagination, h.startUrl?]

theorem session : session j engine = session k engine := by
  cases engine with
  | classic => simp only [Script.session, classicSession, h.network, h.pagination]
  | modern => simp only [Script.session, modernSession, h.network, h.pagination]

theorem captureScript : captureScript j engine = captureScript k engine := by
  simp only [Script.captureScript, folderConstants, h.folder, h.network, h.pagination,
    h.pageConstants, h.session]

/-- A browser opens its pages wherever they are said to come from. -/
theorem readsFiles : j.readsFiles = false ∧ k.readsFiles = false := by
  simp [Job.readsFiles, h.left, h.right]

theorem missingInput? : j.missingInput? = k.missingInput? := by
  simp only [Job.missingInput?, needsStartUrl, h.left, h.right, h.readsFiles, h.pagination,
    h.startUrl?, Backend.isBrowser, if_true]

theorem plan : j.plan = k.plan := by
  simp only [Job.plan, h.missingInput?, h.left, h.right]

theorem body : ∃ body, j.statements = j.header ++ body ∧ k.statements = k.header ++ body := by
  cases hm : k.missingInput? with
  | some reason =>
    have hj : j.statements = j.header ++ guidance reason := by
      simp only [statements, Job.plan, h.missingInput?, hm]
    have hk : k.statements = k.header ++ guidance reason := by
      simp only [statements, Job.plan, hm]
    exact ⟨_, hj, hk⟩
  | none =>
    have hj : j.statements = j.header ++ Script.captureScript j engine := by
      simp only [statements, Job.plan, h.missingInput?, hm, h.left]
    have hk : k.statements = k.header ++ Script.captureScript k engine := by
      simp only [statements, Job.plan, hm, h.right]
    exact ⟨_, hj, h.captureScript ▸ hk⟩

/-- What a browser does is up to the visit; only the second line tells more. -/
theorem synthesize : ∃ rest,
    j.synthesize = opening (.browser engine) j.origin j.extraction.mode ++ rest ∧
      k.synthesize = opening (.browser engine) k.origin k.extraction.mode ++ rest := by
  obtain ⟨body, hj, hk⟩ := h.body
  obtain ⟨rest, hrest⟩ := exists_render_eq body
  have text {i : Job} (hi : i.statements = i.header ++ body) (ht : i.target = .browser engine) :
      i.synthesize = opening (.browser engine) i.origin i.extraction.mode ++ rest := by
    have tidy := i.allTidy_statements
    rw [hi, header, ht] at tidy
    rw [Job.synthesize, hi, header, ht]
    exact hrest _ _ tidy
  exact ⟨rest, text hj h.left, text hk h.right⟩

end SameVisit

namespace SameReading

variable {j k : Job} (h : j.SameReading k)

include h

theorem missingInput? : j.missingInput? = k.missingInput? := by
  simp [Job.missingInput?, needsStartUrl, Job.readsFiles, h.left, h.right, h.extraction,
    Backend.isBrowser]

theorem plan : j.plan = k.plan := by
  simp only [Job.plan, h.missingInput?, h.left, h.right]

theorem baseUrl? : j.project.baseUrl? = k.project.baseUrl? := by
  rw [Project.baseUrl?, Project.baseUrl?, h.baseUrl]

theorem savedPagesScript : savedPagesScript j = savedPagesScript k := by
  simp only [Script.savedPagesScript, extractModules, packageImports, baseKnown, folderConstants,
    h.folder, h.baseUrl?, h.left, h.right, h.extraction, h.output, Bool.false_eq_true, if_false]

theorem header : j.header = k.header := by
  simp only [Job.header, h.left, h.right, h.extraction]

theorem statements : j.statements = k.statements := by
  simp only [Job.statements, Job.plan, h.header, h.missingInput?, h.left, h.right]
  cases k.missingInput? with
  | some reason => rfl
  | none => simp only [h.savedPagesScript]

end SameReading

namespace SameFetch

variable {j k : Job} (h : j.SameFetch k)

include h

theorem usesUrlPattern : j.pagination.usesUrlPattern = k.pagination.usesUrlPattern :=
  Pagination.usesUrlPattern_congr h.scope h.paginationMode

theorem usesNextButton : j.pagination.usesNextButton = k.pagination.usesNextButton :=
  Pagination.usesNextButton_congr h.scope h.paginationMode

theorem startUrl? : j.project.startUrl? = k.project.startUrl? := by
  rw [Project.startUrl?, Project.startUrl?, h.startUrl]

theorem missingInput? : j.missingInput? = k.missingInput? := by
  simp [Job.missingInput?, needsStartUrl, Job.readsFiles, h.left, h.right, h.extraction,
    h.usesUrlPattern, h.startUrl?, h.urlPrefix, Backend.isBrowser]

theorem plan : j.plan = k.plan := by
  simp only [Job.plan, h.missingInput?, h.left, h.right]

/-- A script that does not click has the page numbers for its pattern only. -/
theorem pageConstants : pageConstants j false = pageConstants k false := by
  unfold Script.pageConstants
  dsimp only
  rw [← h.usesUrlPattern]
  cases hp : j.pagination.usesUrlPattern with
  | true =>
    obtain ⟨hstart, hcount⟩ := h.numbers hp
    simp only [Pagination.firstPage, Pagination.pages, h.urlPrefix, h.urlSuffix, hstart, hcount,
      if_true]
  | false => simp only [h.startUrl?, Bool.false_eq_true, if_false]

theorem fetchScript : fetchScript j = fetchScript k := by
  have urls : pageUrls j.pagination = pageUrls k.pagination := by
    simp only [pageUrls, h.usesUrlPattern, h.usesNextButton]
  simp only [Script.fetchScript, extractModules, packageImports, baseKnown, folderConstants,
    h.pageConstants, urls, h.folder, h.left, h.right, h.extraction, h.network, h.output]

theorem header : j.header = k.header := by
  simp only [Job.header, h.left, h.right, h.extraction]

theorem statements : j.statements = k.statements := by
  simp only [Job.statements, Job.plan, h.header, h.missingInput?, h.left, h.right]
  cases k.missingInput? with
  | some reason => rfl
  | none => simp only [h.fetchScript]

end SameFetch

end Job

namespace Extraction.SameUse

open Script

variable {d e : Extraction} (h : d.SameUse e)

include h

theorem isSimple : isSimple d = isSimple e := by
  rw [Script.isSimple, Script.isSimple, h.mode]

theorem resolvesLinks (baseKnown : Bool) :
    resolvesLinks d baseKnown = resolvesLinks e baseKnown := by
  rw [Script.resolvesLinks, Script.resolvesLinks, h.mode]

theorem lack? : d.lack? = e.lack? := by
  unfold Extraction.lack?
  rw [← h.mode]
  cases hm : d.mode with
  | structured => simp only [h.container hm]
  | simple =>
    have tag : d.simpleField.hasTag = e.simpleField.hasTag :=
      congrArg ElementDescriptor.hasTag (FieldDescriptor.eq_of_unnumbered (h.simpleField hm)).2
    simp only [tag]
  | links =>
    rw [← h.linkStrategy hm]
    cases hl : d.linkStrategy with
    | allLinks => rfl
    | linksFromContainer => simp only [h.linkContainer hm hl, h.linkSelector hm hl]

theorem structuredBody (hm : d.mode = .structured) : structuredBody d = structuredBody e := by
  have unnumbered (fields : List FieldDescriptor) : fields.flatMap fieldStatements =
      (fields.map FieldDescriptor.unnumbered).flatMap fieldStatements := by
    rw [List.flatMap_map]
    rfl
  have fields : d.fields.flatMap fieldStatements = e.fields.flatMap fieldStatements := by
    rw [unnumbered, h.fields hm, ← unnumbered]
  have empty : d.fields.isEmpty = e.fields.isEmpty := by
    rw [← List.isEmpty_map (f := FieldDescriptor.unnumbered), h.fields hm, List.isEmpty_map]
  simp only [Script.structuredBody, h.container hm, fields, empty]

theorem simpleBody (hm : d.mode = .simple) :
    simpleBody d.simpleField = simpleBody e.simpleField := by
  have element := (FieldDescriptor.eq_of_unnumbered (h.simpleField hm)).2
  simp only [Script.simpleBody, FieldDescriptor.selector, element]

theorem linksBody (hm : d.mode = .links) (baseKnown : Bool) :
    linksBody d baseKnown = linksBody e baseKnown := by
  have loop : linkLoop d baseKnown = linkLoop e baseKnown := by
    unfold linkLoop
    rw [← h.linkStrategy hm]
    cases hl : d.linkStrategy with
    | allLinks => rfl
    | linksFromContainer => simp only [h.linkContainer hm hl, h.linkSelector hm hl]
  simp only [Script.linksBody, loop]

theorem extractPage (baseKnown : Bool) : extractPage d baseKnown = extractPage e baseKnown := by
  unfold Script.extractPage
  rw [← h.mode]
  cases hm : d.mode with
  | structured => simp only [h.structuredBody hm]
  | simple => simp only [h.simpleBody hm]
  | links => simp only [h.linksBody hm]

theorem outputBody (format : OutputFormat) : outputBody d format = outputBody e format := by
  have name (hs : Script.isSimple e = true) : d.simpleField.name = e.simpleField.name := by
    have hm : d.mode = .simple := eq_of_beq (h.isSimple.trans hs)
    exact (FieldDescriptor.eq_of_unnumbered (h.simpleField hm)).1
  have csv : csvOutput d = csvOutput e := by
    unfold csvOutput
    rw [h.isSimple]
    split_ifs with hs
    · rw [name hs]
    · rfl
  have json : jsonOutput d = jsonOutput e := by
    unfold jsonOutput
    rw [h.isSimple]
    split_ifs with hs
    · rw [name hs]
    · rfl
  cases format with
  | csv => simp only [Script.outputBody, csv]
  | json => simp only [Script.outputBody, json]
  | print => simp only [Script.outputBody, printOutput, h.isSimple]

theorem outputStatements (format : OutputFormat) :
    outputStatements d format = outputStatements e format := by
  simp only [Script.outputStatements, h.outputBody]

end Extraction.SameUse

namespace Job

open Script

variable {j : Job} {e : Extraction} (h : j.extraction.SameUse e)

include h

theorem missingInput?_with_extraction :
    { j with extraction := e }.missingInput? = j.missingInput? := by
  rw [missingInput?, missingInput?, h.lack?]
  rfl

theorem plan_with_extraction : { j with extraction := e }.plan = j.plan := by
  simp only [plan, missingInput?_with_extraction h]

theorem packageImports_with_extraction (live : Bool) :
    packageImports { j with extraction := e } live = packageImports j live := by
  rw [packageImports, packageImports, h.resolvesLinks]
  rfl

theorem fetchScript_with_extraction :
    fetchScript { j with extraction := e } = fetchScript j := by
  have modules : extractModules { j with extraction := e } true = extractModules j true := rfl
  have pages : pageConstants { j with extraction := e } false = pageConstants j false := rfl
  simp only [fetchScript, modules, pages, packageImports_with_extraction h, h.extractPage,
    h.outputStatements]

theorem savedPagesScript_with_extraction :
    savedPagesScript { j with extraction := e } = savedPagesScript j := by
  have modules : extractModules { j with extraction := e } false = extractModules j false := rfl
  simp only [savedPagesScript, modules, packageImports_with_extraction h, h.extractPage,
    h.outputStatements]

theorem synthesize_with_extraction :
    { j with extraction := e }.synthesize = j.synthesize := by
  have header : { j with extraction := e }.header = j.header := by
    simp only [Job.header, h.mode]
  have statements : { j with extraction := e }.statements = j.statements := by
    rw [Job.statements, Job.statements, header, plan_with_extraction h]
    cases j.plan with
    | guidance reason => rfl
    | capture engine => rfl
    | fetchLive => simp only [fetchScript_with_extraction h]
    | readSaved => simp only [savedPagesScript_with_extraction h]
  rw [synthesize, synthesize, statements]

omit h

/--
A script depends only on what its plan uses of the job, and so does the plan. Where a browser
captures pages, the origin and the mode are named in the second line and make no other difference.
-/
theorem synthesize_eq_of_same_use :
    (∀ engine, ∀ j k : Job, j.SameVisit engine k → j.plan = k.plan ∧ ∃ rest,
      j.synthesize = opening (.browser engine) j.origin j.extraction.mode ++ rest ∧
        k.synthesize = opening (.browser engine) k.origin k.extraction.mode ++ rest) ∧
    (∀ j k : Job, j.SameReading k → j.plan = k.plan ∧ j.synthesize = k.synthesize) ∧
    (∀ j k : Job, j.SameFetch k → j.plan = k.plan ∧ j.synthesize = k.synthesize) ∧
    ∀ (j : Job) (e : Extraction), j.extraction.SameUse e →
      { j with extraction := e }.plan = j.plan ∧
        { j with extraction := e }.synthesize = j.synthesize := by
  refine ⟨fun engine j k h => ⟨h.plan, h.synthesize⟩, fun j k h => ⟨h.plan, ?_⟩,
    fun j k h => ⟨h.plan, ?_⟩, fun j e h => ?_⟩
  · rw [synthesize, synthesize, h.statements]
  · rw [synthesize, synthesize, h.statements]
  · exact ⟨plan_with_extraction h, synthesize_with_extraction h⟩

def visitJob : Job :=
  { modestJob with target := .browser .modern }

def savedJob : Job :=
  { modestJob with origin := .localFiles }

theorem synthesize_eq_of_same_use_modestJob :
    (∃ rest, visitJob.synthesize = opening (.browser .modern) .liveUrl .structured ++ rest ∧
      { visitJob with
        origin := .localFiles, extraction := .allLinks .zero, output := .print }.synthesize =
          opening (.browser .modern) .localFiles .links ++ rest) ∧
    savedJob.synthesize =
      { savedJob with
        pagination := .nextButton "" 3, network := {}, project := {} }.synthesize ∧
    modestJob.synthesize =
      { modestJob with
        project := { modestJob.project with baseUrl := some "/" }
        pagination := { startPage := 7, pageCount := 9, nextSelector := "a.next" } }.synthesize ∧
    { modestJob with extraction := {
      modestJob.extraction with
        linkStrategy := .linksFromContainer
        simpleField := { id := .zero, name := "other" } } }.synthesize = modestJob.synthesize := by
  obtain ⟨visit, reading, fetch, use⟩ := synthesize_eq_of_same_use
  refine ⟨(visit .modern visitJob _ ?_).2, (reading savedJob _ ?_).2, (fetch modestJob _ ?_).2,
    (use modestJob _ ?_).2⟩
  · constructor <;> rfl
  · constructor <;> first | rfl | exact ⟨rfl, rfl⟩
  · constructor <;> first | rfl | exact ⟨rfl, rfl⟩ | decide
  · constructor <;> decide

end Job
end PageHarvest
