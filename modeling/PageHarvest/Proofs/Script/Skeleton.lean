import PageHarvest.Proofs.Job.Network
import PageHarvest.Proofs.Script.Tidy

namespace PageHarvest

namespace Pagination

variable {p q : Pagination} (hs : p.scope = q.scope) (hm : p.mode = q.mode)

include hs hm

theorem usesUrlPattern_congr : p.usesUrlPattern = q.usesUrlPattern := by
  simp only [usesUrlPattern, isMulti, hs, hm]

theorem usesNextButton_congr : p.usesNextButton = q.usesNextButton := by
  simp only [usesNextButton, isMulti, hs, hm]

end Pagination

namespace Job

/-- Two jobs agree on all that is chosen, counted or present; the texts may be any. -/
structure SameChoices (j k : Job) : Prop where
  target : j.target = k.target
  origin : j.origin = k.origin
  mode : j.extraction.mode = k.extraction.mode
  linkStrategy : j.extraction.linkStrategy = k.extraction.linkStrategy
  scope : j.pagination.scope = k.pagination.scope
  paginationMode : j.pagination.mode = k.pagination.mode
  firstPage : j.pagination.firstPage = k.pagination.firstPage
  pages : j.pagination.pages = k.pagination.pages
  requestDelay : j.network.requestDelayMs = k.network.requestDelayMs
  browserProfile : j.network.browserProfile = k.network.browserProfile
  output : j.output = k.output
  proxies : j.network.proxyList.length = k.network.proxyList.length
  baseUrl : j.project.baseUrl?.isSome = k.project.baseUrl?.isSome
  missingInput :
    j.missingInput?.map Script.MissingInput.message =
      k.missingInput?.map Script.MissingInput.message
  /-- As many fields, and each has a tag if its counterpart has one. -/
  fields : j.extraction.mode = .structured →
    j.extraction.fields.map FieldDescriptor.hasTag = k.extraction.fields.map FieldDescriptor.hasTag

end Job

namespace Script

/-- Statements that differ only in what their literals hold and their comments say. -/
def SameShape (a b : List Statement) : Prop :=
  a.map Statement.bare = b.map Statement.bare

theorem SameShape.append {a a' b b' : List Statement} (h : SameShape a b) (h' : SameShape a' b') :
    SameShape (a ++ a') (b ++ b') := by
  rw [SameShape, List.map_append, List.map_append, h, h']

theorem bare_under {header : String} {a b : List Statement} (h : SameShape a b) :
    (Statement.under header a).bare = (Statement.under header b).bare := by
  simp only [Statement.under, Statement.bare, allBare_eq_map]
  rw [h]

theorem SameShape.cons {s t : Statement} {a b : List Statement} (hs : s.bare = t.bare)
    (h : SameShape a b) : SameShape (s :: a) (t :: b) := by
  rw [SameShape, List.map_cons, List.map_cons, hs, h]

theorem sameShape_refl (a : List Statement) : SameShape a a :=
  rfl

theorem sameShape_folderConstants (p q : Project) :
    SameShape (folderConstants p) (folderConstants q) :=
  rfl

theorem sameShape_fieldStatements {f g : FieldDescriptor} (h : f.hasTag = g.hasTag) :
    SameShape (fieldStatements f) (fieldStatements g) := by
  unfold SameShape fieldStatements
  rw [h]
  split_ifs <;> simp [Statement.bare, Piece.bare]

theorem sameShape_flatMap {fs gs : List FieldDescriptor}
    (h : fs.map FieldDescriptor.hasTag = gs.map FieldDescriptor.hasTag) :
    SameShape (fs.flatMap fieldStatements) (gs.flatMap fieldStatements) := by
  induction fs generalizing gs with
  | nil =>
    obtain rfl : gs = [] := List.map_eq_nil_iff.1 h.symm
    rfl
  | cons f fs ih =>
    obtain ⟨g, gs, rfl, hg, hgs⟩ := List.map_eq_cons_iff.1 h.symm
    exact (sameShape_fieldStatements hg.symm).append (ih hgs.symm)

theorem sameShape_structuredBody {d e : Extraction}
    (h : d.fields.map FieldDescriptor.hasTag = e.fields.map FieldDescriptor.hasTag) :
    SameShape (structuredBody d) (structuredBody e) := by
  have empty : d.fields.isEmpty = e.fields.isEmpty := by
    rw [← List.isEmpty_map (f := FieldDescriptor.hasTag), h, List.isEmpty_map]
  have loop {a b : List Statement} (hab : SameShape a b) :
      (Statement.under "for container in containers:" (.code "record = \x7b\x7d" :: a ++
        [.code "records.append(record)"])).bare =
      (Statement.under "for container in containers:" (.code "record = \x7b\x7d" :: b ++
        [.code "records.append(record)"])).bare :=
    bare_under ((hab.cons rfl).append rfl)
  unfold structuredBody
  rw [empty]
  cases e.fields.isEmpty with
  | true => rfl
  | false => exact .cons rfl (.cons rfl (.cons (loop (sameShape_flatMap h)) rfl))

theorem sameShape_linksBody {d e : Extraction} (h : d.linkStrategy = e.linkStrategy)
    (baseKnown : Bool) : SameShape (linksBody d baseKnown) (linksBody e baseKnown) := by
  have loop : (linkLoop d baseKnown).bare = (linkLoop e baseKnown).bare := by
    unfold linkLoop
    rw [h]
    cases e.linkStrategy <;> rfl
  exact (sameShape_refl _).append (.cons loop rfl)

theorem bare_extractPage {d e : Extraction} (hm : d.mode = e.mode)
    (hl : d.linkStrategy = e.linkStrategy)
    (hf : d.mode = .structured →
      d.fields.map FieldDescriptor.hasTag = e.fields.map FieldDescriptor.hasTag)
    (baseKnown : Bool) : (extractPage d baseKnown).bare = (extractPage e baseKnown).bare := by
  unfold extractPage
  rw [← hm]
  apply bare_under
  cases hd : d.mode with
  | structured => exact sameShape_structuredBody (hf hd)
  | simple => rfl
  | links => exact sameShape_linksBody hl baseKnown

theorem sameShape_networkConstants {m n : Network} (hd : m.requestDelayMs = n.requestDelayMs)
    (hp : m.proxyList.length = n.proxyList.length) :
    SameShape (networkConstants m) (networkConstants n) := by
  have proxies := Network.hasProxies_congr hp
  have list : (Statement.line [.code "PROXIES = ", .list m.proxyList]).bare =
      (Statement.line [.code "PROXIES = ", .list n.proxyList]).bare := by
    simp [Statement.bare, Piece.bare, hp]
  unfold networkConstants
  rw [Network.delaySeconds, Network.delaySeconds, hd, proxies]
  split_ifs
  · exact .cons rfl (.cons list rfl)
  · rfl

theorem sameShape_outputBody {d e : Extraction} (h : isSimple d = isSimple e)
    (format : OutputFormat) : SameShape (outputBody d format) (outputBody e format) := by
  cases format with
  | csv =>
    have writing : (csvOutput d).bare = (csvOutput e).bare := by
      unfold csvOutput
      rw [h]
      split_ifs <;> rfl
    exact .cons rfl (.cons rfl (.cons writing rfl))
  | json =>
    have writing : (jsonOutput d).bare = (jsonOutput e).bare := by
      unfold jsonOutput
      rw [h]
      split_ifs <;> rfl
    exact .cons rfl (.cons rfl (.cons writing rfl))
  | print =>
    unfold outputBody printOutput
    rw [h]
    exact sameShape_refl _

theorem sameShape_baseConstant {b c : Option String} (h : b.isSome = c.isSome) :
    SameShape (baseConstant b) (baseConstant c) := by
  cases b with
  | none =>
    obtain rfl : c = none := Option.isSome_eq_false_iff.1 h.symm |> Option.isNone_iff_eq_none.1
    rfl
  | some url =>
    obtain ⟨url', rfl⟩ := Option.isSome_iff_exists.1 h.symm
    rfl

end Script

namespace Job.SameChoices

open Script

variable {j k : Job} (h : j.SameChoices k)

include h

theorem usesUrlPattern : j.pagination.usesUrlPattern = k.pagination.usesUrlPattern :=
  Pagination.usesUrlPattern_congr h.scope h.paginationMode

theorem usesNextButton : j.pagination.usesNextButton = k.pagination.usesNextButton :=
  Pagination.usesNextButton_congr h.scope h.paginationMode

theorem hasProxies : j.network.hasProxies = k.network.hasProxies :=
  Network.hasProxies_congr h.proxies

theorem baseKnown : baseKnown j = baseKnown k := by
  simp only [Script.baseKnown, h.origin, h.baseUrl]

theorem resolvesLinks (known : Bool) :
    resolvesLinks j.extraction known = resolvesLinks k.extraction known := by
  simp only [Script.resolvesLinks, h.mode]

theorem packageImports (live : Bool) : packageImports j live = packageImports k live := by
  simp only [Script.packageImports, h.resolvesLinks, h.baseKnown]

theorem extractModules (live : Bool) : extractModules j live = extractModules k live := by
  simp only [Script.extractModules, h.output, h.hasProxies]

theorem pageConstants (clicks : Bool) :
    SameShape (pageConstants j clicks) (pageConstants k clicks) := by
  unfold Script.pageConstants
  dsimp only
  rw [h.usesUrlPattern, h.firstPage, h.pages]
  split_ifs <;> rfl

theorem pageLoop (engine : Engine) :
    pageLoop j.pagination engine = pageLoop k.pagination engine := by
  simp only [Script.pageLoop, h.usesUrlPattern, h.usesNextButton]

theorem session (engine : Engine) : session j engine = session k engine := by
  cases engine with
  | classic =>
    simp only [Script.session, classicSession, h.browserProfile, h.hasProxies, h.pageLoop]
  | modern =>
    simp only [Script.session, modernSession, launchArguments, h.browserProfile, h.hasProxies,
      h.pageLoop]

theorem captureScript (engine : Engine) :
    SameShape (captureScript j engine) (captureScript k engine) := by
  have network := sameShape_networkConstants h.requestDelay h.proxies
  have choice : proxyChoice j.network = proxyChoice k.network := by
    simp only [proxyChoice, h.hasProxies]
  simp only [Script.captureScript, SameShape, List.map_append]
  rw [h.hasProxies, h.usesNextButton, h.session, choice,
    sameShape_folderConstants j.project k.project, network, h.pageConstants]

theorem extractPage (known : Bool) :
    (extractPage j.extraction known).bare = (extractPage k.extraction known).bare :=
  bare_extractPage h.mode h.linkStrategy h.fields known

theorem outputStatements :
    SameShape (outputStatements j.extraction j.output)
      (outputStatements k.extraction k.output) := by
  have body (format : OutputFormat) :
      SameShape (outputBody j.extraction format) (outputBody k.extraction format) :=
    sameShape_outputBody (by simp only [isSimple, h.mode]) format
  rw [h.output]
  exact .cons rfl (.cons (bare_under (body k.output)) rfl)

theorem fetchScript : SameShape (fetchScript j) (fetchScript k) := by
  have network := sameShape_networkConstants h.requestDelay h.proxies
  have urls : pageUrls j.pagination = pageUrls k.pagination := by
    simp only [pageUrls, h.usesUrlPattern, h.usesNextButton]
  simp only [Script.fetchScript, SameShape, List.map_append, List.map_cons]
  rw [h.extractModules, h.packageImports, sameShape_folderConstants j.project k.project, network,
    h.browserProfile, h.pageConstants, h.extractPage, h.hasProxies, urls, h.outputStatements]

theorem savedPagesScript : SameShape (savedPagesScript j) (savedPagesScript k) := by
  have base : SameShape (baseConstant j.project.baseUrl?) (baseConstant k.project.baseUrl?) :=
    sameShape_baseConstant h.baseUrl
  simp only [Script.savedPagesScript, SameShape, List.map_append, List.map_cons]
  rw [h.extractModules, h.packageImports, sameShape_folderConstants j.project k.project, base,
    h.baseUrl, h.extractPage, h.outputStatements]

/-- Only the reason for which there is no script may differ, which stands in a comment. -/
theorem plan :
    j.plan = k.plan ∨ ∃ reason reason', j.plan = .guidance reason ∧ k.plan = .guidance reason' := by
  have hm := h.missingInput
  unfold Job.plan
  cases hj : j.missingInput? with
  | some reason =>
    rw [hj] at hm
    obtain ⟨reason', hk, _⟩ := Option.map_eq_some_iff.1 hm.symm
    rw [hk]
    exact .inr ⟨reason, reason', rfl, rfl⟩
  | none =>
    rw [hj] at hm
    rw [Option.map_eq_none_iff.1 hm.symm, h.target, h.origin]
    exact .inl rfl

theorem statements : SameShape j.statements k.statements := by
  -- the headers differ in comments only
  apply SameShape.append (a := j.header) rfl
  rcases h.plan with hp | ⟨reason, reason', hj, hk⟩
  · rw [hp]
    cases k.plan with
    | guidance reason => rfl
    | capture engine => exact h.captureScript engine
    | fetchLive => exact h.fetchScript
    | readSaved => exact h.savedPagesScript
  · rw [hj, hk]
    rfl

end Job.SameChoices

namespace Job

open Script

theorem exists_row_statements (j : Job) : ∃ r ∈ rowsAll 0 j.statements, r.isGap = false := by
  have tidy := j.allTidy_header
  rw [header, allTidy, Bool.and_eq_true] at tidy
  refine ⟨.comment 0 "Scraping script generated by scrapesmith.".toList, ?_, rfl⟩
  rw [statements, header, List.cons_append, rowsAll, Statement.rows, commentRows_of_isTidy tidy.1]
  exact List.mem_append_left _ (List.mem_singleton_self _)

/--
No text that a user entered leaves its literal or its comment: the scripts of jobs that make the
same choices are read as the same code.
-/
theorem skeleton_synthesize {j k : Job} (h : j.SameChoices k) :
    ∃ lexemes, Python.skeleton j.synthesize = some lexemes ∧
      Python.skeleton k.synthesize = some lexemes :=
  skeleton_render_eq_of_bare j.allTidy_statements k.allTidy_statements h.statements
    j.exists_row_statements k.exists_row_statements

def modestJob : Job where
  project := { startUrl := some "https://shop.test" }
  extraction := {
    container := { tag := "li" }
    fields := [{ id := .zero, name := "title", tag := "h2" }, { id := .zero, name := "price" }]
    simpleField := Extraction.defaultSimpleField .zero }
  network := { proxies := ["localhost:8080"] }

/-- A job with the choices of `modestJob` and texts that would end literals, comments and lines. -/
def hostileJob : Job where
  project := { folder := "\"); import os #", startUrl := some "'\"'\n\"" }
  extraction := {
    container := { tag := "li\\" }
    fields := [
      { id := .zero, name := "\\\"]\r#", tag := "h2\n" },
      { id := .zero, name := "price\nimport os\n" }]
    simpleField := Extraction.defaultSimpleField .zero }
  network := { proxies := ["", "'] + ['"] }

theorem skeleton_synthesize_hostileJob :
    modestJob.SameChoices hostileJob ∧
      ∃ lexemes, Python.skeleton modestJob.synthesize = some lexemes ∧
        Python.skeleton hostileJob.synthesize = some lexemes := by
  have h : modestJob.SameChoices hostileJob := by
    constructor <;> decide
  exact ⟨h, skeleton_synthesize h⟩

end Job
end PageHarvest
