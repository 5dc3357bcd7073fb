import PageHarvest.Proofs.Script.Entries

namespace PageHarvest

namespace Script

set_option maxRecDepth 2000

/-- A job either counts through pages or clicks through them. -/
theorem usesNextButton_of_usesUrlPattern {p : Pagination} (h : p.usesUrlPattern = true) :
    p.usesNextButton = false := by
  simp only [Pagination.usesUrlPattern, Bool.and_eq_true, beq_iff_eq] at h
  simp [Pagination.usesNextButton, h.2]

def captureEntries (engine : Engine) (proxies pattern clicks : Bool) : List Entry :=
  (standardNames.filter fun n =>
      (["os", "time"] ++ if proxies then ["random"] else []).contains n.text).map
    (fun n => .importing [n]) ++
  (match engine with
    | .classic =>
      .importing [.webdriver] ::
        ((if clicks then [.importing [.noSuchElement], .importing [.locator]] else []) ++
        (if proxies then [.importing [.proxyClass, .proxyType]] else []))
    | .modern => [.importing [.syncPlaywright]]) ++
  [ { binds := [.projectFolder] }, { binds := [.pagesFolder], uses := [.os, .projectFolder] },
    { binds := [.requestDelay] } ] ++
  (if proxies then [{ binds := [.proxies] }] else []) ++
  (if pattern then
    [ { binds := [.urlPrefix] }, { binds := [.urlSuffix] }, { binds := [.firstPage] },
      { binds := [.pageCount] } ]
  else
    { binds := [.startUrl] } ::
      (if clicks then [{ binds := [.nextSelector] }, { binds := [.pageCount] }] else [])) ++
  [{ uses := [.os, .pagesFolder] }, { uses := [.os, .pagesFolder] }] ++
  (if proxies then
    [{ binds := [.proxy], uses := [.random, .proxies] }, { uses := [.proxy] }] else []) ++
  (match engine with
    | .classic =>
      { uses := [.webdriver] } ::
        ((if proxies then
          [ { uses := [.proxyClass] }, { uses := [.proxyType] }, { uses := [.proxy] },
            { uses := [.proxy] } ]
        else []) ++ [{ uses := [.webdriver] }])
    | .modern =>
      { uses := [.syncPlaywright] } :: (if proxies then [{ uses := [.proxy] }] else [])) ++
  (if pattern then
    [ { uses := [.firstPage, .firstPage, .pageCount] }, { uses := [.urlPrefix, .urlSuffix] },
      { uses := [.time, .requestDelay] } ]
  else if clicks then
    [ { uses := [.startUrl] }, { uses := [.pageCount] }, { uses := [.time, .requestDelay] },
      { uses := [.pageCount] } ] ++
    (match engine with
      | .classic => [{ uses := [.locator, .nextSelector] }, { uses := [.noSuchElement] }]
      | .modern => [{ uses := [.nextSelector] }])
  else [{ uses := [.startUrl] }, { uses := [.time, .requestDelay] }]) ++
  [{ uses := [.pagesFolder] }]

def extractImports (live proxies resolves : Bool) (format : OutputFormat) : List Entry :=
  (standardNames.filter fun n =>
      (["os"] ++ (outputModule? format).toList ++
        (if live then "time" :: (if proxies then ["random"] else []) else ["glob"])).contains
          n.text).map
    (fun n => .importing [n]) ++
  (if live then [.importing [.requests]] else []) ++
  .importing [.beautifulSoup] :: (if resolves then [.importing [.urljoin]] else [])

def fetchEntries (proxies pattern resolves : Bool) (format : OutputFormat) : List Entry :=
  extractImports true proxies resolves format ++
  [ { binds := [.projectFolder] }, { binds := [.pagesFolder], uses := [.os, .projectFolder] },
    { binds := [.requestDelay] } ] ++
  (if proxies then [{ binds := [.proxies] }] else []) ++
  [{ binds := [.userAgent] }] ++
  (if pattern then
    [ { binds := [.urlPrefix] }, { binds := [.urlSuffix] }, { binds := [.firstPage] },
      { binds := [.pageCount] } ]
  else [{ binds := [.startUrl] }]) ++
  (if resolves then [{ uses := [.urljoin] }] else []) ++
  (if proxies then [{ uses := [.random, .proxies] }] else []) ++
  [{ uses := [.userAgent] }, { uses := [.requests] }] ++
  (if pattern then
    [{ uses := [.urlPrefix, .urlSuffix, .firstPage, .firstPage, .pageCount] }]
  else [{ uses := [.startUrl] }]) ++
  [{ uses := [.time, .requestDelay] }, { uses := [.requests] }, { uses := [.beautifulSoup] }] ++
  outputEntries format

def savedEntries (based resolves : Bool) (format : OutputFormat) : List Entry :=
  extractImports false false resolves format ++
  [{ binds := [.projectFolder] }, { binds := [.pagesFolder], uses := [.os, .projectFolder] }] ++
  (if based then [{ binds := [.baseUrl] }] else []) ++
  (if resolves then [{ uses := [.urljoin] }] else []) ++
  [ { uses := [.os] }, { uses := [.glob, .os, .pagesFolder] }, { uses := [.pagesFolder] },
    { uses := [.beautifulSoup] } ] ++
  (if based then [{ uses := [.baseUrl] }] else []) ++ [{ uses := [.os] }] ++ outputEntries format

theorem entries_captureScript (j : Job) (engine : Engine) :
    entriesAll true (captureScript j engine) =
      captureEntries engine j.network.hasProxies j.pagination.usesUrlPattern
        j.pagination.usesNextButton := by
  have folder : (Statement.code "os.makedirs(PAGES_FOLDER, exist_ok=True)").entries true =
      [{ uses := [.os, .pagesFolder] }] := by
    rw [entries_code, Text.toList_of_eq rfl]
    decide
  have report : (Statement.print [
      .plain "Pages saved to ", .hole "PAGES_FOLDER",
      .plain ". Read them with a local-files script to extract data."]).entries true =
      [{ uses := [.pagesFolder] }] := by
    simp (disch := exact rfl) [Text.toList_of_eq]
    decide
  cases engine <;>
    simp only [captureScript, entriesAll_append, entries_importStatements, entries_engineImports,
      entries_folderConstants, entries_networkConstants, entries_pageConstants, entriesAll_cons,
      entriesAll_nil, entries_blank, entries_savePage, folder, entries_proxyChoice,
      entries_session, entries_pageLoop, report, captureEntries, List.append_nil,
      List.nil_append, List.append_assoc, List.cons_append]

theorem entries_fetchScript {j : Job} (h : j.origin = .liveUrl) :
    entriesAll true (fetchScript j) =
      fetchEntries j.network.hasProxies j.pagination.usesUrlPattern
        (resolvesLinks j.extraction true) j.output := by
  have agent : (Statement.assign "USER_AGENT" j.network.browserProfile.userAgent).entries true =
      [{ binds := [.userAgent] }] := by
    simp (disch := exact rfl) [Text.toList_of_eq]
    decide
  have requestSession : (Statement.code "session = requests.Session()").entries true =
      [{ uses := [.requests] }] := by
    rw [entries_code, Text.toList_of_eq rfl]
    decide
  have empty : (Statement.code "all_data = []").entries true = [] := by
    rw [entries_code, Text.toList_of_eq rfl]
    decide
  -- the imports ask for a base URL by the origin, the function that uses it is told there is one
  have known : baseKnown j = true := by rw [baseKnown, h]
  simp only [fetchScript, entriesAll_append, entries_importStatements, entries_packageImports,
    entries_folderConstants, entries_networkConstants, entries_pageConstants, entriesAll_cons,
    entries_blank, agent, entries_extractPage, entries_fetchFunction,
    requestSession, empty, entries_pageUrls, entries_fetchLoop, entries_outputStatements, known,
    extractModules, fetchEntries, extractImports, List.nil_append,
    List.append_assoc, List.cons_append, if_true, Bool.false_eq_true, if_false]

theorem entries_savedPagesScript {j : Job} (h : j.origin = .localFiles) :
    entriesAll true (savedPagesScript j) =
      savedEntries j.project.baseUrl?.isSome
        (resolvesLinks j.extraction j.project.baseUrl?.isSome) j.output := by
  have empty : (Statement.code "all_data = []").entries true = [] := by
    rw [entries_code, Text.toList_of_eq rfl]
    decide
  have files : (Statement.line [
      .code "page_files = sorted(glob.glob(os.path.join(PAGES_FOLDER, ", .quoted "*.html",
      .code ")), key=page_order)"]).entries true = [{ uses := [.glob, .os, .pagesFolder] }] := by
    simp (disch := exact rfl) [Text.toList_of_eq]
    decide
  have known : baseKnown j = j.project.baseUrl?.isSome := by rw [baseKnown, h]
  simp only [savedPagesScript, entriesAll_append, entries_importStatements,
    entries_packageImports, entries_folderConstants, entries_baseConstant, entriesAll_cons,
    entries_blank, entries_extractPage, entries_pageOrder, empty, files,
    entries_savedLoop, entries_outputStatements, known, extractModules, Bool.false_eq_true,
    if_false, savedEntries, extractImports, List.append_nil, List.nil_append,
    List.append_assoc, List.cons_append]

theorem isBound_captureScript (j : Job) (engine : Engine) :
    isBound (entriesAll true (captureScript j engine)) = true := by
  -- a script that imports what a click needs clicks, or the imports were in vain
  have exclusive := @usesNextButton_of_usesUrlPattern j.pagination
  rw [entries_captureScript]
  generalize j.network.hasProxies = proxies
  generalize j.pagination.usesUrlPattern = pattern at exclusive ⊢
  generalize j.pagination.usesNextButton = clicks at exclusive ⊢
  revert proxies pattern clicks
  cases engine <;> decide

theorem isBound_fetchScript {j : Job} (h : j.origin = .liveUrl) :
    isBound (entriesAll true (fetchScript j)) = true := by
  rw [entries_fetchScript h]
  generalize j.network.hasProxies = proxies
  generalize j.pagination.usesUrlPattern = pattern
  generalize resolvesLinks j.extraction true = resolves
  generalize j.output = format
  revert proxies pattern resolves
  cases format <;> decide

theorem isBound_savedPagesScript {j : Job} (h : j.origin = .localFiles) :
    isBound (entriesAll true (savedPagesScript j)) = true := by
  rw [entries_savedPagesScript h]
  generalize resolvesLinks j.extraction j.project.baseUrl?.isSome = resolves
  generalize j.project.baseUrl?.isSome = based
  generalize j.output = format
  revert based resolves
  cases format <;> decide

end Script

namespace Job

open Script

theorem entries_header (j : Job) : entriesAll true j.header = [] := by
  simp [header]

theorem origin_of_plan (j : Job) :
    (j.plan = .fetchLive → j.origin = .liveUrl) ∧
      (j.plan = .readSaved → j.origin = .localFiles) := by
  unfold plan
  cases j.missingInput? with
  | some reason => exact ⟨nofun, nofun⟩
  | none => cases j.target <;> cases j.origin <;> simp

theorem isBound_statements {j : Job} (h : ∀ reason, j.plan ≠ .guidance reason) :
    isBound (entriesAll true j.statements) = true := by
  rw [statements, entriesAll_append, entries_header, List.nil_append]
  have origin := j.origin_of_plan
  cases hp : j.plan with
  | guidance reason => exact (h reason hp).elim
  | capture engine => exact isBound_captureScript j engine
  | fetchLive => exact isBound_fetchScript (origin.1 hp)
  | readSaved => exact isBound_savedPagesScript (origin.2 hp)

/--
In the code of every script that is one, each name of an import or a constant is used behind the
one line that binds it, and each import is used.
-/
theorem namesBound_synthesize (j : Job) (h : ∀ reason, j.plan ≠ .guidance reason) :
    ∃ code, Python.skeleton j.synthesize = some code ∧ NamesBound (Python.linesOf code) := by
  have tidy := j.allTidy_statements
  obtain ⟨code, hcode, hlines⟩ :=
    skeleton_render (isTidy_of_mem_rowsAll tidy) j.exists_row_statements
  have idle : ([[]].map Entry.ofLine).filter (!·.isIdle) = [] := rfl
  have hentries : rowEntries (settled (rowsAll 0 j.statements)) = entriesAll true j.statements := by
    rw [rowEntries_settled, rowEntries_rowsAll tidy]
    rfl
  refine ⟨code, hcode, namesBound_of_isBound ?_⟩
  rw [← isBound_filter, hlines, List.map_append, List.filter_append, idle, List.append_nil,
    List.map_map]
  rw [rowEntries] at hentries
  rw [Function.comp_def, hentries]
  exact isBound_statements h

theorem namesBound_synthesize_modestJob :
    modestJob.plan = .fetchLive ∧
      ∃ code, Python.skeleton modestJob.synthesize = some code ∧
        NamesBound (Python.linesOf code) := by
  have planned : modestJob.plan = .fetchLive := by decide
  refine ⟨planned, namesBound_synthesize modestJob fun reason => ?_⟩
  rw [planned]
  exact nofun

end Job
end PageHarvest
