import PageHarvest.Proofs.Script.Names
import PageHarvest.Proofs.Script.Numeral
import PageHarvest.Proofs.Script.Skeleton

namespace PageHarvest.Script

open Python

-- a line is evaluated character by character
set_option maxRecDepth 2000

variable {margin : Bool}

@[simp] theorem bareChars_nil : bareChars [] = [] := by
  simp only [bareChars, List.map_nil, lineChars, List.flatMap_nil]

@[simp] theorem bareChars_code (text : String) (rest : List Piece) :
    bareChars (.code text :: rest) = text.toList ++ bareChars rest := by
  simp only [bareChars, lineChars, List.map_cons, List.flatMap_cons, Piece.bare, Piece.chars]

@[simp] theorem bareChars_quoted (value : String) (rest : List Piece) :
    bareChars (.quoted value :: rest) = '"' :: '"' :: bareChars rest := by
  simp only [bareChars, lineChars, List.map_cons, List.flatMap_cons, Piece.bare, Piece.chars]
  rfl

theorem bareChars_list (values : List String) :
    bareChars [.list values] = listLiteral (values.map fun _ => []) := by
  simp [bareChars, lineChars, Piece.bare, Piece.chars]

@[simp] theorem bareChars_interpolated (parts : List Part) (rest : List Piece) :
    bareChars (.interpolated parts :: rest) =
      'f' :: '"' :: (parts.flatMap Part.chars ++ '"' :: bareChars rest) := by
  simp [bareChars, lineChars, Piece.bare, Piece.chars]

@[simp] theorem chars_plain (text : String) : (Part.plain text).chars = text.toList := by
  rw [Part.chars]

@[simp] theorem chars_hole (expression : String) :
    (Part.hole expression).chars = '\x7b' :: (expression.toList ++ ['\x7d']) := by
  rw [Part.chars, List.cons_append]

/-- Used where a part of a script has idle lines only. -/
theorem lineEntries_idle {line : List Char}
    (h : (if margin then Entry.ofLine (lineCode line) else Entry.ofInner (lineCode line)).isIdle =
      true) : lineEntries margin line = [] := by
  rw [lineEntries, if_pos h]

@[simp] theorem entriesAll_nil : entriesAll margin [] = [] := by
  rw [entriesAll]

@[simp] theorem entriesAll_cons (s : Statement) (rest : List Statement) :
    entriesAll margin (s :: rest) = s.entries margin ++ entriesAll margin rest := by
  rw [entriesAll]

@[simp] theorem entries_blank : Statement.blank.entries margin = [] := by
  rw [Statement.entries]

@[simp] theorem entries_comment (text : String) : (Statement.comment text).entries margin = [] := by
  rw [Statement.entries]

@[simp] theorem entries_line (pieces : List Piece) :
    (Statement.line pieces).entries margin = lineEntries margin (bareChars pieces) := by
  rw [Statement.entries]

@[simp] theorem entries_block (header : List Piece) (body : List Statement) :
    (Statement.block header body).entries margin =
      lineEntries margin (bareChars header) ++ entriesAll false body := by
  rw [Statement.entries]

@[simp] theorem entries_code (text : String) :
    (Statement.code text).entries margin = lineEntries margin text.toList := by
  simp [Statement.code]

@[simp] theorem entries_under (header : String) (body : List Statement) :
    (Statement.under header body).entries margin =
      lineEntries margin header.toList ++ entriesAll false body := by
  simp [Statement.under]

@[simp] theorem entries_assign (name value : String) :
    (Statement.assign name value).entries margin =
      lineEntries margin ((name ++ " = ").toList ++ ['"', '"']) := by
  simp [Statement.assign]

@[simp] theorem entries_print (parts : List Part) :
    (Statement.print parts).entries margin =
      lineEntries margin ("print(".toList ++ 'f' :: '"' :: (parts.flatMap Part.chars ++
        '"' :: ")".toList)) := by
  simp only [Statement.print, entries_line, bareChars_code, bareChars_interpolated, bareChars_nil,
    List.append_nil]

def isQuiet : Lexeme → Bool
  | .word w => !isName w
  | .literal formatted _ _ => !formatted
  | _ => true

def QuietTail (p : Place) (s : List Char) : Prop :=
  ∃ xs, scan p (s ++ ['\n']) = some (.code [], xs ++ [.lineEnd]) ∧ xs.all isQuiet = true

theorem plainNames_of_isQuiet {xs : List Lexeme} (h : xs.all isQuiet = true) (dotted : Bool) :
    plainNames dotted xs = [] := by
  induction xs generalizing dotted with
  | nil => rfl
  | cons x xs ih =>
    simp only [List.all_cons, Bool.and_eq_true] at h
    cases x with
    | word w =>
      have hw : (dotted || !isName w) = true := by
        rw [show (!isName w) = true from h.1, Bool.or_true]
      rw [plainNames, if_pos hw, ih h.2]
    | mark c => exact ih h.2 _
    | literal formatted quote body => exact ih h.2 _
    | comment text => exact ih h.2 _
    | lineEnd => exact ih h.2 _

theorem namesOf_of_isQuiet {xs : List Lexeme} (h : xs.all isQuiet = true) : namesOf xs = [] := by
  have quiet := List.all_eq_true.1 h
  rw [namesOf, plainNames_of_isQuiet h, List.nil_append, List.flatMap_eq_nil_iff]
  intro x hx
  cases x with
  | literal formatted quote body =>
    cases formatted with
    | true => exact nomatch quiet _ hx
    | false => rfl
  | _ => rfl

theorem isQuiet_bare (x : Lexeme) : isQuiet x.bare = isQuiet x := by
  cases x with
  | literal formatted quote body => cases formatted <;> rfl
  | _ => rfl

theorem lineCode_constant {n : Name} {a s : List Char} (ha : a = n.word ++ [' ', '=', ' '])
    (h : QuietTail (.code []) s) : ∃ xs : List Lexeme, xs.all isQuiet = true ∧
      lineCode (a ++ s) = .word n.word :: .mark ' ' :: .mark '=' :: .mark ' ' :: xs := by
  obtain ⟨xs, hscan, hquiet⟩ := h
  have hname : scan (.code []) a =
      some (.code [], [.word n.word, .mark ' ', .mark '=', .mark ' ']) := by
    rw [ha]
    cases n <;> rfl
  have hline := scan_append_of_eq hname hscan
  rw [← List.append_assoc, ← List.append_assoc] at hline
  have hend : [Lexeme.lineEnd].map Lexeme.bare = [.lineEnd] := rfl
  refine ⟨xs.map Lexeme.bare, ?_, ?_⟩
  · rw [List.all_map]
    simpa [Function.comp_def, isQuiet_bare] using hquiet
  · rw [lineCode, codeOf_of_scan hline, List.map_append, hend, List.dropLast_concat]
    rfl

/-- A line that gives a constant a value without names only assigns the constant. -/
theorem lineEntries_constant {n : Name} {a s : List Char} (ha : a = n.word ++ [' ', '=', ' '])
    (h : QuietTail (.code []) s) : lineEntries true (a ++ s) = [{ binds := [n] }] := by
  obtain ⟨xs, hbare, hcode⟩ := lineCode_constant ha h
  have himports : importedNames (.word n.word :: .mark ' ' :: .mark '=' :: .mark ' ' :: xs) =
      [] := by
    cases n <;> rfl
  have hrest : namesOf (.mark ' ' :: .mark '=' :: .mark ' ' :: xs) = [] :=
    namesOf_of_isQuiet hbare
  have hentry : Entry.ofLine (lineCode (a ++ s)) = { binds := [n] } := by
    rw [hcode]
    simp [Entry.ofLine, unindented, himports, boundNames, usedNames, assignedName?, hrest,
      Name.ofWord?_word]
  rw [lineEntries, if_pos rfl, hentry]
  rfl

theorem isQuiet_wordLexemes {word : List Char} (h : word.all Char.isDigit = true) :
    (wordLexemes word).all isQuiet = true := by
  cases word with
  | nil => rfl
  | cons c word =>
    have hname : isName (c :: word).reverse = false := by
      rw [isName, Bool.eq_false_iff]
      intro hany
      obtain ⟨d, hd, hdigit⟩ := (Option.any_eq_true _ _).1 hany
      have := List.all_eq_true.1 h d (List.mem_reverse.1 (List.mem_of_head? hd))
      simp [this] at hdigit
    simp only [wordLexemes, List.all_cons, isQuiet, hname, Bool.not_false, List.all_nil,
      Bool.and_true]

theorem quietTail_number {word s : List Char} (hw : word.all Char.isDigit = true)
    (hs : s.all isNumeralChar = true) : QuietTail (.code word) s := by
  induction s generalizing word with
  | nil => exact ⟨wordLexemes word, scan_lineEnd word, isQuiet_wordLexemes hw⟩
  | cons c s ih =>
    rw [List.all_cons, Bool.and_eq_true] at hs
    cases hc : c.isDigit with
    | true =>
      have hword : isWordChar c = true := by simp [isWordChar, Char.isAlphanum, hc]
      have hrest : (c :: word).all Char.isDigit = true := by simp [hc, hw]
      obtain ⟨xs, hscan, hquiet⟩ := ih hrest hs.2
      exact ⟨xs, by simp [scan, step, codeStep, hword, hscan], hquiet⟩
    | false =>
      obtain rfl : c = '.' := by simpa [isNumeralChar, hc] using hs.1
      obtain ⟨xs, hscan, hquiet⟩ : QuietTail (.code []) s := ih rfl hs.2
      have mark : scan (.code word) ['.'] = some (.code [], wordLexemes word ++ [.mark '.']) :=
        scan_mark rfl rfl word
      have hdot := scan_append_of_eq mark hscan
      refine ⟨wordLexemes word ++ [.mark '.'] ++ xs, by simpa using hdot, ?_⟩
      rw [List.all_append, List.all_append, isQuiet_wordLexemes hw, hquiet]
      rfl

theorem quietTail_listLiteral (items : List (List Char)) :
    QuietTail (.code []) (listLiteral items) := by
  obtain ⟨lexemes, hscan, hcode⟩ := scan_listLiteral [] items
  have quiet : (listCode items.length).all isQuiet = true := by
    cases items.length with
    | zero => rfl
    | succ n => simp [listCode, isQuiet]
  refine ⟨lexemes, scan_append_of_eq hscan rfl, ?_⟩
  rw [← hcode, List.all_map] at quiet
  simpa [Function.comp_def, isQuiet_bare] using quiet

theorem entries_number {n : Name} {text number : String} (h : text = n.text ++ " = ")
    (hnumber : isNumeral number = true) :
    (Statement.code (text ++ number)).entries true = [{ binds := [n] }] := by
  have htext : text.toList = n.word ++ [' ', '=', ' '] := by
    rw [h, String.toList_append, n.toList_text]
    rfl
  rw [isNumeral, Bool.and_eq_true] at hnumber
  rw [entries_code, String.toList_append]
  exact lineEntries_constant htext (quietTail_number rfl hnumber.2)

theorem entries_folderConstants (p : Project) :
    entriesAll true (folderConstants p) =
      [ { binds := [.projectFolder] },
        { binds := [.pagesFolder], uses := [.os, .projectFolder] } ] := by
  simp (disch := exact rfl) [folderConstants, Text.toList_of_eq]
  decide

theorem entries_networkConstants (n : Network) :
    entriesAll true (networkConstants n) =
      { binds := [.requestDelay] } ::
        (if n.hasProxies then [{ binds := [.proxies] }] else []) := by
  have delay : (Statement.code ("REQUEST_DELAY = " ++ n.delaySeconds)).entries true =
      [{ binds := [.requestDelay] }] :=
    entries_number rfl (isNumeral_delaySeconds n)
  have list : (Statement.line [.code "PROXIES = ", .list n.proxyList]).entries true =
      [{ binds := [.proxies] }] := by
    rw [entries_line, bareChars_code, bareChars_list]
    exact lineEntries_constant rfl (quietTail_listLiteral _)
  unfold networkConstants
  split_ifs
  · rw [entriesAll_cons, delay, entriesAll_cons, list, entriesAll_nil]
    rfl
  · rw [entriesAll_cons, delay, entriesAll_nil]
    rfl

theorem entries_pageConstants (j : Job) (clicks : Bool) :
    entriesAll true (pageConstants j clicks) =
      if j.pagination.usesUrlPattern then
        [ { binds := [.urlPrefix] }, { binds := [.urlSuffix] },
          { binds := [.firstPage] }, { binds := [.pageCount] } ]
      else
        { binds := [.startUrl] } ::
          (if clicks then [{ binds := [.nextSelector] }, { binds := [.pageCount] }]
          else []) := by
  have first (n : Nat) : (Statement.code ("FIRST_PAGE = " ++ toString n)).entries true =
      [{ binds := [.firstPage] }] :=
    entries_number rfl (isNumeral_repr n)
  have count (n : Nat) : (Statement.code ("PAGE_COUNT = " ++ toString n)).entries true =
      [{ binds := [.pageCount] }] :=
    entries_number rfl (isNumeral_repr n)
  unfold pageConstants
  dsimp only
  split_ifs <;> simp (disch := exact rfl) only
    [entriesAll_cons, entriesAll_nil, first, count, entries_assign, String.toList_append,
      Text.toList_of_eq] <;> decide

def standardNames : List Name :=
  [.csv, .glob, .json, .os, .random, .time]

theorem entriesAll_eq_flatMap (script : List Statement) :
    entriesAll margin script = script.flatMap (Statement.entries margin) := by
  induction script with
  | nil => rw [entriesAll_nil, List.flatMap_nil]
  | cons s script ih => rw [entriesAll_cons, List.flatMap_cons, ih]

theorem entries_import {n : Name} (h : n ∈ standardNames) :
    (Statement.code ("import " ++ n.text)).entries true = [.importing [n]] := by
  have space : "import ".toList = ['i', 'm', 'p', 'o', 'r', 't', ' '] := Text.toList_of_eq rfl
  rw [entries_code, String.toList_append, n.toList_text, space]
  revert n
  decide

theorem entries_importStatements (modules further : List String) :
    entriesAll true (importStatements modules further) =
      (standardNames.filter fun n => modules.contains n.text).map
        (fun n => .importing [n]) ++ entriesAll true (further.map Statement.code) := by
  have standard : standardModules = standardNames.map Name.text := rfl
  have imports {names : List Name} (h : ∀ n ∈ names, n ∈ standardNames) :
      names.flatMap (fun n => (Statement.code ("import " ++ n.text)).entries true) =
        names.map fun n => .importing [n] := by
    induction names with
    | nil => rfl
    | cons n names ih =>
      rw [List.forall_mem_cons] at h
      rw [List.flatMap_cons, entries_import h.1, ih h.2]
      rfl
  rw [importStatements, entriesAll_append, entriesAll_append, standard, List.filter_map,
    List.map_map, entriesAll_eq_flatMap, List.flatMap_map, entriesAll_cons, entries_blank,
    entriesAll_nil]
  simp only [Function.comp_def, List.append_nil]
  rw [imports fun n hn => (List.mem_filter.1 hn).1]

theorem entries_engineImports (engine : Engine) (clicks proxies : Bool) :
    entriesAll true ((engineImports engine clicks proxies).map Statement.code) =
      match engine with
      | .classic =>
        .importing [.webdriver] ::
          ((if clicks then [.importing [.noSuchElement], .importing [.locator]]
            else []) ++
          (if proxies then [.importing [.proxyClass, .proxyType]] else []))
      | .modern => [.importing [.syncPlaywright]] := by
  cases engine with
  | classic =>
    cases clicks <;> cases proxies <;>
      simp (disch := exact rfl) [engineImports, Text.toList_of_eq] <;> decide
  | modern =>
    simp (disch := exact rfl) [engineImports, Text.toList_of_eq]
    decide

theorem entries_packageImports (j : Job) (live : Bool) :
    entriesAll true ((packageImports j live).map Statement.code) =
      (if live then [.importing [.requests]] else []) ++
        .importing [.beautifulSoup] ::
          (if resolvesLinks j.extraction (baseKnown j) then [.importing [.urljoin]]
          else []) := by
  unfold packageImports
  cases live <;> split_ifs <;> simp (disch := exact rfl) [Text.toList_of_eq] <;> decide

theorem entries_savePage : savePage.entries true = [{ uses := [.os, .pagesFolder] }] := by
  simp (disch := exact rfl) [savePage, Text.toList_of_eq]
  decide

theorem entries_pageLoop (p : Pagination) (engine : Engine) :
    entriesAll false (pageLoop p engine) =
      if p.usesUrlPattern then
        [ { uses := [.firstPage, .firstPage, .pageCount] }, { uses := [.urlPrefix, .urlSuffix] },
          { uses := [.time, .requestDelay] } ]
      else if p.usesNextButton then
        [ { uses := [.startUrl] }, { uses := [.pageCount] }, { uses := [.time, .requestDelay] },
          { uses := [.pageCount] } ] ++
        (match engine with
          | .classic => [{ uses := [.locator, .nextSelector] }, { uses := [.noSuchElement] }]
          | .modern => [{ uses := [.nextSelector] }])
      else [{ uses := [.startUrl] }, { uses := [.time, .requestDelay] }] := by
  unfold pageLoop
  split_ifs <;> cases engine <;>
    simp (disch := exact rfl)
      [navigate, saveCurrent, clickStatements, stopStatements, Text.toList_of_eq] <;>
    decide

theorem entries_try (body : List Statement) :
    (Statement.under "try:" body).entries margin = entriesAll false body := by
  have idle : lineEntries margin ['t', 'r', 'y', ':'] = [] := by
    cases margin <;> decide
  rw [entries_under, Text.toList_of_eq rfl, idle, List.nil_append]

theorem entries_classicSession (j : Job) :
    entriesAll true (classicSession j) =
      { uses := [.webdriver] } ::
        ((if j.network.hasProxies then
          [ { uses := [.proxyClass] }, { uses := [.proxyType] }, { uses := [.proxy] },
            { uses := [.proxy] } ]
        else []) ++
        { uses := [.webdriver] } :: entriesAll false (pageLoop j.pagination .classic)) := by
  have options (profile : BrowserProfile) :
      (Statement.code ("options = webdriver." ++ profile.optionsClass ++ "()")).entries true =
        [{ uses := [.webdriver] }] := by
    cases profile <;>
      simp (disch := exact rfl)
        [BrowserProfile.optionsClass, BrowserProfile.driverClass, Text.toList_of_eq] <;>
      decide
  have driver (profile : BrowserProfile) :
      (Statement.code ("session = webdriver." ++ profile.driverClass ++
        "(options=options)")).entries true = [{ uses := [.webdriver] }] := by
    cases profile <;>
      simp (disch := exact rfl) [BrowserProfile.driverClass, Text.toList_of_eq] <;>
      decide
  have close : (Statement.under "finally:" [.code "session.quit()"]).entries true = [] := by
    simp (disch := first | exact rfl | decide) [Text.toList_of_eq, lineEntries_idle]
  have proxied : entriesAll true
      (if j.network.hasProxies then
        [ .code "proxy = Proxy()",
          .code "proxy.proxy_type = ProxyType.MANUAL",
          .code "proxy.http_proxy = PROXY",
          .code "proxy.ssl_proxy = PROXY",
          .code "options.proxy = proxy" ]
      else []) =
      if j.network.hasProxies then
        [ { uses := [.proxyClass] }, { uses := [.proxyType] }, { uses := [.proxy] },
          { uses := [.proxy] } ]
      else [] := by
    split_ifs
    · simp (disch := exact rfl) [Text.toList_of_eq]
      decide
    · exact entriesAll_nil
  simp only [classicSession, entriesAll_append, entriesAll_cons, entriesAll_nil, options, proxied,
    driver, entries_try, close, List.append_nil, List.cons_append, List.nil_append]

theorem entries_modernSession (j : Job) :
    entriesAll true (modernSession j) =
      { uses := [.syncPlaywright] } ::
        ((if j.network.hasProxies then [{ uses := [.proxy] }] else []) ++
          entriesAll false (pageLoop j.pagination .modern)) := by
  have launch (n : Network) :
      (Statement.line (.code ("browser = playwright." ++ n.browserProfile.family ++ ".launch(") ::
        launchArguments n ++ [.code ")"])).entries false =
        if n.hasProxies then [{ uses := [.proxy] }] else [] := by
    unfold launchArguments
    cases n.browserProfile <;> split_ifs <;>
      simp (disch := exact rfl)
        [BrowserProfile.family, BrowserProfile.channel?, Text.toList_of_eq] <;>
      decide
  have inside : entriesAll false
      [ .line (.code ("browser = playwright." ++ j.network.browserProfile.family ++ ".launch(") ::
          launchArguments j.network ++ [.code ")"]),
        .code "session = browser.new_page()",
        .under "try:" (pageLoop j.pagination .modern),
        .under "finally:" [.code "browser.close()"] ] =
      (if j.network.hasProxies then [{ uses := [.proxy] }] else []) ++
        entriesAll false (pageLoop j.pagination .modern) := by
    rw [entriesAll_cons, launch, entriesAll_cons, entriesAll_cons, entries_try]
    simp (disch := first | exact rfl | decide) [Text.toList_of_eq, lineEntries_idle]
  rw [modernSession, entriesAll_cons, entries_under, inside, Text.toList_of_eq rfl, entriesAll_nil,
    List.append_nil]
  rfl

theorem entries_session (j : Job) (engine : Engine) :
    entriesAll true (session j engine) =
      (match engine with
        | .classic =>
          { uses := [.webdriver] } ::
            ((if j.network.hasProxies then
              [ { uses := [.proxyClass] }, { uses := [.proxyType] }, { uses := [.proxy] },
                { uses := [.proxy] } ]
            else []) ++ [{ uses := [.webdriver] }])
        | .modern =>
          { uses := [.syncPlaywright] } ::
            (if j.network.hasProxies then [{ uses := [.proxy] }] else [])) ++
        entriesAll false (pageLoop j.pagination engine) := by
  cases engine with
  | classic => simp [session, entries_classicSession]
  | modern => simp [session, entries_modernSession]

theorem entries_proxyChoice (n : Network) :
    entriesAll true (proxyChoice n) =
      if n.hasProxies then
        [ { binds := [.proxy], uses := [.random, .proxies] }, { uses := [.proxy] } ]
      else [] := by
  unfold proxyChoice
  split_ifs
  · simp (disch := exact rfl) [Text.toList_of_eq]
    decide
  · exact entriesAll_nil

theorem entries_fieldStatements (f : FieldDescriptor) :
    entriesAll false (fieldStatements f) = [] := by
  unfold fieldStatements
  dsimp only
  split_ifs <;> simp (disch := first | exact rfl | decide) [Text.toList_of_eq, lineEntries_idle]

theorem entries_structuredBody (e : Extraction) :
    entriesAll false (structuredBody e) = [] := by
  have fields : entriesAll false (e.fields.flatMap fieldStatements) = [] := by
    rw [entriesAll_eq_flatMap, List.flatMap_assoc, List.flatMap_eq_nil_iff]
    intro f _
    rw [← entriesAll_eq_flatMap, entries_fieldStatements]
  unfold structuredBody
  dsimp only
  split_ifs <;>
    simp (disch := first | exact rfl | decide)
      [containerTextStatements, entriesAll_append, fields, Text.toList_of_eq, lineEntries_idle]

theorem entries_linksBody (e : Extraction) (baseKnown : Bool) :
    entriesAll false (linksBody e baseKnown) =
      if baseKnown then [{ uses := [.urljoin] }] else [] := by
  unfold linksBody linkLoop linkRecord
  cases e.linkStrategy <;> split_ifs <;>
    simp (disch := first | exact rfl | decide) [Text.toList_of_eq, lineEntries_idle] <;> decide

theorem entries_extractPage (e : Extraction) (baseKnown : Bool) :
    (extractPage e baseKnown).entries true =
      if resolvesLinks e baseKnown then [{ uses := [.urljoin] }] else [] := by
  have header : lineEntries true "def extract_page(soup, page_url):".toList = [] := by
    rw [Text.toList_of_eq rfl]
    decide
  rw [extractPage, entries_under, header, List.nil_append, resolvesLinks]
  cases e.mode with
  | structured => exact entries_structuredBody e
  | simple =>
    simp (disch := exact rfl) [simpleBody, Text.toList_of_eq]
    decide
  | links =>
    rw [entries_linksBody]
    rfl

theorem entries_fetchFunction (proxies : Bool) :
    (fetchFunction proxies).entries true =
      (if proxies then [{ uses := [.random, .proxies] }] else []) ++
        [{ uses := [.userAgent] }] := by
  have timeout : toString fetchTimeout = "30" := rfl
  unfold fetchFunction userAgentHeader proxyArgument
  rw [timeout]
  cases proxies <;> simp (disch := exact rfl) [Text.toList_of_eq] <;> decide

theorem entries_pageUrls (p : Pagination) :
    entriesAll true (pageUrls p) =
      if p.usesUrlPattern then
        [{ uses := [.urlPrefix, .urlSuffix, .firstPage, .firstPage, .pageCount] }]
      else [{ uses := [.startUrl] }] := by
  unfold pageUrls
  split_ifs <;> simp (disch := exact rfl) [Text.toList_of_eq] <;> decide

theorem entries_fetchLoop :
    fetchLoop.entries true =
      [ { uses := [.time, .requestDelay] }, { uses := [.requests] },
        { uses := [.beautifulSoup] } ] := by
  simp (disch := exact rfl) [fetchLoop, parsePage, collectRecords, Text.toList_of_eq]
  decide

theorem entries_pageOrder : pageOrder.entries true = [{ uses := [.os] }] := by
  simp (disch := exact rfl) [pageOrder, Text.toList_of_eq]
  decide

theorem entries_baseConstant (baseUrl : Option String) :
    entriesAll true (baseConstant baseUrl) =
      if baseUrl.isSome then [{ binds := [.baseUrl] }] else [] := by
  cases baseUrl with
  | none => exact entriesAll_nil
  | some url =>
    simp (disch := exact rfl) [baseConstant, Text.toList_of_eq]
    decide

theorem entries_savedLoop (known : Bool) :
    entriesAll true (savedLoop (if known then "BASE_URL" else "None")) =
      [{ uses := [.pagesFolder] }, { uses := [.beautifulSoup] }] ++
        (if known then [{ uses := [.baseUrl] }] else []) ++ [{ uses := [.os] }] := by
  unfold savedLoop parsePage collectRecords
  cases known <;> simp (disch := exact rfl) [Text.toList_of_eq] <;> decide

def outputName? : OutputFormat → Option Name
  | .csv => some .csv
  | .json => some .json
  | .print => none

def outputEntries (format : OutputFormat) : List Entry :=
  match outputName? format with
  | some n =>
    [{ uses := [.os, .projectFolder] }, { uses := [.os, .projectFolder] }, { uses := [n] }]
  | none => []

theorem entries_outputStatements (e : Extraction) (format : OutputFormat) :
    entriesAll true (outputStatements e format) = outputEntries format := by
  unfold outputStatements
  cases format with
  | csv =>
    unfold outputBody savedOutput csvOutput openOutput
    split_ifs <;> simp (disch := exact rfl) [Text.toList_of_eq] <;> decide
  | json =>
    unfold outputBody savedOutput jsonOutput openOutput
    split_ifs <;> simp (disch := exact rfl) [Text.toList_of_eq] <;> decide
  | print =>
    unfold outputBody printOutput
    cases isSimple e <;> simp (disch := exact rfl) [Text.toList_of_eq] <;> decide

end PageHarvest.Script
