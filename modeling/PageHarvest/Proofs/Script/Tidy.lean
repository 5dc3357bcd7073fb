import PageHarvest.Proofs.Script.Numeral
import PageHarvest.Proofs.Script.Shape
import PageHarvest.Proofs.Text.Lines
import PageHarvest.Script.Plan

namespace PageHarvest

namespace Script

open Python

def isCode (text : String) : Bool :=
  !text.toList.isEmpty && text.toList.all isCodeChar

@[simp] theorem isTidy_code (text : String) : (Statement.code text).isTidy = isCode text := by
  simp [Statement.code, Statement.isTidy, fit, Piece.fits, isCode]

theorem isCode_append {a b : String} (ha : isCode a = true) (hb : b.toList.all isCodeChar = true) :
    isCode (a ++ b) = true := by
  simp only [isCode, Bool.and_eq_true, Bool.not_eq_true', List.isEmpty_eq_false_iff] at ha ⊢
  rw [String.toList_append, List.all_append, ha.2, hb]
  exact ⟨List.append_ne_nil_of_left_ne_nil ha.1 _, rfl⟩

theorem isCodeChar_of_isNumeralChar {c : Char} (h : isNumeralChar c = true) :
    isCodeChar c = true := by
  rcases Bool.or_eq_true_iff.1 h with h | h
  · simp only [Char.isDigit, Bool.and_eq_true, decide_eq_true_eq, ge_iff_le] at h
    simp only [isCodeChar, isQuote, endsLine, Bool.and_eq_true, Bool.not_eq_true',
      Bool.or_eq_false_iff, beq_eq_false_iff_ne, bne_iff_ne, ne_eq]
    refine ⟨⟨⟨⟨?_, ?_⟩, ?_, ?_⟩, ?_⟩, ?_⟩ <;> rintro rfl <;> revert h <;> decide
  · rw [eq_of_beq h]
    rfl

theorem isTidy_number {name number : String} (hname : isCode name = true)
    (hnumber : isNumeral number = true) : (Statement.code (name ++ number)).isTidy = true := by
  rw [isNumeral, Bool.and_eq_true, List.all_eq_true] at hnumber
  rw [isTidy_code]
  apply isCode_append hname
  rw [List.all_eq_true]
  exact fun c hc => isCodeChar_of_isNumeralChar (hnumber.2 c hc)

section literals

variable {text : String} {l : List Char} (h : text = String.ofList l)

include h

@[simp] theorem isCode_literal (hc : (!l.isEmpty && l.all isCodeChar) = true) :
    isCode text = true := by
  rw [isCode, Text.toList_of_eq h, hc]

@[simp] theorem edge_literal (he : l.getLast?.any (!isWordChar ·) = true) :
    (Piece.code text).edge = .mark := by
  rw [Piece.edge, Text.toList_of_eq h, if_pos he]

@[simp] theorem isPlain_plain_literal (hp : l.all isPlainChar = true) :
    (Part.plain text).isPlain = true := by
  rw [Part.isPlain, Text.toList_of_eq h, hp]

@[simp] theorem isPlain_hole_literal (hp : l.all isPlainChar = true) :
    (Part.hole text).isPlain = true := by
  rw [Part.isPlain, Text.toList_of_eq h, hp]

end literals

variable {before : Edge}

@[simp] theorem fit_nil : fit before [] = true := by
  rw [fit]

@[simp] theorem fit_cons (p : Piece) (rest : List Piece) :
    fit before (p :: rest) = (p.fits before && fit p.edge rest) := by
  rw [fit]

@[simp] theorem fits_code_iff (text : String) : (Piece.code text).fits before = isCode text := by
  rw [Piece.fits, isCode]

@[simp] theorem fits_quoted (value : String) :
    (Piece.quoted value).fits before = (before == .mark) := by
  rw [Piece.fits]

@[simp] theorem fits_list (values : List String) : (Piece.list values).fits before = true := by
  rw [Piece.fits]

@[simp] theorem fits_interpolated (parts : List Part) :
    (Piece.interpolated parts).fits before = (before != .word && parts.all Part.isPlain) := by
  rw [Piece.fits]

@[simp] theorem allTidy_nil : allTidy [] = true := by
  rw [allTidy]

@[simp] theorem allTidy_cons (s : Statement) (rest : List Statement) :
    allTidy (s :: rest) = (s.isTidy && allTidy rest) := by
  rw [allTidy]

@[simp] theorem isTidy_blank : Statement.blank.isTidy = true := by
  rw [Statement.isTidy]

@[simp] theorem isTidy_line (p : Piece) (rest : List Piece) :
    (Statement.line (p :: rest)).isTidy = fit .mark (p :: rest) := by
  rw [Statement.isTidy, List.isEmpty_cons, Bool.not_false, Bool.true_and]

@[simp] theorem isTidy_block (p : Piece) (rest : List Piece) (body : List Statement) :
    (Statement.block (p :: rest) body).isTidy = (fit .mark (p :: rest) && allTidy body) := by
  rw [Statement.isTidy, List.isEmpty_cons, Bool.not_false, Bool.true_and]

@[simp] theorem isTidy_under (header : String) (body : List Statement) :
    (Statement.under header body).isTidy = (isCode header && allTidy body) := by
  simp [Statement.under]

@[simp] theorem isTidy_assign (name value : String) :
    (Statement.assign name value).isTidy =
      (isCode (name ++ " = ") && (Piece.code (name ++ " = ")).edge == .mark) := by
  simp [Statement.assign]

@[simp] theorem isTidy_print (parts : List Part) :
    (Statement.print parts).isTidy = parts.all Part.isPlain := by
  simp (disch := first | exact rfl | decide) [Statement.print]

def isOneLine (text : String) : Bool :=
  text.toList.all (!endsLine ·)

@[simp] theorem isOneLine_append (a b : String) :
    isOneLine (a ++ b) = (isOneLine a && isOneLine b) := by
  rw [isOneLine, isOneLine, isOneLine, String.toList_append, List.all_append]

@[simp] theorem isOneLine_literal {text : String} {l : List Char} (h : text = String.ofList l)
    (ho : l.all (!endsLine ·) = true) : isOneLine text = true := by
  rw [isOneLine, Text.toList_of_eq h, ho]

@[simp] theorem isTidy_comment_literal {text : String} {l : List Char}
    (h : text = String.ofList l) (hc : (!l.isEmpty && l.all (!endsLine ·)) = true) :
    (Statement.comment text).isTidy = true := by
  rw [Statement.isTidy, Text.toList_of_eq h, hc]

theorem isTidy_comment_append {a b : String} (ha : (Statement.comment a).isTidy = true)
    (hb : isOneLine b = true) : (Statement.comment (a ++ b)).isTidy = true := by
  simp only [Statement.isTidy, Bool.and_eq_true, Bool.not_eq_true', List.isEmpty_eq_false_iff]
    at ha ⊢
  rw [String.toList_append, List.all_append, ha.2]
  exact ⟨List.append_ne_nil_of_left_ne_nil ha.1 _, hb⟩

theorem isOneLine_commentText (s : String) : isOneLine (commentText s) = true := by
  rw [isOneLine, commentText, String.toList_ofList, List.all_eq_true]
  intro c h
  rw [Bool.not_eq_true']
  rcases Text.mem_joinWith h with h | ⟨part, hp, hc⟩
  · have hs : (" ".toList.all (!endsLine ·)) = true := rfl
    simpa using List.all_eq_true.1 hs c h
  · obtain ⟨f, hf, rfl⟩ := List.mem_map.1 (List.mem_filter.1 hp).1
    have := Text.sep_of_mem_fields hf (Text.mem_of_mem_trim hc)
    simp only [Bool.or_eq_false_iff] at this
    rw [endsLine, this.1, this.2]
    rfl

theorem allTidy_importStatements (modules : List String) {further : List String}
    (h : ∀ line ∈ further, isCode line = true) :
    allTidy (importStatements modules further) = true := by
  have standard : ∀ m ∈ standardModules, isCode ("import " ++ m) = true := by
    decide
  rw [importStatements, allTidy_append, allTidy_append, Bool.and_eq_true, Bool.and_eq_true]
  refine ⟨⟨allTidy_iff.2 ?_, allTidy_iff.2 ?_⟩, rfl⟩
  · intro s hs
    obtain ⟨m, hf, rfl⟩ := List.mem_map.1 hs
    rw [isTidy_code]
    exact standard m (List.mem_filter.1 hf).1
  · intro s hs
    obtain ⟨line, hl, rfl⟩ := List.mem_map.1 hs
    rw [isTidy_code]
    exact h line hl

theorem allTidy_folderConstants (p : Project) : allTidy (folderConstants p) = true := by
  simp (disch := first | exact rfl | decide) [folderConstants]

theorem allTidy_networkConstants (n : Network) : allTidy (networkConstants n) = true := by
  have delay : (Statement.code ("REQUEST_DELAY = " ++ n.delaySeconds)).isTidy = true :=
    isTidy_number (isCode_literal rfl rfl) (isNumeral_delaySeconds n)
  unfold networkConstants
  split_ifs <;> simp (disch := first | exact rfl | decide) [delay, -isTidy_code]

theorem allTidy_pageConstants (j : Job) (clicks : Bool) :
    allTidy (pageConstants j clicks) = true := by
  have count (n : Nat) : (Statement.code ("PAGE_COUNT = " ++ n.repr)).isTidy = true :=
    isTidy_number (isCode_literal rfl rfl) (isNumeral_repr n)
  have first (n : Nat) : (Statement.code ("FIRST_PAGE = " ++ n.repr)).isTidy = true :=
    isTidy_number (isCode_literal rfl rfl) (isNumeral_repr n)
  unfold pageConstants
  dsimp only
  split_ifs <;> simp (disch := first | exact rfl | decide) [count, first, -isTidy_code]

theorem isCode_engineImports (engine : Engine) (clicks proxies : Bool) :
    ∀ line ∈ engineImports engine clicks proxies, isCode line = true := by
  unfold engineImports
  cases engine with
  | classic =>
    cases clicks <;> cases proxies <;> simp (disch := first | exact rfl | decide)
  | modern => simp (disch := first | exact rfl | decide)

theorem allTidy_pageLoop (p : Pagination) (engine : Engine) :
    allTidy (pageLoop p engine) = true := by
  unfold pageLoop
  split_ifs <;> cases engine <;>
    simp (disch := first | exact rfl | decide)
      [navigate, saveCurrent, clickStatements, stopStatements]

theorem allTidy_classicSession (j : Job) : allTidy (classicSession j) = true := by
  unfold classicSession
  cases j.network.browserProfile <;> split_ifs <;>
    simp (disch := first | exact rfl | decide)
      [BrowserProfile.optionsClass, BrowserProfile.driverClass, allTidy_pageLoop]

theorem isTidy_launch (n : Network) :
    (Statement.line (.code ("browser = playwright." ++ n.browserProfile.family ++ ".launch(") ::
      launchArguments n ++ [.code ")"])).isTidy = true := by
  unfold launchArguments
  cases n.browserProfile <;> split_ifs <;>
    simp (disch := first | exact rfl | decide) [BrowserProfile.family, BrowserProfile.channel?]

theorem allTidy_modernSession (j : Job) : allTidy (modernSession j) = true := by
  have launch : (Statement.line (.code ("browser = playwright." ++
      j.network.browserProfile.family ++ ".launch(") ::
      (launchArguments j.network ++ [.code ")"]))).isTidy = true :=
    isTidy_launch j.network
  simp (disch := first | exact rfl | decide)
    [modernSession, launch, allTidy_pageLoop, -isTidy_line]

theorem allTidy_session (j : Job) (engine : Engine) : allTidy (session j engine) = true := by
  cases engine with
  | classic => exact allTidy_classicSession j
  | modern => exact allTidy_modernSession j

theorem allTidy_captureScript (j : Job) (engine : Engine) :
    allTidy (captureScript j engine) = true := by
  have imports (modules : List String) (clicks proxies : Bool) :
      allTidy (importStatements modules (engineImports engine clicks proxies)) = true :=
    allTidy_importStatements modules (isCode_engineImports engine clicks proxies)
  have choice : allTidy (proxyChoice j.network) = true := by
    unfold proxyChoice
    split_ifs <;> simp (disch := first | exact rfl | decide)
  have save : savePage.isTidy = true := by
    simp (disch := first | exact rfl | decide) [savePage]
  simp (disch := first | exact rfl | decide)
    [captureScript, allTidy_append, imports, allTidy_folderConstants, allTidy_networkConstants,
      allTidy_pageConstants, choice, save, allTidy_session]

theorem isTidy_untaggedComment (f : FieldDescriptor) :
    (Statement.comment ("Field " ++ commentText f.name ++ " has no tag configured.")).isTidy =
      true := by
  have start : (Statement.comment "Field ").isTidy = true := isTidy_comment_literal rfl rfl
  have named := isTidy_comment_append start (isOneLine_commentText f.name)
  exact isTidy_comment_append named (isOneLine_literal rfl rfl)

theorem allTidy_fieldStatements (f : FieldDescriptor) : allTidy (fieldStatements f) = true := by
  have untagged := isTidy_untaggedComment f
  unfold fieldStatements
  dsimp only
  split_ifs <;> simp (disch := first | exact rfl | decide) [untagged]

theorem allTidy_flatMap {α : Type} {f : α → List Statement} {items : List α}
    (h : ∀ x ∈ items, allTidy (f x) = true) : allTidy (items.flatMap f) = true := by
  induction items with
  | nil => rfl
  | cons x items ih =>
    rw [List.forall_mem_cons] at h
    rw [List.flatMap_cons, allTidy_append, h.1, ih h.2]
    rfl

theorem allTidy_structuredBody (e : Extraction) : allTidy (structuredBody e) = true := by
  have fields : allTidy (e.fields.flatMap fieldStatements) = true :=
    allTidy_flatMap fun f _ => allTidy_fieldStatements f
  unfold structuredBody
  dsimp only
  split_ifs <;>
    simp (disch := first | exact rfl | decide)
      [containerTextStatements, allTidy_append, fields, noFieldsNotice]

theorem allTidy_linkRecord (baseKnown : Bool) : allTidy (linkRecord baseKnown) = true := by
  unfold linkRecord
  split_ifs <;> simp (disch := first | exact rfl | decide)

theorem allTidy_linksBody (e : Extraction) (baseKnown : Bool) :
    allTidy (linksBody e baseKnown) = true := by
  unfold linksBody linkLoop
  cases e.linkStrategy <;> split_ifs <;>
    simp (disch := first | exact rfl | decide)
      [allTidy_linkRecord, unresolvedLinksNotice]

theorem isTidy_extractPage (e : Extraction) (baseKnown : Bool) :
    (extractPage e baseKnown).isTidy = true := by
  unfold extractPage
  cases e.mode with
  | structured => simp (disch := first | exact rfl | decide) [allTidy_structuredBody]
  | simple => simp (disch := first | exact rfl | decide) [simpleBody]
  | links => simp (disch := first | exact rfl | decide) [allTidy_linksBody]

theorem isCode_packageImports (j : Job) (live : Bool) :
    ∀ line ∈ packageImports j live, isCode line = true := by
  unfold packageImports
  cases live <;> split_ifs <;> simp (disch := first | exact rfl | decide)

theorem isTidy_fetchFunction (proxies : Bool) : (fetchFunction proxies).isTidy = true := by
  have timeout : toString fetchTimeout = "30" := rfl
  unfold fetchFunction userAgentHeader proxyArgument
  rw [timeout]
  cases proxies <;> simp (disch := first | exact rfl | decide)

theorem allTidy_pageUrls (p : Pagination) : allTidy (pageUrls p) = true := by
  unfold pageUrls
  split_ifs <;> simp (disch := first | exact rfl | decide) [staticClickNotice]

theorem isTidy_csvOutput (e : Extraction) : (csvOutput e).isTidy = true := by
  unfold csvOutput openOutput
  split_ifs <;> simp (disch := first | exact rfl | decide)

theorem isTidy_jsonOutput (e : Extraction) : (jsonOutput e).isTidy = true := by
  unfold jsonOutput openOutput
  split_ifs <;> simp (disch := first | exact rfl | decide)

theorem allTidy_savedOutput {fileName : String} {writing : Statement}
    (h : writing.isTidy = true) : allTidy (savedOutput fileName writing) = true := by
  simp (disch := first | exact rfl | decide) [savedOutput, h]

theorem allTidy_printOutput (e : Extraction) : allTidy (printOutput e) = true := by
  unfold printOutput
  cases isSimple e <;> simp (disch := first | exact rfl | decide)

theorem allTidy_outputBody (e : Extraction) (format : OutputFormat) :
    allTidy (outputBody e format) = true := by
  cases format with
  | csv => exact allTidy_savedOutput (isTidy_csvOutput e)
  | json => exact allTidy_savedOutput (isTidy_jsonOutput e)
  | print => exact allTidy_printOutput e

theorem allTidy_outputStatements (e : Extraction) (format : OutputFormat) :
    allTidy (outputStatements e format) = true := by
  simp (disch := first | exact rfl | decide) [outputStatements, allTidy_outputBody]

theorem allTidy_fetchScript (j : Job) : allTidy (fetchScript j) = true := by
  have imports :
      allTidy (importStatements (extractModules j true) (packageImports j true)) = true :=
    allTidy_importStatements _ (isCode_packageImports j true)
  have loop : fetchLoop.isTidy = true := by
    simp (disch := first | exact rfl | decide) [fetchLoop, parsePage, collectRecords]
  simp (disch := first | exact rfl | decide)
    [fetchScript, allTidy_append, imports, allTidy_folderConstants, allTidy_networkConstants,
      allTidy_pageConstants, isTidy_extractPage, isTidy_fetchFunction, allTidy_pageUrls, loop,
      allTidy_outputStatements]

theorem allTidy_savedLoop (known : Bool) :
    allTidy (savedLoop (if known then "BASE_URL" else "None")) = true := by
  unfold savedLoop parsePage collectRecords
  cases known <;> simp (disch := first | exact rfl | decide)

theorem allTidy_baseConstant (baseUrl : Option String) : allTidy (baseConstant baseUrl) = true := by
  cases baseUrl <;> simp (disch := first | exact rfl | decide) [baseConstant]

theorem allTidy_savedPagesScript (j : Job) : allTidy (savedPagesScript j) = true := by
  have imports :
      allTidy (importStatements (extractModules j false) (packageImports j false)) = true :=
    allTidy_importStatements _ (isCode_packageImports j false)
  have order : pageOrder.isTidy = true := by
    simp (disch := first | exact rfl | decide) [pageOrder]
  simp (disch := first | exact rfl | decide)
    [savedPagesScript, allTidy_append, imports, allTidy_folderConstants, allTidy_baseConstant,
      isTidy_extractPage, order, allTidy_savedLoop, allTidy_outputStatements]

end Script

namespace Job

open Script

theorem allTidy_header (j : Job) : allTidy j.header = true := by
  have target : isOneLine j.target.label = true := by
    rcases j.target with (_ | _) | _ <;> exact isOneLine_literal rfl rfl
  have origin : isOneLine j.origin.label = true := by
    cases j.origin <;> exact isOneLine_literal rfl rfl
  have mode : isOneLine j.extraction.mode.label = true := by
    cases j.extraction.mode <;> exact isOneLine_literal rfl rfl
  have labels : (Statement.comment ("Backend: " ++ j.target.label ++ " | Origin: " ++
      j.origin.label ++ " | Mode: " ++ j.extraction.mode.label)).isTidy = true := by
    simp only [String.append_assoc]
    apply isTidy_comment_append (isTidy_comment_literal rfl rfl)
    simp (disch := first | exact rfl | decide) [target, origin, mode]
  simp (disch := first | exact rfl | decide) [header, labels]

theorem allTidy_guidance (reason : MissingInput) : allTidy (guidance reason) = true := by
  rcases reason with (_ | _ | _ | _) | _ | _ | _ <;>
    simp (disch := first | exact rfl | decide)
      [guidance, MissingInput.message, Extraction.Lack.message, guidanceNotice]

theorem allTidy_statements (j : Job) : allTidy j.statements = true := by
  rw [statements, allTidy_append, allTidy_header, Bool.true_and]
  cases j.plan with
  | guidance reason => exact allTidy_guidance reason
  | capture engine => exact allTidy_captureScript j engine
  | fetchLive => exact allTidy_fetchScript j
  | readSaved => exact allTidy_savedPagesScript j

end Job
end PageHarvest
