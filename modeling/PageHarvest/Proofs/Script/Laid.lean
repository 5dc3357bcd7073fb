import PageHarvest.Proofs.Job.Accepted
import PageHarvest.Proofs.Script.Layout
import PageHarvest.Proofs.Script.Numeral
import PageHarvest.Proofs.Script.Skeleton

namespace PageHarvest

namespace Script

variable {tabs margin : Bool}

@[simp] theorem firstChar?_cons (p : Piece) (rest : List Piece) :
    firstChar? (p :: rest) = p.first? := by
  simp only [firstChar?, List.head?_cons, Option.bind_some]

@[simp] theorem lastChar?_singleton (p : Piece) : lastChar? [p] = p.last? := by
  simp only [lastChar?, List.getLast?_singleton, Option.bind_some]

@[simp] theorem lastChar?_cons_cons (p q : Piece) (rest : List Piece) :
    lastChar? (p :: q :: rest) = lastChar? (q :: rest) := by
  simp only [lastChar?, List.getLast?_cons_cons]

def noTab (s : String) : Bool :=
  s.toList.all (· != '\t')

@[simp] theorem noTab_append (a b : String) : noTab (a ++ b) = (noTab a && noTab b) := by
  simp only [noTab, String.toList_append, List.all_append]

section literals

variable {text : String} {l : List Char} (h : text = String.ofList l)

include h

@[simp] theorem noTab_literal (ht : l.all (· != '\t') = true) : noTab text = true := by
  rw [noTab, Text.toList_of_eq h, ht]

@[simp] theorem starts_code (hs : l.head?.any startsCode = true) :
    (Piece.code text).first?.any startsCode = true := by
  rw [Piece.first?, Text.toList_of_eq h, hs]

@[simp] theorem ends_code (he : l.getLast?.any endsCode = true) :
    (Piece.code text).last?.any endsCode = true := by
  rw [Piece.last?, Text.toList_of_eq h, he]

@[simp] theorem opens_code (ho : l.getLast? = some ':') : (Piece.code text).last? = some ':' := by
  rw [Piece.last?, Text.toList_of_eq h, ho]

@[simp] theorem isLaid_comment (hb : l.getLast?.any (!Text.isBlank ·) = true)
    (ht : l.all (· != '\t') = true) : (Statement.comment text).isLaid tabs margin = true := by
  rw [Statement.isLaid, Text.toList_of_eq h, hb, ht, Bool.true_or, Bool.true_and]

end literals

@[simp] theorem isTabless_code (text : String) : (Piece.code text).isTabless = noTab text := by
  rw [Piece.isTabless, noTab]

@[simp] theorem isTabless_interpolated (parts : List Part) :
    (Piece.interpolated parts).isTabless = parts.all fun p => p.chars.all (· != '\t') := by
  rw [Piece.isTabless]

@[simp] theorem tabless_plain (text : String) :
    (Part.plain text).chars.all (· != '\t') = noTab text := by
  rw [Part.chars, noTab]

@[simp] theorem tabless_hole (text : String) :
    (Part.hole text).chars.all (· != '\t') = noTab text := by
  simp [Part.chars, noTab]

@[simp] theorem isTabless_quoted (value : String) : (Piece.quoted value).isTabless = true := by
  simp only [Piece.isTabless]

@[simp] theorem isTabless_list (values : List String) : (Piece.list values).isTabless = true := by
  simp only [Piece.isTabless]

@[simp] theorem ends_quoted (value : String) :
    (Piece.quoted value).last?.any endsCode = true := by
  rcases literalQuote_eq value.toList with h | h <;> rw [Piece.last?, h] <;> rfl

@[simp] theorem ends_list (values : List String) :
    (Piece.list values).last?.any endsCode = true := by
  rfl

@[simp] theorem allLaid_nil : allLaid tabs margin [] = true := by
  rw [allLaid]

@[simp] theorem allLaid_cons (s : Statement) (rest : List Statement) :
    allLaid tabs margin (s :: rest) = (s.isLaid tabs margin && allLaid tabs margin rest) := by
  rw [allLaid]

@[simp] theorem isLaid_blank : Statement.blank.isLaid tabs margin = margin := by
  rw [Statement.isLaid]

@[simp] theorem isLaid_lineOf (pieces : List Piece) :
    (Statement.line pieces).isLaid tabs margin =
      ((firstChar? pieces).any startsCode && (lastChar? pieces).any endsCode &&
        pieces.all Piece.isTabless) := by
  rw [Statement.isLaid]

@[simp] theorem isLaid_block (header : List Piece) (body : List Statement) :
    (Statement.block header body).isLaid tabs margin =
      ((firstChar? header).any startsCode && lastChar? header == some ':' &&
        header.all Piece.isTabless && (body.isEmpty || !body.all Statement.isRemark) &&
        allLaid tabs false body) := by
  rw [Statement.isLaid]

@[simp] theorem isLaid_code (text : String) :
    (Statement.code text).isLaid tabs margin =
      ((Piece.code text).first?.any startsCode && (Piece.code text).last?.any endsCode &&
        noTab text) := by
  simp [Statement.code]

@[simp] theorem isLaid_under (header : String) (body : List Statement) :
    (Statement.under header body).isLaid tabs margin =
      ((Piece.code header).first?.any startsCode && (Piece.code header).last? == some ':' &&
        noTab header && (body.isEmpty || !body.all Statement.isRemark) &&
        allLaid tabs false body) := by
  simp [Statement.under]

@[simp] theorem isLaid_assign (name value : String) :
    (Statement.assign name value).isLaid tabs margin =
      ((Piece.code (name ++ " = ")).first?.any startsCode && noTab (name ++ " = ")) := by
  simp [Statement.assign]

@[simp] theorem isLaid_print (parts : List Part) :
    (Statement.print parts).isLaid tabs margin = (Piece.interpolated parts).isTabless := by
  simp (disch := first | exact rfl | decide) [Statement.print]

@[simp] theorem isRemark_code (text : String) : (Statement.code text).isRemark = false := by
  rw [Statement.code, Statement.isRemark]

@[simp] theorem isRemark_print (parts : List Part) :
    (Statement.print parts).isRemark = false := by
  rw [Statement.print, Statement.isRemark]

@[simp] theorem isRemark_line (pieces : List Piece) : (Statement.line pieces).isRemark = false := by
  rw [Statement.isRemark]

@[simp] theorem isRemark_under (header : String) (body : List Statement) :
    (Statement.under header body).isRemark = false := by
  rw [Statement.under, Statement.isRemark]

@[simp] theorem isRemark_block (header : List Piece) (body : List Statement) :
    (Statement.block header body).isRemark = false := by
  rw [Statement.isRemark]

theorem endsCode_of_isNumeralChar {c : Char} (h : isNumeralChar c = true) :
    endsCode c = true ∧ c ≠ '\t' := by
  have hrange : c.toNat = 46 ∨ (48 ≤ c.toNat ∧ c.toNat ≤ 57) := by
    rcases Bool.or_eq_true_iff.1 h with h | h
    · simp only [Char.isDigit, Bool.and_eq_true, decide_eq_true_eq] at h
      exact .inr h
    · rw [eq_of_beq h]
      exact .inl rfl
  have other (d : Char) (hd : d.toNat ≠ 46 ∧ (d.toNat < 48 ∨ 57 < d.toNat)) : c ≠ d := by
    rintro rfl
    omega
  have blank : Text.isBlank c = false := by
    rw [Bool.eq_false_iff]
    intro hb
    simp only [Text.isBlank, Bool.or_eq_true, Bool.and_eq_true, decide_eq_true_eq, beq_iff_eq] at hb
    omega
  refine ⟨?_, other '\t' (by decide)⟩
  rw [endsCode, blank, Bool.not_false, Bool.true_and, bne_iff_ne]
  exact other ':' (by decide)

theorem isLaid_number {name number : String} (hname : isNumeral number = true)
    (hs : (Piece.code name).first?.any startsCode = true) (ht : noTab name = true) :
    (Statement.code (name ++ number)).isLaid tabs margin = true := by
  simp only [isNumeral, Bool.and_eq_true, Bool.not_eq_true', List.isEmpty_eq_false_iff,
    List.all_eq_true] at hname
  have starts : (Piece.code (name ++ number)).first?.any startsCode = true := by
    obtain ⟨c, hc, hstart⟩ := (Option.any_eq_true _ _).1 hs
    have hhead : name.toList.head? = some c := hc
    simp [Piece.first?, List.head?_append, hhead, hstart]
  have ends : (Piece.code (name ++ number)).last?.any endsCode = true := by
    have hlast := List.getLast?_eq_some_getLast hname.1
    have hend := (endsCode_of_isNumeralChar (hname.2 _ (List.getLast_mem hname.1))).1
    simp [Piece.last?, List.getLast?_append, hlast, hend]
  have tabless : noTab number = true := by
    rw [noTab, List.all_eq_true]
    intro c hc
    exact bne_iff_ne.2 (endsCode_of_isNumeralChar (hname.2 c hc)).2
  rw [isLaid_code, noTab_append, starts, ends, ht, tabless]
  rfl

theorem allLaid_importStatements (modules : List String) {further : List String}
    (h : ∀ line ∈ further, (Statement.code line).isLaid tabs true = true) :
    allLaid tabs true (importStatements modules further) = true := by
  have standard : ∀ m ∈ standardModules,
      (Statement.code ("import " ++ m)).isLaid tabs true = true := by
    simp (disch := first | exact rfl | decide) [standardModules]
  rw [importStatements, allLaid_append, allLaid_append, Bool.and_eq_true, Bool.and_eq_true]
  refine ⟨⟨allLaid_iff.2 ?_, allLaid_iff.2 ?_⟩, rfl⟩
  · intro s hs
    obtain ⟨m, hm, rfl⟩ := List.mem_map.1 hs
    exact standard m (List.mem_filter.1 hm).1
  · intro s hs
    obtain ⟨line, hl, rfl⟩ := List.mem_map.1 hs
    exact h line hl

theorem allLaid_folderConstants (p : Project) : allLaid tabs margin (folderConstants p) = true := by
  simp (disch := first | exact rfl | decide) [folderConstants]

theorem allLaid_networkConstants (n : Network) :
    allLaid tabs margin (networkConstants n) = true := by
  have delay : (Statement.code ("REQUEST_DELAY = " ++ n.delaySeconds)).isLaid tabs margin = true :=
    isLaid_number (isNumeral_delaySeconds n) (starts_code rfl rfl) (noTab_literal rfl rfl)
  unfold networkConstants
  split_ifs <;> simp (disch := first | exact rfl | decide) [delay, -isLaid_code]

theorem allLaid_pageConstants (j : Job) (clicks : Bool) :
    allLaid tabs margin (pageConstants j clicks) = true := by
  have count (n : Nat) : (Statement.code ("PAGE_COUNT = " ++ n.repr)).isLaid tabs margin = true :=
    isLaid_number (isNumeral_repr n) (starts_code rfl rfl) (noTab_literal rfl rfl)
  have first (n : Nat) : (Statement.code ("FIRST_PAGE = " ++ n.repr)).isLaid tabs margin = true :=
    isLaid_number (isNumeral_repr n) (starts_code rfl rfl) (noTab_literal rfl rfl)
  unfold pageConstants
  dsimp only
  split_ifs <;> simp (disch := first | exact rfl | decide) [count, first, -isLaid_code]

theorem isLaid_engineImports (engine : Engine) (clicks proxies : Bool) :
    ∀ line ∈ engineImports engine clicks proxies,
      (Statement.code line).isLaid tabs margin = true := by
  unfold engineImports
  cases engine with
  | classic =>
    cases clicks <;> cases proxies <;> simp (disch := first | exact rfl | decide)
  | modern => simp (disch := first | exact rfl | decide)

theorem allLaid_pageLoop (p : Pagination) (engine : Engine) :
    allLaid tabs margin (pageLoop p engine) = true := by
  unfold pageLoop
  split_ifs <;> cases engine <;>
    simp (disch := first | exact rfl | decide)
      [navigate, saveCurrent, clickStatements, stopStatements]

theorem pageLoop_isFull (p : Pagination) (engine : Engine) :
    (pageLoop p engine).all Statement.isRemark = false := by
  unfold pageLoop navigate
  split_ifs <;> cases engine <;> simp

theorem allLaid_classicSession (j : Job) : allLaid tabs margin (classicSession j) = true := by
  unfold classicSession
  cases j.network.browserProfile <;> split_ifs <;>
    simp (disch := first | exact rfl | decide)
      [BrowserProfile.optionsClass, BrowserProfile.driverClass, allLaid_pageLoop, pageLoop_isFull]

theorem isLaid_launch (n : Network) :
    (Statement.line (.code ("browser = playwright." ++ n.browserProfile.family ++ ".launch(") ::
      launchArguments n ++ [.code ")"])).isLaid tabs margin = true := by
  unfold launchArguments
  cases n.browserProfile <;> split_ifs <;>
    simp (disch := first | exact rfl | decide) [BrowserProfile.family, BrowserProfile.channel?]

theorem allLaid_modernSession (j : Job) : allLaid tabs margin (modernSession j) = true := by
  have launch : (Statement.line (.code ("browser = playwright." ++
      j.network.browserProfile.family ++ ".launch(") ::
      (launchArguments j.network ++ [.code ")"]))).isLaid tabs false = true :=
    isLaid_launch j.network
  simp (disch := first | exact rfl | decide)
    [modernSession, launch, allLaid_pageLoop, pageLoop_isFull, -isLaid_lineOf]

theorem allLaid_session (j : Job) (engine : Engine) :
    allLaid tabs margin (session j engine) = true := by
  cases engine with
  | classic => exact allLaid_classicSession j
  | modern => exact allLaid_modernSession j

theorem allLaid_captureScript (j : Job) (engine : Engine) :
    allLaid tabs true (captureScript j engine) = true := by
  have imports (modules : List String) (clicks proxies : Bool) :
      allLaid tabs true (importStatements modules (engineImports engine clicks proxies)) = true :=
    allLaid_importStatements modules (isLaid_engineImports engine clicks proxies)
  have choice : allLaid tabs true (proxyChoice j.network) = true := by
    unfold proxyChoice
    split_ifs <;> simp (disch := first | exact rfl | decide)
  have save : savePage.isLaid tabs true = true := by
    simp (disch := first | exact rfl | decide) [savePage]
  simp (disch := first | exact rfl | decide)
    [captureScript, allLaid_append, imports, allLaid_folderConstants, allLaid_networkConstants,
      allLaid_pageConstants, choice, save, allLaid_session]

/-- The names of the fields show no tab in comments, unless tabs may be there. -/
def FieldsFit (tabs : Bool) (e : Extraction) : Prop :=
  ∀ f ∈ e.fields, (noTab (commentText f.name) || tabs) = true

theorem isLaid_comment_append {a b : String} (ha : noTab a = true)
    (hb : (Statement.comment b).isLaid tabs margin = true) :
    (Statement.comment (a ++ b)).isLaid tabs margin = true := by
  rw [Statement.isLaid, Bool.and_eq_true, ← noTab] at hb ⊢
  obtain ⟨c, hc, hblank⟩ := (Option.any_eq_true _ _).1 hb.1
  rw [String.toList_append, List.getLast?_append, hc, noTab_append, ha]
  exact ⟨hblank, hb.2⟩

theorem isLaid_untaggedComment {name : String} (h : (noTab name || tabs) = true) :
    (Statement.comment ("Field " ++ name ++ " has no tag configured.")).isLaid tabs margin =
      true := by
  have start : noTab "Field " = true := noTab_literal rfl rfl
  have rest : noTab " has no tag configured." = true := noTab_literal rfl rfl
  have last : " has no tag configured.".toList.getLast? = some '.' := by
    rw [Text.toList_of_eq rfl]
    rfl
  rw [Statement.isLaid, ← noTab, noTab_append, noTab_append, start, rest, Bool.true_and,
    Bool.and_true, h, String.toList_append, List.getLast?_append, last]
  rfl

theorem allLaid_fieldStatements {f : FieldDescriptor}
    (h : (noTab (commentText f.name) || tabs) = true) :
    allLaid tabs margin (fieldStatements f) = true := by
  have comment : (Statement.comment ("Field " ++ commentText f.name ++
      " has no tag configured.")).isLaid tabs margin = true := isLaid_untaggedComment h
  unfold fieldStatements
  dsimp only
  split_ifs <;> simp (disch := first | exact rfl | decide) [comment]

theorem allLaid_structuredBody {e : Extraction} (h : FieldsFit tabs e) :
    allLaid tabs margin (structuredBody e) = true := by
  have fields : allLaid tabs false (e.fields.flatMap fieldStatements) = true := by
    rw [allLaid_iff]
    intro s hs
    obtain ⟨f, hf, hs⟩ := List.mem_flatMap.1 hs
    exact allLaid_iff.1 (allLaid_fieldStatements (h f hf)) s hs
  have text : allLaid tabs false containerTextStatements = true := by
    simp (disch := first | exact rfl | decide) [containerTextStatements, noFieldsNotice]
  unfold structuredBody
  dsimp only
  split_ifs <;> simp (disch := first | exact rfl | decide) [allLaid_append, fields, text]

theorem allLaid_linkRecord (baseKnown : Bool) :
    allLaid tabs margin (linkRecord baseKnown) = true := by
  unfold linkRecord
  cases baseKnown <;> simp (disch := first | exact rfl | decide)

theorem allLaid_linksBody (e : Extraction) (baseKnown : Bool) :
    allLaid tabs margin (linksBody e baseKnown) = true := by
  have record : allLaid tabs false (linkRecord baseKnown) = true := allLaid_linkRecord baseKnown
  have full : (linkRecord baseKnown).all Statement.isRemark = false := by
    simp [linkRecord]
  have loop : (linkLoop e baseKnown).isLaid tabs margin = true := by
    unfold linkLoop
    split <;> simp (disch := first | exact rfl | decide) [record, full]
  unfold linksBody
  cases baseKnown <;>
    simp (disch := first | exact rfl | decide) [loop, unresolvedLinksNotice]

theorem isLaid_extractPage {e : Extraction} (h : e.mode = .structured → FieldsFit tabs e)
    (baseKnown : Bool) : (extractPage e baseKnown).isLaid tabs margin = true := by
  have structured : (structuredBody e).all Statement.isRemark = false := by
    simp [structuredBody]
  have links : (linksBody e baseKnown).all Statement.isRemark = false := by
    simp [linksBody]
  unfold extractPage
  cases hm : e.mode with
  | structured =>
    simp (disch := first | exact rfl | decide) [structured, allLaid_structuredBody (h hm)]
  | simple => simp (disch := first | exact rfl | decide) [simpleBody]
  | links => simp (disch := first | exact rfl | decide) [links, allLaid_linksBody]

theorem isLaid_packageImports (j : Job) (live : Bool) :
    ∀ line ∈ packageImports j live, (Statement.code line).isLaid tabs margin = true := by
  unfold packageImports
  cases live <;> split_ifs <;> simp (disch := first | exact rfl | decide)

theorem isLaid_fetchFunction (proxies : Bool) :
    (fetchFunction proxies).isLaid tabs margin = true := by
  have timeout : toString fetchTimeout = "30" := rfl
  unfold fetchFunction userAgentHeader proxyArgument
  rw [timeout]
  cases proxies <;> simp (disch := first | exact rfl | decide)

theorem allLaid_pageUrls (p : Pagination) : allLaid tabs margin (pageUrls p) = true := by
  unfold pageUrls
  split_ifs <;> simp (disch := first | exact rfl | decide) [staticClickNotice]

theorem isLaid_csvOutput (e : Extraction) : (csvOutput e).isLaid tabs margin = true := by
  unfold csvOutput openOutput
  split_ifs <;> simp (disch := first | exact rfl | decide)

theorem isLaid_jsonOutput (e : Extraction) : (jsonOutput e).isLaid tabs margin = true := by
  unfold jsonOutput openOutput
  split_ifs <;> simp (disch := first | exact rfl | decide)

theorem allLaid_savedOutput {fileName : String} {writing : Statement}
    (h : writing.isLaid tabs margin = true) :
    allLaid tabs margin (savedOutput fileName writing) = true := by
  simp (disch := first | exact rfl | decide) [savedOutput, h]

theorem allLaid_printOutput (e : Extraction) : allLaid tabs margin (printOutput e) = true := by
  unfold printOutput
  cases isSimple e <;> simp (disch := first | exact rfl | decide)

theorem allLaid_outputBody (e : Extraction) (format : OutputFormat) :
    allLaid tabs margin (outputBody e format) = true := by
  cases format with
  | csv => exact allLaid_savedOutput (isLaid_csvOutput e)
  | json => exact allLaid_savedOutput (isLaid_jsonOutput e)
  | print => exact allLaid_printOutput e

theorem allLaid_outputStatements (e : Extraction) (format : OutputFormat) :
    allLaid tabs margin (outputStatements e format) = true := by
  have full : (outputBody e format).all Statement.isRemark = false := by
    cases format <;> simp [outputBody, savedOutput, printOutput]
  simp (disch := first | exact rfl | decide) [outputStatements, allLaid_outputBody, full]

theorem allLaid_fetchScript {j : Job}
    (h : j.extraction.mode = .structured → FieldsFit tabs j.extraction) :
    allLaid tabs true (fetchScript j) = true := by
  have imports : allLaid tabs true
      (importStatements (extractModules j true) (packageImports j true)) = true :=
    allLaid_importStatements _ (isLaid_packageImports j true)
  have loop : fetchLoop.isLaid tabs true = true := by
    simp (disch := first | exact rfl | decide) [fetchLoop, parsePage, collectRecords]
  simp (disch := first | exact rfl | decide)
    [fetchScript, allLaid_append, imports, allLaid_folderConstants, allLaid_networkConstants,
      allLaid_pageConstants, isLaid_extractPage h, isLaid_fetchFunction, allLaid_pageUrls, loop,
      allLaid_outputStatements]

theorem allLaid_savedLoop (known : Bool) :
    allLaid tabs margin (savedLoop (if known then "BASE_URL" else "None")) = true := by
  unfold savedLoop parsePage collectRecords
  cases known <;> simp (disch := first | exact rfl | decide)

theorem allLaid_baseConstant (baseUrl : Option String) :
    allLaid tabs margin (baseConstant baseUrl) = true := by
  cases baseUrl <;> simp (disch := first | exact rfl | decide) [baseConstant]

theorem allLaid_savedPagesScript {j : Job}
    (h : j.extraction.mode = .structured → FieldsFit tabs j.extraction) :
    allLaid tabs true (savedPagesScript j) = true := by
  have imports : allLaid tabs true
      (importStatements (extractModules j false) (packageImports j false)) = true :=
    allLaid_importStatements _ (isLaid_packageImports j false)
  have order : pageOrder.isLaid tabs true = true := by
    simp (disch := first | exact rfl | decide) [pageOrder]
  simp (disch := first | exact rfl | decide)
    [savedPagesScript, allLaid_append, imports, allLaid_folderConstants, allLaid_baseConstant,
      isLaid_extractPage h, order, allLaid_savedLoop, allLaid_outputStatements]

end Script

namespace Job

open Script

variable {tabs : Bool}

theorem allLaid_header (j : Job) : allLaid tabs true j.header = true := by
  have target : noTab j.target.label = true := by
    rcases j.target with (_ | _) | _ <;> exact noTab_literal rfl rfl
  have origin : noTab j.origin.label = true := by
    cases j.origin <;> exact noTab_literal rfl rfl
  have mode : (Statement.comment j.extraction.mode.label).isLaid tabs true = true := by
    cases j.extraction.mode <;> exact isLaid_comment rfl rfl rfl
  have labels : (Statement.comment ("Backend: " ++ j.target.label ++ " | Origin: " ++
      j.origin.label ++ " | Mode: " ++ j.extraction.mode.label)).isLaid tabs true = true := by
    apply isLaid_comment_append ?_ mode
    simp (disch := first | exact rfl | decide) [target, origin]
  simp (disch := first | exact rfl | decide) [header, labels]

theorem allLaid_guidance (reason : MissingInput) : allLaid tabs true (guidance reason) = true := by
  rcases reason with (_ | _ | _ | _) | _ | _ | _ <;>
    simp (disch := first | exact rfl | decide)
      [guidance, MissingInput.message, Extraction.Lack.message, guidanceNotice]

theorem allLaid_statements {j : Job}
    (h : j.extraction.mode = .structured → FieldsFit tabs j.extraction) :
    allLaid tabs true j.statements = true := by
  rw [statements, allLaid_append, allLaid_header, Bool.true_and]
  cases j.plan with
  | guidance reason => exact allLaid_guidance reason
  | capture engine => exact allLaid_captureScript j engine
  | fetchLive => exact allLaid_fetchScript h
  | readSaved => exact allLaid_savedPagesScript h

theorem noTab_commentText {name : String} (h : FieldName.isSafe name = true) :
    noTab (commentText name) = true := by
  rw [noTab, commentText, String.toList_ofList, List.all_eq_true]
  intro c hc
  rw [bne_iff_ne]
  rcases Text.mem_joinWith hc with hc | ⟨part, hp, hc⟩
  · rintro rfl
    revert hc
    decide
  · obtain ⟨f, hf, rfl⟩ := List.mem_map.1 (List.mem_filter.1 hp).1
    simp only [FieldName.isSafe, Bool.and_eq_true, List.all_eq_true] at h
    have hname := h.2 c (Text.mem_of_mem_fields hf (Text.mem_of_mem_trim hc))
    rintro rfl
    cases hname

/--
The text of any script is laid out in blocks, whatever the job holds. An accepted job's script also
has no tab, so that it passes the check of its layout.
-/
theorem laidOut_synthesize (j : Job) :
    LaidOut j.synthesize ∧
      (j.validate = .ok () → '\t' ∉ j.synthesize.toList ∧ checkLayout j.synthesize = .ok ()) := by
  have tidy := j.allTidy_statements
  have hne := j.exists_row_statements
  constructor
  · have laid : allLaid true true j.statements = true :=
      allLaid_statements fun _ _ _ => Bool.or_true _
    exact laidOut_render tidy laid hne
  · intro h
    have fit : j.extraction.mode = .structured → FieldsFit false j.extraction := by
      intro hm f hf
      have safe := j.extraction.isSafe_of_validate (validate_eq_ok h).2.2 hm f hf
      rw [noTab_commentText safe]
      rfl
    have laid : allLaid false true j.statements = true := allLaid_statements fit
    have tabless : '\t' ∉ j.synthesize.toList := tab_not_mem_render tidy laid hne
    exact ⟨tabless, checkLayout_of_laidOut (laidOut_render tidy laid hne) tabless⟩

def catalogJob : Job where
  pagination := .pattern "https://shop.test/list/" "" 1 3
  extraction := {
    container := { tag := "li" }
    fields := [{ id := .zero, name := "title", tag := "h2" }, { id := .zero, name := "price" }]
    simpleField := Extraction.defaultSimpleField .zero }

theorem laidOut_synthesize_catalogJob :
    catalogJob.validate = .ok () ∧ LaidOut catalogJob.synthesize ∧
      '\t' ∉ catalogJob.synthesize.toList ∧ checkLayout catalogJob.synthesize = .ok () := by
  have accepted : catalogJob.validate = .ok () := by decide
  obtain ⟨laid, fits⟩ := laidOut_synthesize catalogJob
  exact ⟨accepted, laid, fits accepted⟩

end Job
end PageHarvest
