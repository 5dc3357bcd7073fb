import Mathlib
import PageHarvest.Proofs.Script.Guidance
import PageHarvest.Proofs.Script.Laid

namespace PageHarvest

namespace Script

/-- The only control characters of a text are the line feeds that end its lines. -/
def LineFeedsOnly (script : String) : Prop :=
  ∀ c ∈ script.toList, Text.isControl c = true → c = '\n'

def isClean (s : String) : Bool :=
  s.toList.all (!Text.isControl ·)

namespace Piece

def isClean (p : Piece) : Bool :=
  p.chars.all (!Text.isControl ·)

end Piece

mutual

/-- Whether the lines of a statement show no control characters. -/
def Statement.isClean : Statement → Bool
  | .line pieces => pieces.all Piece.isClean
  | .comment text => Script.isClean text
  | .blank => true
  | .block header body => header.all Piece.isClean && allClean body

def allClean : List Statement → Bool
  | [] => true
  | s :: rest => s.isClean && allClean rest

end

namespace Row

def isClean (r : Row) : Bool :=
  r.content.all (!Text.isControl ·)

@[simp] theorem isClean_code (depth : Nat) (pieces : List Piece) :
    (code depth pieces).isClean = pieces.all Piece.isClean := by
  rw [isClean, content, lineChars, List.all_flatMap]
  rfl

@[simp] theorem isClean_comment (depth : Nat) (text : List Char) :
    (comment depth text).isClean = text.all (!Text.isControl ·) := by
  cases text with
  | nil => rfl
  | cons c text => rfl

theorem eq_lineFeed_of_isClean {r : Row} (h : r.isClean = true) {c : Char} (hc : c ∈ r.chars)
    (hcontrol : Text.isControl c = true) : c = '\n' := by
  simp only [chars, List.mem_append, List.mem_singleton] at hc
  rcases hc with (hc | hc) | hc
  · rw [List.eq_of_mem_replicate hc] at hcontrol
    cases hcontrol
  · have clean := List.all_eq_true.1 h c hc
    rw [hcontrol] at clean
    cases clean
  · exact hc

end Row

theorem isClean_pass (depth : Nat) : (Row.code depth [.code "pass"]).isClean = true := by
  rw [Row.isClean_code]
  decide +kernel

mutual

theorem all_rows {s : Statement} (h : s.isTidy = true) (depth : Nat) :
    (s.rows depth).all Row.isClean = s.isClean := by
  cases s with
  | line pieces =>
    rw [Statement.rows, List.all_cons, List.all_nil, Bool.and_true, Row.isClean_code,
      Statement.isClean]
  | comment text =>
    rw [Statement.rows, commentRows_of_isTidy h, List.all_cons, List.all_nil, Bool.and_true,
      Row.isClean_comment, Statement.isClean, isClean]
  | blank => rfl
  | block header body =>
    simp only [Statement.isTidy, Bool.and_eq_true] at h
    rw [Statement.isClean]
    cases body with
    | nil =>
      rw [Statement.rows, List.all_cons, List.all_cons, List.all_nil, isClean_pass,
        Row.isClean_code, allClean]
      rfl
    | cons s rest =>
      rw [Statement.rows, List.all_cons, Row.isClean_code, all_rowsAll h.2]

theorem all_rowsAll {script : List Statement} (h : allTidy script = true) (depth : Nat) :
    (rowsAll depth script).all Row.isClean = allClean script := by
  cases script with
  | nil => rfl
  | cons s rest =>
    simp only [allTidy, Bool.and_eq_true] at h
    rw [rowsAll, List.all_append, all_rows h.1, all_rowsAll h.2, allClean]

end

theorem clean_render_iff {script : List Statement} (ht : allTidy script = true)
    (hne : ∃ r ∈ rowsAll 0 script, r.isGap = false) :
    LineFeedsOnly (render script) ↔ allClean script = true := by
  have tidy : ∀ r ∈ rowsAll 0 script, r.isTidy = true := isTidy_of_mem_rowsAll ht
  rw [LineFeedsOnly, render_eq_of_isTidy tidy hne, ← all_rowsAll ht 0, List.all_eq_true]
  constructor
  · intro h r hr
    rw [Row.isClean, List.all_eq_true]
    intro c hc
    rw [Bool.not_eq_true', Bool.eq_false_iff]
    intro hcontrol
    cases hg : r.isGap with
    | true =>
      rw [Row.eq_gap hg] at hc
      cases hc
    | false =>
      -- a line feed would end the row before its end
      have whole : c ∈ (settled (rowsAll 0 script)).flatMap Row.chars := by
        refine List.mem_flatMap.2 ⟨r, mem_settled hr hg, ?_⟩
        exact List.mem_append_left _ (List.mem_append_right _ hc)
      rw [h c whole hcontrol] at hc
      exact (Row.solid_of_isTidy (tidy r hr)).1 hc
  · intro h c hc hcontrol
    obtain ⟨r, hr, hc⟩ := List.mem_flatMap.1 hc
    exact Row.eq_lineFeed_of_isClean (h r (mem_of_mem_settled hr)) hc hcontrol

@[simp] theorem isClean_append (a b : String) : isClean (a ++ b) = (isClean a && isClean b) := by
  simp only [isClean, String.toList_append, List.all_append]

@[simp] theorem isClean_literal {text : String} {l : List Char} (h : text = String.ofList l)
    (hc : l.all (!Text.isControl ·) = true) : isClean text = true := by
  rw [isClean, Text.toList_of_eq h, hc]

@[simp] theorem isClean_code (text : String) : (Piece.code text).isClean = isClean text := by
  rfl

@[simp] theorem isClean_quoted (value : String) : (Piece.quoted value).isClean = true := by
  rw [Piece.isClean, List.all_eq_true]
  intro c hc
  rw [isControl_of_mem_literal hc]
  rfl

@[simp] theorem isClean_list (values : List String) : (Piece.list values).isClean = true := by
  rw [Piece.isClean, List.all_eq_true]
  intro c hc
  rw [isControl_of_mem_listLiteral hc]
  rfl

/-- Whether a part of an interpolated literal shows no control characters. -/
def Part.isClean : Part → Bool
  | plain text => Script.isClean text
  | hole expression => Script.isClean expression

@[simp] theorem isClean_plain (text : String) : (Part.plain text).isClean = isClean text := by
  rfl

@[simp] theorem isClean_hole (text : String) : (Part.hole text).isClean = isClean text := by
  rfl

@[simp] theorem isClean_interpolated (parts : List Part) :
    (Piece.interpolated parts).isClean = parts.all Part.isClean := by
  have part (p : Part) : p.chars.all (!Text.isControl ·) = p.isClean := by
    cases p with
    | plain text => rfl
    | hole expression =>
      simp only [Part.chars, List.cons_append, List.all_cons, List.all_append, List.all_nil]
      exact Bool.and_true _
  simp only [Piece.isClean, Piece.chars, List.cons_append, List.all_cons, List.all_append,
    List.all_flatMap, part, List.all_nil]
  exact Bool.and_true _

@[simp] theorem allClean_nil : allClean [] = true := by
  rw [allClean]

@[simp] theorem allClean_cons (s : Statement) (rest : List Statement) :
    allClean (s :: rest) = (s.isClean && allClean rest) := by
  rw [allClean]

@[simp] theorem allClean_append (a b : List Statement) :
    allClean (a ++ b) = (allClean a && allClean b) := by
  induction a with
  | nil => rfl
  | cons s a ih => rw [List.cons_append, allClean, allClean, ih, Bool.and_assoc]

theorem allClean_eq_all (script : List Statement) :
    allClean script = script.all Statement.isClean := by
  induction script with
  | nil => rfl
  | cons s script ih => rw [allClean, ih, List.all_cons]

@[simp] theorem isClean_comment (text : String) :
    (Statement.comment text).isClean = isClean text := by
  rw [Statement.isClean]

@[simp] theorem isClean_blank : Statement.blank.isClean = true := by
  rw [Statement.isClean]

@[simp] theorem isClean_line (pieces : List Piece) :
    (Statement.line pieces).isClean = pieces.all Piece.isClean := by
  rw [Statement.isClean]

@[simp] theorem isClean_block (header : List Piece) (body : List Statement) :
    (Statement.block header body).isClean = (header.all Piece.isClean && allClean body) := by
  rw [Statement.isClean]

@[simp] theorem isClean_codeLine (text : String) :
    (Statement.code text).isClean = isClean text := by
  simp [Statement.code]

@[simp] theorem isClean_under (header : String) (body : List Statement) :
    (Statement.under header body).isClean = (isClean header && allClean body) := by
  simp [Statement.under]

@[simp] theorem isClean_assign (name value : String) :
    (Statement.assign name value).isClean = isClean (name ++ " = ") := by
  simp [Statement.assign]

@[simp] theorem isClean_print (parts : List Part) :
    (Statement.print parts).isClean = parts.all Part.isClean := by
  simp (disch := first | exact rfl | decide) [Statement.print]

theorem isClean_of_isNumeral {number : String} (h : isNumeral number = true) :
    isClean number = true := by
  rw [isNumeral, Bool.and_eq_true, List.all_eq_true] at h
  rw [isClean, List.all_eq_true]
  intro c hc
  have printed : c.toNat = 46 ∨ (48 ≤ c.toNat ∧ c.toNat ≤ 57) := by
    rcases Bool.or_eq_true_iff.1 (h.2 c hc) with hd | hd
    · simp only [Char.isDigit, Bool.and_eq_true, decide_eq_true_eq] at hd
      exact .inr hd
    · rw [eq_of_beq hd]
      exact .inl rfl
  simp only [Text.isControl, Bool.not_eq_true', Bool.or_eq_false_iff, Bool.and_eq_false_iff,
    decide_eq_false_iff_not]
  omega

theorem allClean_importStatements (modules : List String) {further : List String}
    (h : ∀ line ∈ further, isClean line = true) :
    allClean (importStatements modules further) = true := by
  have standard : ∀ m ∈ standardModules, isClean ("import " ++ m) = true := by
    simp (disch := first | exact rfl | decide) [standardModules]
  rw [importStatements, allClean_append, allClean_append, Bool.and_eq_true, Bool.and_eq_true,
    allClean_eq_all, allClean_eq_all, List.all_eq_true, List.all_eq_true]
  refine ⟨⟨?_, ?_⟩, rfl⟩
  · intro s hs
    obtain ⟨m, hm, rfl⟩ := List.mem_map.1 hs
    rw [isClean_codeLine]
    exact standard m (List.mem_filter.1 hm).1
  · intro s hs
    obtain ⟨line, hl, rfl⟩ := List.mem_map.1 hs
    rw [isClean_codeLine]
    exact h line hl

theorem allClean_folderConstants (p : Project) : allClean (folderConstants p) = true := by
  simp (disch := first | exact rfl | decide) [folderConstants]

theorem allClean_networkConstants (n : Network) : allClean (networkConstants n) = true := by
  have delay : isClean n.delaySeconds = true := isClean_of_isNumeral (isNumeral_delaySeconds n)
  unfold networkConstants
  split_ifs <;> simp (disch := first | exact rfl | decide) [delay]

theorem allClean_pageConstants (j : Job) (clicks : Bool) :
    allClean (pageConstants j clicks) = true := by
  have number (n : Nat) : isClean n.repr = true := isClean_of_isNumeral (isNumeral_repr n)
  unfold pageConstants
  dsimp only
  split_ifs <;> simp (disch := first | exact rfl | decide) [number]

theorem isClean_engineImports (engine : Engine) (clicks proxies : Bool) :
    ∀ line ∈ engineImports engine clicks proxies, isClean line = true := by
  unfold engineImports
  cases engine with
  | classic => cases clicks <;> cases proxies <;> simp (disch := first | exact rfl | decide)
  | modern => simp (disch := first | exact rfl | decide)

theorem allClean_pageLoop (p : Pagination) (engine : Engine) :
    allClean (pageLoop p engine) = true := by
  unfold pageLoop
  split_ifs <;> cases engine <;>
    simp (disch := first | exact rfl | decide)
      [navigate, saveCurrent, clickStatements, stopStatements]

theorem allClean_session (j : Job) (engine : Engine) : allClean (session j engine) = true := by
  cases engine with
  | classic =>
    rw [session, classicSession]
    cases j.network.browserProfile <;> split_ifs <;>
      simp (disch := first | exact rfl | decide)
        [BrowserProfile.optionsClass, BrowserProfile.driverClass, allClean_pageLoop]
  | modern =>
    rw [session, modernSession, launchArguments]
    cases j.network.browserProfile <;> split_ifs <;>
      simp (disch := first | exact rfl | decide)
        [BrowserProfile.family, BrowserProfile.channel?, allClean_pageLoop]

theorem allClean_captureScript (j : Job) (engine : Engine) :
    allClean (captureScript j engine) = true := by
  have imports (modules : List String) (clicks proxies : Bool) :
      allClean (importStatements modules (engineImports engine clicks proxies)) = true :=
    allClean_importStatements modules (isClean_engineImports engine clicks proxies)
  have choice : allClean (proxyChoice j.network) = true := by
    unfold proxyChoice
    split_ifs <;> simp (disch := first | exact rfl | decide)
  simp (disch := first | exact rfl | decide)
    [captureScript, imports, allClean_folderConstants, allClean_networkConstants,
      allClean_pageConstants, savePage, choice, allClean_session]

def remarkIsClean (f : FieldDescriptor) : Bool :=
  isClean (commentText f.name)

theorem allClean_fieldStatements (f : FieldDescriptor) :
    allClean (fieldStatements f) = (f.hasTag || remarkIsClean f) := by
  unfold fieldStatements remarkIsClean
  cases f.hasTag <;> simp (disch := first | exact rfl | decide)

theorem allClean_fields (fields : List FieldDescriptor) :
    allClean (fields.flatMap fieldStatements) =
      (fields.filter (!·.hasTag)).all remarkIsClean := by
  induction fields with
  | nil => rfl
  | cons f fields ih =>
    rw [List.flatMap_cons, allClean_append, allClean_fieldStatements, ih, List.filter_cons]
    cases f.hasTag <;> simp

theorem allClean_structuredBody (e : Extraction) :
    allClean (structuredBody e) = (e.fields.filter (!·.hasTag)).all remarkIsClean := by
  unfold structuredBody
  cases hf : e.fields with
  | nil => simp (disch := first | exact rfl | decide) [containerTextStatements, noFieldsNotice]
  | cons f fields =>
    have clean := allClean_fields (f :: fields)
    simp (disch := first | exact rfl | decide) [-List.flatMap_cons, clean]

theorem allClean_linkRecord (baseKnown : Bool) : allClean (linkRecord baseKnown) = true := by
  unfold linkRecord
  cases baseKnown <;> simp (disch := first | exact rfl | decide)

theorem allClean_linksBody (e : Extraction) (baseKnown : Bool) :
    allClean (linksBody e baseKnown) = true := by
  unfold linksBody linkLoop
  cases e.linkStrategy <;> cases baseKnown <;>
    simp (disch := first | exact rfl | decide) [allClean_linkRecord, unresolvedLinksNotice]

/-- The fields on which an extraction remarks; only a structured one does so. -/
def remarked (e : Extraction) : List FieldDescriptor :=
  match e.mode with
  | .structured => e.fields.filter (!·.hasTag)
  | .simple | .links => []

theorem isClean_extractPage (e : Extraction) (baseKnown : Bool) :
    (extractPage e baseKnown).isClean = (remarked e).all remarkIsClean := by
  unfold extractPage remarked
  cases e.mode with
  | structured => simp (disch := first | exact rfl | decide) [allClean_structuredBody]
  | simple => simp (disch := first | exact rfl | decide) [simpleBody]
  | links => simp (disch := first | exact rfl | decide) [allClean_linksBody]

theorem isClean_packageImports (j : Job) (live : Bool) :
    ∀ line ∈ packageImports j live, isClean line = true := by
  unfold packageImports
  cases live <;> split_ifs <;> simp (disch := first | exact rfl | decide)

theorem isClean_fetchFunction (proxies : Bool) : (fetchFunction proxies).isClean = true := by
  have timeout : toString fetchTimeout = "30" := rfl
  unfold fetchFunction userAgentHeader proxyArgument
  rw [timeout]
  cases proxies <;> simp (disch := first | exact rfl | decide)

theorem allClean_pageUrls (p : Pagination) : allClean (pageUrls p) = true := by
  unfold pageUrls
  split_ifs <;> simp (disch := first | exact rfl | decide) [staticClickNotice]

theorem allClean_outputBody (e : Extraction) (format : OutputFormat) :
    allClean (outputBody e format) = true := by
  cases format with
  | csv =>
    simp only [outputBody, savedOutput, csvOutput, openOutput]
    split_ifs <;> simp (disch := first | exact rfl | decide)
  | json =>
    simp only [outputBody, savedOutput, jsonOutput, openOutput]
    split_ifs <;> simp (disch := first | exact rfl | decide)
  | print =>
    rw [outputBody, printOutput]
    cases isSimple e <;> simp (disch := first | exact rfl | decide)

theorem allClean_outputStatements (e : Extraction) (format : OutputFormat) :
    allClean (outputStatements e format) = true := by
  simp (disch := first | exact rfl | decide) [outputStatements, allClean_outputBody]

theorem allClean_fetchScript (j : Job) :
    allClean (fetchScript j) = (remarked j.extraction).all remarkIsClean := by
  have imports :
      allClean (importStatements (extractModules j true) (packageImports j true)) = true :=
    allClean_importStatements _ (isClean_packageImports j true)
  have loop : fetchLoop.isClean = true := by
    simp (disch := first | exact rfl | decide) [fetchLoop, parsePage, collectRecords]
  simp (disch := first | exact rfl | decide)
    [fetchScript, imports, allClean_folderConstants, allClean_networkConstants,
      allClean_pageConstants, isClean_extractPage, isClean_fetchFunction, allClean_pageUrls, loop,
      allClean_outputStatements]

theorem allClean_savedLoop (known : Bool) :
    allClean (savedLoop (if known then "BASE_URL" else "None")) = true := by
  unfold savedLoop parsePage collectRecords
  cases known <;> simp (disch := first | exact rfl | decide)

theorem allClean_baseConstant (baseUrl : Option String) :
    allClean (baseConstant baseUrl) = true := by
  cases baseUrl <;> simp (disch := first | exact rfl | decide) [baseConstant]

theorem allClean_savedPagesScript (j : Job) :
    allClean (savedPagesScript j) = (remarked j.extraction).all remarkIsClean := by
  have imports :
      allClean (importStatements (extractModules j false) (packageImports j false)) = true :=
    allClean_importStatements _ (isClean_packageImports j false)
  have order : pageOrder.isClean = true := by
    simp (disch := first | exact rfl | decide) [pageOrder]
  simp (disch := first | exact rfl | decide)
    [savedPagesScript, imports, allClean_folderConstants, allClean_baseConstant,
      isClean_extractPage, order, allClean_savedLoop, allClean_outputStatements]

end Script

theorem FieldName.isControl_of_isNameChar {c : Char} (h : isNameChar c = true) :
    Text.isControl c = false := by
  rw [Bool.eq_false_iff]
  intro hc
  simp only [isNameChar, Char.isAlphanum, Char.isAlpha, Char.isUpper, Char.isLower,
    Char.isDigit, Text.isControl, Bool.or_eq_true, Bool.and_eq_true, decide_eq_true_eq,
    beq_iff_eq, ge_iff_le] at h hc
  rcases h with ((h | h) | h) | rfl
  · have upper : 65 ≤ c.toNat ∧ c.toNat ≤ 90 := h
    omega
  · have lower : 97 ≤ c.toNat ∧ c.toNat ≤ 122 := h
    omega
  · have digit : 48 ≤ c.toNat ∧ c.toNat ≤ 57 := h
    omega
  · revert hc
    decide

namespace Job

open Script

variable {j : Job}

theorem allClean_header (j : Job) : allClean j.header = true := by
  have target : isClean j.target.label = true := by
    rcases j.target with (_ | _) | _ <;> exact isClean_literal rfl rfl
  have origin : isClean j.origin.label = true := by
    cases j.origin <;> exact isClean_literal rfl rfl
  have mode : isClean j.extraction.mode.label = true := by
    cases j.extraction.mode <;> exact isClean_literal rfl rfl
  simp (disch := first | exact rfl | decide) [header, target, origin, mode]

theorem allClean_guidance (reason : MissingInput) : allClean (guidance reason) = true := by
  rcases reason with (_ | _ | _ | _) | _ | _ | _ <;>
    simp (disch := first | exact rfl | decide)
      [guidance, MissingInput.message, Extraction.Lack.message, guidanceNotice]

/-- The fields of which the script of a job says that they have no tag. -/
def remarked (j : Job) : List FieldDescriptor :=
  match j.plan with
  | .guidance _ | .capture _ => []
  | .fetchLive | .readSaved => Script.remarked j.extraction

theorem allClean_statements (j : Job) :
    allClean j.statements = j.remarked.all remarkIsClean := by
  rw [statements, allClean_append, allClean_header, Bool.true_and, remarked]
  cases j.plan with
  | guidance reason => exact allClean_guidance reason
  | capture engine => exact allClean_captureScript j engine
  | fetchLive => exact allClean_fetchScript j
  | readSaved => exact allClean_savedPagesScript j

/-- A name that an accepted job may have stands in the comment as it is. -/
theorem remarkIsClean_of_isSafe {f : FieldDescriptor} (h : FieldName.isSafe f.name = true) :
    remarkIsClean f = true := by
  rw [FieldName.isSafe, Bool.and_eq_true, List.all_eq_true] at h
  rw [remarkIsClean, isClean, commentText, String.toList_ofList, List.all_eq_true]
  intro c hc
  rw [Bool.not_eq_true']
  rcases Text.mem_joinWith hc with hc | ⟨part, hp, hc⟩
  · have blank : " ".toList.all (!Text.isControl ·) = true := rfl
    simpa using List.all_eq_true.1 blank c hc
  · obtain ⟨line, hl, rfl⟩ := List.mem_map.1 (List.mem_filter.1 hp).1
    have named := Text.mem_of_mem_fields hl (Text.mem_of_mem_trim hc)
    exact FieldName.isControl_of_isNameChar (h.2 c named)

theorem mode_of_mem_remarked {f : FieldDescriptor} (h : f ∈ j.remarked) :
    j.extraction.mode = .structured ∧ f ∈ j.extraction.fields := by
  have found : f ∈ Script.remarked j.extraction := by
    unfold remarked at h
    cases hp : j.plan with
    | guidance reason | capture engine =>
      rw [hp] at h
      cases h
    | fetchLive | readSaved =>
      rw [hp] at h
      exact h
  unfold Script.remarked at found
  cases hm : j.extraction.mode with
  | structured =>
    rw [hm] at found
    exact ⟨rfl, (List.mem_filter.1 found).1⟩
  | simple | links =>
    rw [hm] at found
    cases found

/--
The only control characters in a script are its line feeds, unless the script says of a field that
it has no tag and its name brings one along. An accepted job has no such name.
-/
theorem lineFeedsOnly_synthesize_iff (j : Job) :
    (LineFeedsOnly j.synthesize ↔
        ∀ f ∈ j.remarked, ∀ c ∈ (commentText f.name).toList, Text.isControl c = false) ∧
      (j.validate = .ok () → LineFeedsOnly j.synthesize) := by
  have clean : LineFeedsOnly j.synthesize ↔ ∀ f ∈ j.remarked, remarkIsClean f = true := by
    rw [← List.all_eq_true, ← allClean_statements]
    exact clean_render_iff j.allTidy_statements j.exists_row_statements
  constructor
  · rw [clean]
    simp only [remarkIsClean, isClean, List.all_eq_true, Bool.not_eq_true']
  · intro h
    rw [clean]
    intro f hf
    obtain ⟨hm, hf⟩ := mode_of_mem_remarked hf
    exact remarkIsClean_of_isSafe (j.extraction.isSafe_of_validate (validate_eq_ok h).2.2 hm f hf)

theorem lineFeedsOnly_synthesize_iff_catalogJob :
    catalogJob.validate = .ok () ∧ LineFeedsOnly catalogJob.synthesize := by
  have accepted : catalogJob.validate = .ok () := by decide
  exact ⟨accepted, (lineFeedsOnly_synthesize_iff catalogJob).2 accepted⟩

def tabbedJob : Job :=
  { catalogJob with
    extraction :=
      { catalogJob.extraction with fields := [{ id := .zero, name := "unit\tprice" }] } }

theorem not_lineFeedsOnly_tabbedJob : ¬ LineFeedsOnly tabbedJob.synthesize := by
  have found : allClean tabbedJob.statements = false := by
    rw [allClean_statements]
    decide +kernel
  intro h
  have clean := (clean_render_iff tabbedJob.allTidy_statements tabbedJob.exists_row_statements).1 h
  rw [found] at clean
  cases clean

end Job
end PageHarvest
