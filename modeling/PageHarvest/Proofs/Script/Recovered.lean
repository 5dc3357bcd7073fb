import PageHarvest.Proofs.Python.Records
import PageHarvest.Proofs.Script.Function

namespace PageHarvest

open Python

def FieldDescriptor.source (f : FieldDescriptor) : Source :=
  if f.hasTag then .firstMatch f.selector else .nothing

def Extraction.recordPlan (e : Extraction) : RecordPlan where
  containers := e.container.selector
  entries :=
    if e.fields.isEmpty then [("text", .wholeText)]
    else e.fields.map fun f => (f.name, f.source)

namespace Script

theorem line_code (depth : Nat) (text : String) :
    (Row.code depth [.code text]).line = indented depth text := by
  simp [Row.line, Row.content, Row.depth, lineChars, Piece.chars, indented]

theorem line_code_cons (depth : Nat) (text : String) (rest : List Piece) :
    (Row.code depth (.code text :: rest)).line = indented depth text ++ lineChars rest := by
  simp [Row.line, Row.content, Row.depth, lineChars, Piece.chars, indented]

theorem literalBehind_line (depth : Nat) (text value : String) (rest : List Piece)
    (h : (lineChars rest).head?.any (!isQuote ·) = true) :
    literalBehind depth text (Row.code depth (.code text :: .quoted value :: rest)).line =
      some (value.toList, lineChars rest) := by
  have ends : (lineChars rest).head? ≠ some (literalQuote value.toList) := by
    intro he
    rw [he, Option.any_some, isQuote_literalQuote] at h
    cases h
  have literal : lineChars (.quoted value :: rest) = literal value.toList ++ lineChars rest := rfl
  rw [line_code_cons, literalBehind, if_pos (by simp), List.drop_left, literal,
    readLiteral_literal_append _ _ ends]

theorem literalBehind_eq_none {depth : Nat} {text other : String} {rest : List Piece}
    (h : differ text.toList other.toList = true) :
    literalBehind depth text (Row.code depth (.code other :: rest)).line = none := by
  rw [line_code_cons, literalBehind, if_neg]
  rw [List.isPrefixOf_iff_prefix, indented, indented, List.append_assoc,
    List.prefix_append_right_inj]
  rintro ⟨more, he⟩
  exact append_ne_of_differ h _ _ he

theorem line_ne_indented {depth : Nat} {text other : String} {rest : List Piece}
    (h : differ other.toList text.toList = true) :
    (Row.code depth (.code other :: rest)).line ≠ indented depth text := by
  intro he
  rw [line_code_cons, indented, indented, List.append_assoc, List.append_cancel_left_eq] at he
  rw [← List.append_nil text.toList] at he
  exact append_ne_of_differ h _ _ he

theorem isCommentLine_code (depth : Nat) {text : String} (rest : List Piece)
    (h : (Piece.code text).first?.any startsCode = true) :
    isCommentLine (Row.code depth (.code text :: rest)).line = false := by
  rw [← firstChar?_cons (.code text) rest] at h
  obtain ⟨c, hc, hstart⟩ := (Option.any_eq_true _ _).1 (any_head?_lineChars h)
  simp only [startsCode, Bool.and_eq_true, bne_iff_ne] at hstart
  have start : (lineChars (.code text :: rest)).head?.any (!Text.isBlank ·) = true := by
    rw [hc]
    exact hstart.1
  rw [Row.line, Row.content, isCommentLine_indentation start, hc]
  simpa using hstart.2

theorem isCommentLine_comment (depth : Nat) (text : List Char) :
    isCommentLine (Row.comment depth text).line = true := by
  obtain ⟨said, hsaid, _⟩ := content_comment depth text
  have start : (Row.comment depth text).content.head?.any (!Text.isBlank ·) = true := by
    rw [hsaid]
    rfl
  rw [Row.line, isCommentLine_indentation start, hsaid]
  rfl

theorem isCommentLine_append :
    isCommentLine (indented 2 "records.append(record)") = false := by
  rw [← line_code]
  exact isCommentLine_code 2 [] (starts_code rfl rfl)

variable (element : Option String) (rest : List (List Char))

theorem readEntries_comment (text : List Char) :
    readEntries element ((Row.comment 2 text).line :: rest) = readEntries element rest := by
  have comment := isCommentLine_comment 2 text
  have other : (Row.comment 2 text).line ≠ indented 2 "records.append(record)" := by
    intro he
    rw [he, isCommentLine_append] at comment
    cases comment
  rw [readEntries, if_neg other, if_pos comment]

theorem readEntries_select (selector : String) :
    readEntries element ((Row.code 2
      [.code "element = container.select_one(", .quoted selector, .code ")"]).line :: rest) =
      readEntries (some selector) rest := by
  have other : differ "element = container.select_one(".toList "records.append(record)".toList =
      true := by
    decide
  have code : isCommentLine (Row.code 2 [.code "element = container.select_one(",
      .quoted selector, .code ")"]).line = false :=
    isCommentLine_code 2 _ (starts_code rfl rfl)
  have read := literalBehind_line 2 "element = container.select_one(" selector [.code ")"] rfl
  rw [readEntries, if_neg (line_ne_indented other), code, if_neg Bool.false_ne_true, read]
  simp [lineChars, Piece.chars]

theorem readEntries_entry (key : String) (behind : List Piece) {source : Source}
    (hs : source? element (lineChars behind) = some source)
    (h : (lineChars behind).head?.any (!isQuote ·) = true) :
    readEntries element ((Row.code 2 (.code "record[" :: .quoted key :: behind)).line :: rest) =
      (readEntries element rest).map ((key, source) :: ·) := by
  have other : differ "record[".toList "records.append(record)".toList = true := by
    decide
  have selects : differ "element = container.select_one(".toList "record[".toList = true := by
    decide
  have code : isCommentLine (Row.code 2 (.code "record[" :: .quoted key :: behind)).line = false :=
    isCommentLine_code 2 _ (starts_code rfl rfl)
  rw [readEntries, if_neg (line_ne_indented other), code, if_neg Bool.false_ne_true,
    literalBehind_eq_none selects, literalBehind_line 2 "record[" key behind h]
  simp only [Option.bind_eq_bind, Option.bind_some, hs, String.ofList_toList]
  cases readEntries element rest <;> rfl

theorem source?_lacking : source? element "] = None".toList = some .nothing := by
  rw [source?, if_pos rfl]

theorem source?_selected (selector : String) :
    source? (some selector) "] = element.get_text(strip=True) if element else None".toList =
      some (.firstMatch selector) := by
  rw [source?, if_neg (by decide), if_pos rfl, Option.map_some]

theorem source?_wholeText :
    source? element (lineChars [.code "] = container.get_text(", .quoted " ",
      .code ", strip=True)"]) = some .wholeText := by
  have behind : lineChars [.code "] = container.get_text(", .quoted " ", .code ", strip=True)"] =
      "] = container.get_text(\" \", strip=True)".toList := by
    decide
  rw [behind, source?, if_neg (by decide), if_neg (by decide), if_pos rfl]

def closingLines : List (List Char) :=
  [indented 2 "records.append(record)", indented 1 "return records"]

theorem readEntries_closingLines : readEntries element closingLines = some [] := by
  rw [closingLines, readEntries, if_pos rfl, if_pos rfl]

theorem readEntries_fieldStatements (f : FieldDescriptor) :
    ∃ selected, readEntries element ((rowsAll 2 (fieldStatements f)).map Row.line ++ rest) =
      (readEntries selected rest).map ((f.name, f.source) :: ·) := by
  unfold fieldStatements FieldDescriptor.source
  dsimp only
  split_ifs with ht
  · refine ⟨some f.selector, ?_⟩
    have entry := readEntries_entry (some f.selector) rest f.name
      [.code "] = element.get_text(strip=True) if element else None"]
      (source?_selected f.selector) rfl
    simp only [rowsAll, Statement.rows, List.map_cons, List.map_nil, List.cons_append,
      List.nil_append, readEntries_select, entry]
  · refine ⟨element, ?_⟩
    have entry := readEntries_entry element rest f.name [.code "] = None"]
      (source?_lacking element) rfl
    simp only [rowsAll, Statement.rows, commentRows_of_isTidy (isTidy_untaggedComment f),
      List.map_cons, List.map_nil, List.cons_append, List.nil_append, readEntries_comment, entry]

theorem readEntries_fields (fields : List FieldDescriptor) :
    readEntries element ((rowsAll 2 (fields.flatMap fieldStatements)).map Row.line ++
      closingLines) = some (fields.map fun f => (f.name, f.source)) := by
  induction fields generalizing element with
  | nil => exact readEntries_closingLines element
  | cons f fields ih =>
    rw [List.flatMap_cons, rowsAll_append, List.map_append, List.append_assoc]
    obtain ⟨selected, hf⟩ := readEntries_fieldStatements element _ f
    rw [hf, ih selected, Option.map_some, List.map_cons]

theorem readEntries_containerText :
    readEntries element ((rowsAll 2 containerTextStatements).map Row.line ++ closingLines) =
      some [("text", .wholeText)] := by
  have comment : (Statement.comment noFieldsNotice).isTidy = true :=
    isTidy_comment_literal rfl rfl
  have entry := readEntries_entry element closingLines "text" _ (source?_wholeText element) rfl
  simp only [containerTextStatements, rowsAll, Statement.rows, commentRows_of_isTidy comment,
    List.cons_append, List.nil_append, List.map_cons, List.map_nil, readEntries_comment, entry,
    readEntries_closingLines, Option.map_some]

theorem readBodyPlan_structuredBody (e : Extraction) :
    readBodyPlan ((rowsAll 1 (structuredBody e)).map Row.line) = some e.recordPlan := by
  have lines : (rowsAll 1 (structuredBody e)).map Row.line =
      indented 1 "records = []" ::
      (Row.code 1 [.code "containers = soup.select(", .quoted e.container.selector,
        .code ")"]).line ::
      indented 1 "for container in containers:" ::
      indented 2 "record = \x7b\x7d" ::
      ((rowsAll 2 (if e.fields.isEmpty then containerTextStatements
        else e.fields.flatMap fieldStatements)).map Row.line ++ closingLines) := by
    simp only [structuredBody, Statement.under, Statement.code, rowsAll, Statement.rows,
      rowsAll_append, List.cons_append, List.nil_append, List.append_nil, List.append_assoc,
      List.map_cons, List.map_append, List.map_nil, line_code, closingLines, Nat.reduceAdd]
  have containers := literalBehind_line 1 "containers = soup.select(" e.container.selector
    [.code ")"] rfl
  have entries : readEntries none ((rowsAll 2 (if e.fields.isEmpty then containerTextStatements
      else e.fields.flatMap fieldStatements)).map Row.line ++ closingLines) =
      some e.recordPlan.entries := by
    unfold Extraction.recordPlan
    dsimp only
    split_ifs
    · exact readEntries_containerText none
    · exact readEntries_fields none e.fields
  have close : lineChars [.code ")"] = [')'] := rfl
  rw [close] at containers
  simp only [lines, readBodyPlan, and_self, if_true, containers, entries, Option.map_some,
    String.ofList_toList]
  rfl

end Script

def Python.readRecordPlan (script : String) : Option RecordPlan :=
  (onlyBlock Script.pageHeader.toList script).bind readBodyPlan

namespace FieldDescriptor

def pick (f : FieldDescriptor) : String × Option String :=
  (f.name, if f.hasTag then some f.selector else none)

theorem source_ne_wholeText (f : FieldDescriptor) : f.source ≠ .wholeText := by
  unfold source
  split_ifs <;> exact nofun

theorem pick_eq (f : FieldDescriptor) : f.pick = (f.name, f.source.selector?) := by
  unfold pick source
  split_ifs <;> rfl

end FieldDescriptor

namespace Extraction

theorem eq_of_recordPlan {d e : Extraction} (h : d.recordPlan = e.recordPlan) :
    d.container.selector = e.container.selector ∧
      d.fields.map FieldDescriptor.pick = e.fields.map FieldDescriptor.pick := by
  obtain ⟨hcontainers, hentries⟩ := RecordPlan.mk.inj h
  refine ⟨hcontainers, ?_⟩
  have picks (fields : List FieldDescriptor) : fields.map FieldDescriptor.pick =
      (fields.map fun f => (f.name, f.source)).map fun p => (p.1, p.2.selector?) := by
    rw [List.map_map]
    exact List.map_congr_left fun f _ => f.pick_eq
  -- only an extraction without fields collects the text of the container
  cases hd : d.fields with
  | nil =>
    cases he : e.fields with
    | nil => rfl
    | cons g gs => simp [hd, he, g.source_ne_wholeText.symm] at hentries
  | cons f fs =>
    cases he : e.fields with
    | nil => simp [hd, he, f.source_ne_wholeText] at hentries
    | cons g gs =>
      rw [hd, he] at hentries
      rw [picks, picks]
      exact congrArg (List.map fun p => (p.1, p.2.selector?)) hentries

theorem nodup_keys_recordPlan {e : Extraction} (h : e.validate = .ok ())
    (hm : e.mode = .structured) : e.recordPlan.keys.Nodup := by
  unfold recordPlan RecordPlan.keys
  dsimp only
  split_ifs
  · exact List.pairwise_singleton _ _
  · rw [List.map_map]
    exact nodup_of_validate h hm

end Extraction

namespace Job

open Script

/-- A job whose script collects records in fields from pages that need no browser. -/
structure Collects (j : Job) : Prop where
  target : j.target = .staticFetch
  mode : j.extraction.mode = .structured
  planned : ∀ reason, j.plan ≠ .guidance reason

theorem readRecordPlan_synthesize {j : Job} (h : j.Collects) :
    readRecordPlan j.synthesize = some j.extraction.recordPlan := by
  have missing : j.missingInput? = none := missingInput?_of_planned h.planned
  have body : pageBody j.extraction (baseKnown j) = structuredBody j.extraction := by
    rw [pageBody, h.mode]
  rw [readRecordPlan, onlyBlock_synthesize h.target missing, Option.bind_some, body,
    readBodyPlan_structuredBody]

/--
A structured script carries what it collects without loss: the selector of its containers and, in
order, the name of each field with its selector, if it has one, can be read from its text. The
records of an accepted job have the same keys, each once, whatever the pages hold.
-/
theorem recordPlan_of_synthesize {j : Job} (h : j.Collects) :
    readRecordPlan j.synthesize = some j.extraction.recordPlan ∧
    (∀ k : Job, k.Collects → k.synthesize = j.synthesize →
      k.extraction.container.selector = j.extraction.container.selector ∧
        k.extraction.fields.map FieldDescriptor.pick =
          j.extraction.fields.map FieldDescriptor.pick) ∧
    (j.validate = .ok () → j.extraction.recordPlan.keys.Nodup ∧
      ∀ text? whole, (j.extraction.recordPlan.record text? whole).map Prod.fst =
        j.extraction.recordPlan.keys) := by
  refine ⟨readRecordPlan_synthesize h, fun k hk he => ?_, fun hv => ?_⟩
  · have read := readRecordPlan_synthesize hk
    rw [he, readRecordPlan_synthesize h] at read
    exact Extraction.eq_of_recordPlan (Option.some.inj read).symm
  · have distinct := Extraction.nodup_keys_recordPlan (validate_eq_ok hv).2.2 h.mode
    refine ⟨distinct, fun text? whole => ?_⟩
    rw [RecordPlan.record_eq_map distinct, List.map_map]
    rfl

/-- The catalog with a base URL, which a script that fetches its pages does not use. -/
def basedCatalogJob : Job :=
  { catalogJob with project := { baseUrl := some "/" } }

theorem recordPlan_of_synthesize_catalogJob :
    readRecordPlan catalogJob.synthesize = some {
        containers := "li", entries := [("title", .firstMatch "h2"), ("price", .nothing)] } ∧
      basedCatalogJob.synthesize = catalogJob.synthesize ∧
      basedCatalogJob.extraction.fields.map FieldDescriptor.pick =
        catalogJob.extraction.fields.map FieldDescriptor.pick ∧
      catalogJob.validate = .ok () ∧
      (catalogJob.extraction.recordPlan.record (fun _ => none) "").map Prod.fst =
        ["title", "price"] := by
  have planned : catalogJob.plan = .fetchLive ∧ basedCatalogJob.plan = .fetchLive := by decide
  have collects : catalogJob.Collects := by
    refine ⟨rfl, rfl, fun reason => ?_⟩
    rw [planned.1]
    exact nofun
  have based : basedCatalogJob.Collects := by
    refine ⟨rfl, rfl, fun reason => ?_⟩
    rw [planned.2]
    exact nofun
  have same : basedCatalogJob.synthesize = catalogJob.synthesize := rfl
  have accepted : catalogJob.validate = .ok () := by decide
  have plan : catalogJob.extraction.recordPlan = {
      containers := "li", entries := [("title", .firstMatch "h2"), ("price", .nothing)] } := by
    decide
  obtain ⟨read, equal, keys⟩ := recordPlan_of_synthesize collects
  refine ⟨plan ▸ read, same, (equal _ based same).2, accepted, ?_⟩
  rw [(keys accepted).2, plan]
  rfl

end Job
end PageHarvest
