import PageHarvest.Proofs.Script.Reads
import PageHarvest.Proofs.Script.Recovered

namespace PageHarvest

namespace Python

def function? (name program : String) : Option (List (List Char)) :=
  (startingOnly ("def ".toList ++ name.toList ++ ['(']) (Text.lines program.toList)).map
    fun found => found.1 :: Script.blockLines found.1 found.2

def onwards? (start program : String) : Option (List (List Char)) :=
  (startingOnly start.toList (Text.lines program.toList)).map fun found => found.1 :: found.2

end Python

namespace Script

open Python

def outputHeader : String := "if not all_data:"

def resolveLine : List Char :=
  indented 2 "href = urljoin(page_url, href)"

/-- The comment of a function that leaves links as they are written. -/
def unresolvedLine : List Char :=
  indented 1 ("# " ++ unresolvedLinksNotice)

def pageLines (e : Extraction) (baseKnown : Bool) : List (List Char) :=
  pageHeader.toList :: (rowsAll 1 (pageBody e baseKnown)).map Row.line

namespace StandsIn

variable {header : List Piece} {body behind : List Statement} {word longer : List Char}
  {lines : List (List Char)}

theorem extend (h : StandsIn header body behind word lines) (hw : word <+: longer)
    (hl : longer <+: lineChars header) : StandsIn header body behind longer lines where
  starts := hl
  found := by
    obtain ⟨earlier, he, hearlier⟩ := h.found
    exact ⟨earlier, he, fun l hm hp => hearlier l hm (hw.trans hp)⟩
  later l hm hp := h.later l hm (hw.trans hp)
  deeper := h.deeper

end StandsIn

theorem lines_unresolved :
    (commentRows 1 unresolvedLinksNotice).map Row.line = [unresolvedLine] := by
  have tidy : (Statement.comment unresolvedLinksNotice).isTidy = true :=
    isTidy_comment_literal rfl rfl
  rw [commentRows_of_isTidy tidy, unresolvedLine, indented, String.toList_append]
  rfl

theorem exists_lines_linkRecord :
    ∃ front last, (rowsAll 2 (linkRecord true)).map Row.line = front ++ resolveLine :: last ∧
      (rowsAll 2 (linkRecord false)).map Row.line = front ++ last := by
  unfold linkRecord
  simp only [rowsAll_append, List.map_append, List.append_assoc, if_true, Bool.false_eq_true,
    if_false, List.append_nil]
  refine ⟨_, _, congrArg _ ?_, congrArg _ rfl⟩
  rw [rowsAll, Statement.code, Statement.rows, List.singleton_append, List.map_cons, line_code]
  rfl

theorem exists_linkLoop_eq (e : Extraction) :
    ∃ header opening, ∀ known,
      linkLoop e known = .block header (opening ++ linkRecord known) := by
  unfold linkLoop
  cases e.linkStrategy with
  | allLinks => exact ⟨_, [], fun _ => rfl⟩
  | linksFromContainer => exact ⟨_, _, fun _ => rfl⟩

theorem exists_lines_linkLoop (e : Extraction) :
    ∃ front last, ((linkLoop e true).rows 1).map Row.line = front ++ resolveLine :: last ∧
      ((linkLoop e false).rows 1).map Row.line = front ++ last := by
  obtain ⟨header, opening, loop⟩ := exists_linkLoop_eq e
  obtain ⟨front, last, known, unknown⟩ := exists_lines_linkRecord
  have lines (b : Bool) : ((linkLoop e b).rows 1).map Row.line =
      (Row.code 1 header :: rowsAll 2 opening).map Row.line ++
        (rowsAll 2 (linkRecord b)).map Row.line := by
    have filled : opening ++ linkRecord b ≠ [] := by simp [linkRecord]
    rw [loop, rows_block filled, rowsAll_append, ← List.cons_append, List.map_append]
  refine ⟨(Row.code 1 header :: rowsAll 2 opening).map Row.line ++ front, last, ?_, ?_⟩
  · rw [lines, known, List.append_assoc]
  · rw [lines, unknown, List.append_assoc]

/-- Where no base is known, links are not resolved, which a comment says. -/
theorem exists_lines_linksBody (e : Extraction) :
    ∃ a b c,
      (rowsAll 1 (linksBody e true)).map Row.line = a ++ b ++ resolveLine :: c ∧
      (rowsAll 1 (linksBody e false)).map Row.line = a ++ unresolvedLine :: b ++ c := by
  obtain ⟨front, last, known, unknown⟩ := exists_lines_linkLoop e
  refine ⟨[indented 1 "records = []"], front, last ++ [indented 1 "return records"], ?_, ?_⟩
  · simp only [linksBody, if_true, Statement.code, Statement.rows, rowsAll, List.map_append, known,
      List.map_cons, line_code, List.map_nil, List.append_assoc, List.cons_append, List.append_nil,
      List.nil_append]
  · simp only [linksBody, Bool.false_eq_true, if_false, Statement.code, Statement.rows, rowsAll,
      List.map_append, unknown, lines_unresolved, List.map_cons, line_code, List.map_nil,
      List.append_assoc, List.cons_append, List.append_nil, List.nil_append]

def outputLines (e : Extraction) (format : OutputFormat) : List (List Char) :=
  (rowsAll 0 (outputStatements e format)).map Row.line

theorem startsOther_extractPage (e : Extraction) (known : Bool) :
    (extractPage e known).startsOther outputWord = true := by
  simp (disch := first | exact rfl | decide) [extractPage_eq, pageHeader]

def otherwise (e : Extraction) (format : OutputFormat) : Statement :=
  .under "else:" (outputBody e format)

theorem startsOther_otherwise (e : Extraction) (format : OutputFormat) :
    (otherwise e format).startsOther outputWord = true := by
  simp (disch := first | exact rfl | decide) [otherwise, Statement.under]

def nothingBody : List Statement :=
  [.line [.code "print(", .quoted noDataNotice, .code ")"]]

theorem outputStatements_eq (e : Extraction) (format : OutputFormat) :
    outputStatements e format =
      .block [.code outputHeader] nothingBody :: [otherwise e format] :=
  rfl

theorem linesBehind_otherwise {tabs : Bool} (e : Extraction) (format : OutputFormat)
    (ht : (otherwise e format).isTidy = true)
    (hl : (otherwise e format).isLaid tabs true = true) :
    outputHeader.toList :: linesBehind nothingBody [otherwise e format] =
      outputLines e format := by
  have filled : outputBody e format ≠ [] := by
    cases format <;> simp [outputBody, savedOutput, printOutput]
  have rows : rowsAll 0 [otherwise e format] =
      .code 0 [.code "else:"] :: rowsAll 1 (outputBody e format) := by
    rw [rowsAll, rowsAll, List.append_nil, otherwise, Statement.under, rows_block filled]
  have whole : ∀ r ∈ rowsAll 0 [otherwise e format], r.isGap = false := by
    rw [rows]
    exact isGap_of_mem_block ht hl
  have output : rowsAll 0 (outputStatements e format) =
      .code 0 [.code outputHeader] ::
        (rowsAll 1 nothingBody ++ rowsAll 0 [otherwise e format]) := by
    have opening : nothingBody ≠ [] := List.cons_ne_nil _ _
    rw [outputStatements_eq, rowsAll, rows_block opening, List.cons_append]
  have header : (Row.code 0 [.code outputHeader]).line = outputHeader.toList := line_code 0 _
  rw [linesBehind, settledBehind_of_not_isGap whole, outputLines, output, List.map_cons, header]

end Script

namespace Job

open Script Python

variable {j k : Job}

theorem function?_synthesize (ht : j.target = .staticFetch) (hm : j.missingInput? = none) :
    function? "extract_page" j.synthesize = some (pageLines j.extraction (baseKnown j)) := by
  obtain ⟨behind, stands⟩ := exists_standsIn_function ht hm
  have named :
      "def ".toList ++ "extract_page".toList ++ ['('] <+: lineChars [.code pageHeader] := by
    rw [lineChars_code, pageHeader]
    exact ⟨"soup, page_url):".toList, by decide⟩
  have other : functionWord <+: "def ".toList ++ "extract_page".toList ++ ['('] :=
    ⟨"xtract_page(".toList, by decide⟩
  rw [function?, (stands.extend other named).startingOnly_eq, Option.map_some, stands.blockLines_eq,
    lineChars_code, pageLines]

theorem onwards?_synthesize (ht : j.target = .staticFetch) (hm : j.missingInput? = none) :
    onwards? outputHeader j.synthesize = some (outputLines j.extraction j.output) := by
  obtain ⟨f, other, he⟩ := exists_frame ht hm
  obtain ⟨hbefore, hbetween⟩ := other outputWord (.inr rfl)
  have split : j.statements =
      (f.before ++ extractPage j.extraction (baseKnown j) :: .blank :: f.between) ++
        outputStatements j.extraction j.output := by
    rw [he, Frame.around]
    simp only [List.append_assoc, List.cons_append]
  have tidy := j.allTidy_statements
  have laid : allLaid true true j.statements = true :=
    allLaid_statements fun _ _ _ => Bool.or_true _
  rw [split, outputStatements_eq] at tidy laid
  have stands : StandsIn [.code outputHeader] nothingBody [otherwise j.extraction j.output]
      outputWord (Text.lines j.synthesize.toList) := by
    rw [synthesize, split, outputStatements_eq]
    apply standsIn_render tidy laid (List.cons_ne_nil _ _) _ rfl
    · simp only [List.all_append, List.all_cons, hbefore, startsOther_extractPage,
        startsOther_blank, hbetween, Bool.and_self]
    · simp only [List.all_cons, List.all_nil, startsOther_otherwise, Bool.and_self]
    · rw [lineChars_code, outputHeader]
      exact ⟨"ll_data:".toList, by decide⟩
  have whole : outputWord <+: outputHeader.toList := by
    rw [← lineChars_code]
    exact stands.starts
  have last : (otherwise j.extraction j.output).isTidy = true ∧
      (otherwise j.extraction j.output).isLaid true true = true :=
    ⟨allTidy_iff.1 tidy _ (by simp), allLaid_iff.1 laid _ (by simp)⟩
  rw [onwards?, (stands.extend whole (lineChars_code _ ▸ List.prefix_rfl)).startingOnly_eq,
    Option.map_some, lineChars_code, linesBehind_otherwise _ _ last.1 last.2]

theorem pageLines_of_mode {e : Extraction} (h : e.mode ≠ .links) (known known' : Bool) :
    pageLines e known = pageLines e known' := by
  unfold pageLines pageBody
  cases hm : e.mode with
  | structured => rfl
  | simple => rfl
  | links => exact (h hm).elim

/-- Jobs that do the same with their pages, the live ones of one and the saved ones of the other. -/
structure SameWork (live saved : Job) : Prop where
  targets : live.target = .staticFetch ∧ saved.target = .staticFetch
  origins : live.origin = .liveUrl ∧ saved.origin = .localFiles
  extraction : saved.extraction = live.extraction
  output : saved.output = live.output
  planned : (∀ reason, live.plan ≠ .guidance reason) ∧ ∀ reason, saved.plan ≠ .guidance reason

/--
The origin of the pages makes no difference to what is done with a page and with its records: both
scripts define the function once and have one output, to the end, which is the same in both. The
functions are the same as well, but that links of saved pages without a base are not resolved,
which a comment says instead.
-/
theorem shared_synthesize {live saved : Job} (h : SameWork live saved) :
    ∃ f g output,
      function? "extract_page" live.synthesize = some f ∧
      function? "extract_page" saved.synthesize = some g ∧
      onwards? outputHeader live.synthesize = some output ∧
      onwards? outputHeader saved.synthesize = some output ∧
      (live.extraction.mode ≠ .links ∨ saved.project.baseUrl?.isSome = true → g = f) ∧
      (live.extraction.mode = .links → saved.project.baseUrl? = none →
        ∃ a b c, f = a ++ b ++ resolveLine :: c ∧ g = a ++ unresolvedLine :: b ++ c) := by
  have mlive := missingInput?_of_planned h.planned.1
  have msaved := missingInput?_of_planned h.planned.2
  have known : baseKnown live = true := by rw [baseKnown, h.origins.1]
  have told : baseKnown saved = saved.project.baseUrl?.isSome := by rw [baseKnown, h.origins.2]
  have f := function?_synthesize h.targets.1 mlive
  have g := function?_synthesize h.targets.2 msaved
  have outlive := onwards?_synthesize h.targets.1 mlive
  have outsaved := onwards?_synthesize h.targets.2 msaved
  rw [known] at f
  rw [told, h.extraction] at g
  rw [h.extraction, h.output] at outsaved
  refine ⟨_, _, _, f, g, outlive, outsaved, ?_, ?_⟩
  · rintro (hm | hb)
    · exact pageLines_of_mode hm _ _
    · rw [hb]
  · intro hm hb
    obtain ⟨a, b, c, resolved, unresolved⟩ := exists_lines_linksBody live.extraction
    have body (known : Bool) :
        pageBody live.extraction known = linksBody live.extraction known := by
      rw [pageBody, hm]
    refine ⟨pageHeader.toList :: a, b, c, ?_, ?_⟩
    · rw [pageLines, body, resolved, List.cons_append, List.cons_append]
    · rw [hb, pageLines, body, Option.isSome_none, unresolved, List.cons_append, List.cons_append]

/-- Two jobs on the links of a shop, one of them on pages that were saved before. -/
def liveLinksJob : Job :=
  { modestJob with extraction := .allLinks .zero }

def savedLinksJob : Job :=
  { savedJob with extraction := .allLinks .zero, project := {} }

theorem shared_synthesize_liveLinksJob :
    SameWork liveLinksJob savedLinksJob ∧
      ∃ f g output,
        function? "extract_page" liveLinksJob.synthesize = some f ∧
        function? "extract_page" savedLinksJob.synthesize = some g ∧
        onwards? outputHeader liveLinksJob.synthesize = some output ∧
        onwards? outputHeader savedLinksJob.synthesize = some output ∧
        ∃ a b c, f = a ++ b ++ resolveLine :: c ∧ g = a ++ unresolvedLine :: b ++ c := by
  have planned : liveLinksJob.plan = .fetchLive ∧ savedLinksJob.plan = .readSaved := by decide
  have same : SameWork liveLinksJob savedLinksJob := by
    refine ⟨⟨rfl, rfl⟩, ⟨rfl, rfl⟩, rfl, rfl, fun reason => ?_, fun reason => ?_⟩
    · rw [planned.1]
      exact nofun
    · rw [planned.2]
      exact nofun
  obtain ⟨f, g, output, hf, hg, hlive, hsaved, -, links⟩ := shared_synthesize same
  exact ⟨same, f, g, output, hf, hg, hlive, hsaved, links rfl rfl⟩

end Job
end PageHarvest
