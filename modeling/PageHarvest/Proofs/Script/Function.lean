import Mathlib
import PageHarvest.Proofs.Script.Guidance
import PageHarvest.Proofs.Script.Laid

namespace PageHarvest

namespace Python

def behindOnly (line : List Char) : List (List Char) → Option (List (List Char))
  | [] => none
  | first :: rest =>
    if first = line then if line ∈ rest then none else some rest
    else behindOnly line rest

def onlyBlock (opener : List Char) (program : String) : Option (List (List Char)) :=
  (behindOnly opener (Text.lines program.toList)).map (Script.blockLines opener)

theorem behindOnly_eq (line : List Char) (lines : List (List Char)) :
    behindOnly line lines = (Text.only (· == line) lines).map Prod.snd := by
  induction lines with
  | nil => rfl
  | cons first rest ih =>
    rw [behindOnly, Text.only, ih]
    by_cases he : first = line
    · by_cases hm : line ∈ rest <;> simp [he, hm]
    · simp [he]

theorem behindOnly_append {line : List Char} {before behind : List (List Char)}
    (hbefore : line ∉ before) (hbehind : line ∉ behind) :
    behindOnly line (before ++ line :: behind) = some behind := by
  have other {lines : List (List Char)} (h : line ∉ lines) : ∀ l ∈ lines, (l == line) = false :=
    fun l hl => beq_eq_false_iff_ne.2 fun he => h (he ▸ hl)
  have found : Text.only (· == line) (before ++ line :: behind) = some (line, behind) :=
    Text.only_append (beq_self_eq_true line) (other hbefore) (other hbehind)
  rw [behindOnly_eq, found, Option.map_some]

def startingOnly (word : List Char) : List (List Char) → Option (List Char × List (List Char))
  | [] => none
  | first :: rest =>
    if word.isPrefixOf first then
      if rest.any word.isPrefixOf then none else some (first, rest)
    else startingOnly word rest

theorem startingOnly_eq (word : List Char) (lines : List (List Char)) :
    startingOnly word lines = Text.only word.isPrefixOf lines := by
  induction lines with
  | nil => rfl
  | cons first rest ih => rw [startingOnly, Text.only, ih]

theorem startingOnly_append {word line : List Char} {before behind : List (List Char)}
    (hline : word <+: line) (hbefore : ∀ l ∈ before, ¬ word <+: l)
    (hbehind : ∀ l ∈ behind, ¬ word <+: l) :
    startingOnly word (before ++ line :: behind) = some (line, behind) := by
  have other {lines : List (List Char)} (h : ∀ l ∈ lines, ¬ word <+: l) :
      ∀ l ∈ lines, word.isPrefixOf l = false :=
    fun l hl => Bool.eq_false_iff.2 (mt List.isPrefixOf_iff_prefix.1 (h l hl))
  rw [startingOnly_eq]
  exact Text.only_append (List.isPrefixOf_iff_prefix.2 hline) (other hbefore) (other hbehind)

end Python

namespace Script

def differ : List Char → List Char → Bool
  | c :: s, d :: t => c != d || differ s t
  | _, _ => false

theorem append_ne_of_differ {s t : List Char} (h : differ s t = true) (u v : List Char) :
    s ++ u ≠ t ++ v := by
  induction s generalizing t with
  | nil => cases h
  | cons c s ih =>
    cases t with
    | nil => cases h
    | cons d t =>
      intro he
      rw [List.cons_append, List.cons_append, List.cons.injEq] at he
      obtain ⟨rfl, htail⟩ := he
      rw [differ, bne_self_eq_false, Bool.false_or] at h
      exact ih h htail

theorem differ_append {s t : List Char} (h : differ s t = true) (u : List Char) :
    differ (s ++ u) t = true := by
  induction s generalizing t with
  | nil => cases h
  | cons c s ih =>
    cases t with
    | nil => cases h
    | cons d t =>
      rw [differ, Bool.or_eq_true] at h
      rw [List.cons_append, differ, Bool.or_eq_true]
      exact h.imp id ih

def startsOther (word : List Char) (pieces : List Piece) : Bool :=
  pieces.head?.any fun p => differ p.chars word

/-- Whether the first line of a statement starts otherwise than a word, if it is one of code. -/
def Statement.startsOther (word : List Char) : Statement → Bool
  | .line pieces | .block pieces _ => Script.startsOther word pieces
  | .comment _ | .blank => true

theorem not_prefix_of_startsOther {word : List Char} {pieces : List Piece}
    (h : startsOther word pieces = true) : ¬ word <+: (Row.code 0 pieces).line := by
  rintro ⟨rest, he⟩
  cases pieces with
  | nil => cases h
  | cons p pieces => exact append_ne_of_differ h (pieces.flatMap Piece.chars) rest he.symm

theorem not_prefix_of_head? {word line : List Char} (hw : word.head?.any startsCode = true)
    (hl : line.head?.all startsCode = false) : ¬ word <+: line := by
  rintro ⟨rest, rfl⟩
  cases word with
  | nil => cases hw
  | cons c word =>
    rw [List.cons_append, List.head?_cons, Option.all_some] at hl
    rw [List.head?_cons, Option.any_some, hl] at hw
    cases hw

theorem not_prefix_of_depth {r : Row} (h : 0 < r.depth) {word : List Char}
    (hw : word.head?.any startsCode = true) : ¬ word <+: r.line := by
  obtain ⟨n, hn⟩ := Nat.exists_eq_add_of_lt h
  have hhead : r.line.head? = some ' ' := by
    simp [Row.line, Writer.indentation, hn, Nat.mul_add, List.replicate_succ]
  apply not_prefix_of_head? hw
  rw [hhead]
  rfl

theorem not_prefix_nil {word : List Char} (hw : word.head?.any startsCode = true) :
    ¬ word <+: [] := by
  intro h
  rw [List.prefix_nil.1 h] at hw
  cases hw

theorem not_prefix_of_mem_rows {tabs : Bool} {s : Statement} (ht : s.isTidy = true)
    (hl : s.isLaid tabs true = true) {word : List Char} (hs : s.startsOther word = true)
    (hw : word.head?.any startsCode = true) : ∀ r ∈ s.rows 0, ¬ word <+: r.line := by
  cases s with
  | line pieces =>
    intro r hr
    rw [List.mem_singleton.1 hr]
    exact not_prefix_of_startsOther hs
  | comment text =>
    intro r hr
    rw [Statement.rows, commentRows_of_isTidy ht, List.mem_singleton] at hr
    obtain ⟨said, hsaid, _⟩ := content_comment 0 text.toList
    have hhead : r.line.head? = some '#' := by
      simp [hr, Row.line, Row.depth, Writer.indentation, hsaid]
    apply not_prefix_of_head? hw
    rw [hhead]
    rfl
  | blank =>
    intro r hr
    rw [List.mem_singleton.1 hr]
    exact not_prefix_nil hw
  | block header body =>
    have first := not_prefix_of_startsOther hs
    have hpass : ¬ word <+: (Row.code 1 [.code "pass"]).line :=
      not_prefix_of_depth (r := .code 1 _) (Nat.succ_pos 0) hw
    simp only [Statement.isTidy, Bool.and_eq_true] at ht
    simp only [Statement.isLaid, Bool.and_eq_true] at hl
    cases body with
    | nil => simp [Statement.rows, first, hpass]
    | cons s body =>
      have inside : LaidRows tabs 1 (rowsAll 1 (s :: body)) :=
        laidRows_rowsAll ht.2 hl.2 (absurd · Bool.false_ne_true)
      rw [Statement.rows, List.forall_mem_cons]
      exact ⟨first, fun r hr => not_prefix_of_depth (inside.deep r hr) hw⟩

theorem not_prefix_of_mem_rowsAll {tabs : Bool} {script : List Statement}
    (ht : allTidy script = true) (hl : allLaid tabs true script = true) {word : List Char}
    (hs : script.all (Statement.startsOther word) = true)
    (hw : word.head?.any startsCode = true) : ∀ r ∈ rowsAll 0 script, ¬ word <+: r.line := by
  intro r hr
  obtain ⟨s, hmem, hrow⟩ := mem_rowsAll.1 hr
  have other := List.all_eq_true.1 hs s hmem
  exact not_prefix_of_mem_rows (allTidy_iff.1 ht s hmem) (allLaid_iff.1 hl s hmem) other hw r hrow

theorem rowsAll_append (depth : Nat) (a b : List Statement) :
    rowsAll depth (a ++ b) = rowsAll depth a ++ rowsAll depth b := by
  induction a with
  | nil => rfl
  | cons s a ih => rw [List.cons_append, rowsAll, rowsAll, ih, List.append_assoc]

theorem rows_block {header : List Piece} {body : List Statement} (h : body ≠ []) (depth : Nat) :
    (Statement.block header body).rows depth = .code depth header :: rowsAll (depth + 1) body := by
  obtain ⟨s, body, rfl⟩ := List.exists_cons_of_ne_nil h
  rw [Statement.rows]

/-- The lines behind the first one of a block that is not empty, to the end of the script. -/
def linesBehind (body behind : List Statement) : List (List Char) :=
  (rowsAll 1 body ++ settledBehind (rowsAll 0 behind)).map Row.line

/-- What a block between other statements is in the text. -/
structure StandsIn (header : List Piece) (body behind : List Statement) (word : List Char)
    (lines : List (List Char)) : Prop where
  starts : word <+: lineChars header
  found : ∃ earlier, lines = earlier ++ lineChars header :: linesBehind body behind ∧
    ∀ l ∈ earlier, ¬ word <+: l
  later : ∀ l ∈ linesBehind body behind, ¬ word <+: l
  deeper : ∀ r ∈ rowsAll 1 body, indentOf (lineChars header) < indentOf r.line

theorem isGap_of_mem_block {tabs margin : Bool} {header : List Piece} {body : List Statement}
    (ht : (Statement.block header body).isTidy = true)
    (hl : (Statement.block header body).isLaid tabs margin = true) {depth : Nat} :
    ∀ r ∈ Row.code depth header :: rowsAll (depth + 1) body, r.isGap = false := by
  simp only [Statement.isTidy, Bool.and_eq_true] at ht
  simp only [Statement.isLaid, Bool.and_eq_true] at hl
  have inside : LaidRows tabs (depth + 1) (rowsAll (depth + 1) body) :=
    laidRows_rowsAll ht.2 hl.2 (absurd · Bool.false_ne_true)
  refine List.forall_mem_cons.2 ⟨rfl, fun r hr => ?_⟩
  by_contra hg
  cases inside.gaps r hr (by simpa using hg)

/-- A block between statements that start otherwise stands in the text with all its lines. -/
theorem standsIn_render {tabs : Bool} {before behind body : List Statement}
    {header : List Piece} {word : List Char}
    (ht : allTidy (before ++ .block header body :: behind) = true)
    (hl : allLaid tabs true (before ++ .block header body :: behind) = true)
    (hbody : body ≠ []) (hheader : word <+: lineChars header)
    (hw : word.head?.any startsCode = true)
    (hbefore : before.all (Statement.startsOther word) = true)
    (hbehind : behind.all (Statement.startsOther word) = true) :
    StandsIn header body behind word
      (Text.lines (render (before ++ .block header body :: behind)).toList) := by
  have hrows : rowsAll 0 (before ++ .block header body :: behind) =
      rowsAll 0 before ++ .code 0 header :: rowsAll 1 body ++ rowsAll 0 behind := by
    rw [rowsAll_append, rowsAll, rows_block hbody, List.append_assoc]
  have lines := lines_render (isTidy_of_mem_rowsAll ht) ⟨.code 0 header, by simp [hrows], rfl⟩
  rw [allTidy_append, allTidy] at ht
  rw [allLaid_append, allLaid] at hl
  simp only [Bool.and_eq_true] at ht hl
  obtain ⟨tbefore, tblock, tbehind⟩ := ht
  obtain ⟨lbefore, lblock, lbehind⟩ := hl
  have opener : (Row.code 0 header).isLaid tabs = true := isLaid_header lblock 0
  have whole : ∀ r ∈ Row.code 0 header :: rowsAll 1 body, r.isGap = false :=
    isGap_of_mem_block tblock lblock
  simp only [Statement.isTidy, Bool.and_eq_true] at tblock
  simp only [Statement.isLaid, Bool.and_eq_true] at lblock
  have inside : LaidRows tabs 1 (rowsAll 1 body) :=
    laidRows_rowsAll tblock.2 lblock.2 (absurd · Bool.false_ne_true)
  refine ⟨hheader, ⟨((rowsAll 0 before).foldl settle []).map Row.line, ?_, ?_⟩, ?_, ?_⟩
  · have margin : (Row.code 0 header).line = lineChars header := rfl
    rw [lines, hrows, settled_append (List.cons_ne_nil _ _) whole, linesBehind, List.append_assoc,
      List.map_append, List.cons_append, List.map_cons, margin]
  · intro l hm
    obtain ⟨r, hr, rfl⟩ := List.mem_map.1 hm
    have mem := (mem_of_mem_foldl_settle hr).resolve_left List.not_mem_nil
    exact not_prefix_of_mem_rowsAll tbefore lbefore hbefore hw r mem
  · intro l hm
    obtain ⟨r, hr, rfl⟩ := List.mem_map.1 hm
    rcases List.mem_append.1 hr with hr | hr
    · exact not_prefix_of_depth (inside.deep r hr) hw
    · have mem := mem_of_mem_settledBehind hr
      exact not_prefix_of_mem_rowsAll tbehind lbehind hbehind hw r mem
  · intro r hr
    have hd := inside.deep r hr
    have margin : indentOf (lineChars header) = 4 * 0 := Row.indentOf_line opener
    rw [margin, Row.indentOf_line (inside.laid r hr)]
    omega

namespace StandsIn

variable {header : List Piece} {body behind : List Statement} {word : List Char}
  {lines : List (List Char)}

theorem startingOnly_eq (h : StandsIn header body behind word lines) :
    Python.startingOnly word lines = some (lineChars header, linesBehind body behind) := by
  obtain ⟨earlier, rfl, hearlier⟩ := h.found
  exact Python.startingOnly_append h.starts hearlier h.later

theorem behindOnly_eq (h : StandsIn header body behind word lines) :
    Python.behindOnly (lineChars header) lines = some (linesBehind body behind) := by
  obtain ⟨earlier, rfl, hearlier⟩ := h.found
  exact Python.behindOnly_append (fun hm => hearlier _ hm h.starts) fun hm => h.later _ hm h.starts

theorem blockLines_eq (h : StandsIn header body (.blank :: behind) word lines) :
    blockLines (lineChars header) (linesBehind body (.blank :: behind)) =
      (rowsAll 1 body).map Row.line := by
  rw [linesBehind, List.map_append]
  apply blockLines_append
  · intro line hline
    obtain ⟨r, hr, rfl⟩ := List.mem_map.1 hline
    exact h.deeper r hr
  · intro line hline
    have blank : rowsAll 0 (.blank :: behind) = .gap :: rowsAll 0 behind := rfl
    rw [List.head?_map, blank] at hline
    obtain ⟨r, hr, rfl⟩ := Option.mem_map.1 hline
    rw [head?_settledBehind hr]
    exact Nat.zero_le _

end StandsIn

def pageHeader : String := "def extract_page(soup, page_url):"

def functionWord : List Char := ['d', 'e', 'f', ' ', 'e']

def pageBody (e : Extraction) (baseKnown : Bool) : List Statement :=
  match e.mode with
  | .structured => structuredBody e
  | .simple => simpleBody e.simpleField
  | .links => linksBody e baseKnown

theorem lineChars_code (text : String) : lineChars [.code text] = text.toList :=
  List.append_nil _

theorem extractPage_eq (e : Extraction) (baseKnown : Bool) :
    extractPage e baseKnown = .block [.code pageHeader] (pageBody e baseKnown) :=
  rfl

theorem pageBody_ne_nil (e : Extraction) (baseKnown : Bool) : pageBody e baseKnown ≠ [] := by
  unfold pageBody
  cases e.mode <;> simp [structuredBody, simpleBody, linksBody]

@[simp] theorem startsOther_cons (word : List Char) (p : Piece) (rest : List Piece) :
    startsOther word (p :: rest) = differ p.chars word := by
  rw [startsOther, List.head?_cons, Option.any_some]

@[simp] theorem differ_code_literal {text : String} {l word : List Char}
    (h : text = String.ofList l) (hd : differ l word = true) :
    differ (Piece.code text).chars word = true := by
  rw [Piece.chars, Text.toList_of_eq h, hd]

theorem differ_code_append {a : String} {word : List Char}
    (h : differ (Piece.code a).chars word = true) (b : String) :
    differ (Piece.code (a ++ b)).chars word = true := by
  rw [Piece.chars, String.toList_append]
  exact differ_append h b.toList

@[simp] theorem startsOther_line (word : List Char) (pieces : List Piece) :
    (Statement.line pieces).startsOther word = startsOther word pieces := by
  rw [Statement.startsOther]

@[simp] theorem startsOther_block (word : List Char) (header : List Piece)
    (body : List Statement) :
    (Statement.block header body).startsOther word = startsOther word header := by
  rw [Statement.startsOther]

@[simp] theorem startsOther_comment (word : List Char) (text : String) :
    (Statement.comment text).startsOther word = true := by
  rw [Statement.startsOther]

@[simp] theorem startsOther_blank (word : List Char) :
    Statement.blank.startsOther word = true := by
  rw [Statement.startsOther]

/-- The start of the line that opens the output, with which no other line of a script starts. -/
def outputWord : List Char := ['i', 'f', ' ', 'n', 'o', 't', ' ', 'a']

section words

variable {word : List Char} (hw : word = functionWord ∨ word = outputWord)

include hw

theorem startsOther_importStatements (modules further : List String)
    (h : ∀ line ∈ further, (Statement.code line).startsOther word = true) :
    (importStatements modules further).all (Statement.startsOther word) = true := by
  have standard (m : String) : (Statement.code ("import " ++ m)).startsOther word = true := by
    have start : differ (Piece.code "import ").chars word = true := by
      rcases hw with rfl | rfl <;> exact differ_code_literal rfl rfl
    simp [Statement.code, differ_code_append start]
  rw [importStatements, List.all_append, List.all_append, List.all_map, List.all_map]
  simp only [Bool.and_eq_true, List.all_eq_true]
  exact ⟨⟨fun m _ => standard m, h⟩, by simp⟩

theorem startsOther_packageImports (j : Job) (live : Bool) :
    ∀ line ∈ packageImports j live, (Statement.code line).startsOther word = true := by
  unfold packageImports
  rcases hw with rfl | rfl <;> cases live <;> split_ifs <;>
    simp (disch := first | exact rfl | decide) [Statement.code]

theorem startsOther_folderConstants (p : Project) :
    (folderConstants p).all (Statement.startsOther word) = true := by
  rcases hw with rfl | rfl <;>
    simp (disch := first | exact rfl | decide) [folderConstants, Statement.assign]

theorem startsOther_networkConstants (n : Network) :
    (networkConstants n).all (Statement.startsOther word) = true := by
  have delay : differ (Piece.code ("REQUEST_DELAY = " ++ n.delaySeconds)).chars word = true := by
    rcases hw with rfl | rfl <;> exact differ_code_append (differ_code_literal rfl rfl) _
  unfold networkConstants
  rcases hw with rfl | rfl <;> split_ifs <;>
    simp (disch := first | exact rfl | decide) [Statement.code, delay]

theorem startsOther_pageConstants (j : Job) :
    (pageConstants j false).all (Statement.startsOther word) = true := by
  have count (n : Nat) : differ (Piece.code ("PAGE_COUNT = " ++ n.repr)).chars word = true := by
    rcases hw with rfl | rfl <;> exact differ_code_append (differ_code_literal rfl rfl) _
  have first (n : Nat) : differ (Piece.code ("FIRST_PAGE = " ++ n.repr)).chars word = true := by
    rcases hw with rfl | rfl <;> exact differ_code_append (differ_code_literal rfl rfl) _
  unfold pageConstants
  dsimp only
  rcases hw with rfl | rfl <;> split_ifs <;>
    simp (disch := first | exact rfl | decide) [Statement.code, Statement.assign, count, first]

theorem startsOther_pageUrls (p : Pagination) :
    (pageUrls p).all (Statement.startsOther word) = true := by
  unfold pageUrls
  rcases hw with rfl | rfl <;> split_ifs <;>
    simp (disch := first | exact rfl | decide) [Statement.code]

theorem startsOther_baseConstant (base : Option String) :
    (baseConstant base).all (Statement.startsOther word) = true := by
  rcases hw with rfl | rfl <;> cases base <;>
    simp (disch := first | exact rfl | decide) [baseConstant, Statement.assign]

end words

/-- What stands in front of the function in a script, and what stands between it and the output. -/
structure Frame where
  before : List Statement
  between : List Statement

namespace Frame

/-- No line of the margin around the function and the output starts as they do. -/
def IsOther (f : Frame) : Prop :=
  ∀ word, word = functionWord ∨ word = outputWord →
    f.before.all (Statement.startsOther word) = true ∧
      f.between.all (Statement.startsOther word) = true

def around (f : Frame) (e : Extraction) (known : Bool) (format : OutputFormat) :
    List Statement :=
  f.before ++ extractPage e known :: .blank :: (f.between ++ outputStatements e format)

def fetching (j : Job) : Frame where
  before :=
    importStatements (extractModules j true) (packageImports j true) ++
    folderConstants j.project ++ networkConstants j.network ++
    [.assign "USER_AGENT" j.network.browserProfile.userAgent] ++ pageConstants j false ++ [.blank]
  between :=
    [ fetchFunction j.network.hasProxies, .blank, .code "session = requests.Session()",
      .code "all_data = []" ] ++ pageUrls j.pagination ++ [fetchLoop, .blank]

def reading (j : Job) : Frame where
  before :=
    importStatements (extractModules j false) (packageImports j false) ++
    folderConstants j.project ++ baseConstant j.project.baseUrl? ++ [.blank]
  between :=
    [ pageOrder, .blank, .code "all_data = []",
      .line [
        .code "page_files = sorted(glob.glob(os.path.join(PAGES_FOLDER, ", .quoted "*.html",
        .code ")), key=page_order)"] ] ++
    savedLoop (if j.project.baseUrl?.isSome then "BASE_URL" else "None") ++ [.blank]

theorem fetchScript_eq (j : Job) :
    fetchScript j = (fetching j).around j.extraction true j.output := by
  simp only [fetchScript, around, fetching, List.append_assoc, List.cons_append, List.nil_append]

theorem savedPagesScript_eq (j : Job) :
    savedPagesScript j =
      (reading j).around j.extraction j.project.baseUrl?.isSome j.output := by
  simp only [savedPagesScript, around, reading, List.append_assoc, List.cons_append,
    List.nil_append]

theorem isOther_fetching (j : Job) : (fetching j).IsOther := by
  intro word hw
  have imports := startsOther_importStatements hw (extractModules j true) _
    (startsOther_packageImports hw j true)
  have constants := startsOther_pageConstants hw j
  have folder := startsOther_folderConstants hw j.project
  have network := startsOther_networkConstants hw j.network
  have urls := startsOther_pageUrls hw j.pagination
  constructor
  · rcases hw with rfl | rfl <;>
      simp (disch := first | exact rfl | decide)
        [fetching, imports, folder, network, constants, Statement.assign]
  · rcases hw with rfl | rfl <;>
      simp (disch := first | exact rfl | decide)
        [fetching, urls, fetchFunction, fetchLoop, Statement.under, Statement.code]

theorem isOther_reading (j : Job) : (reading j).IsOther := by
  intro word hw
  have imports := startsOther_importStatements hw (extractModules j false) _
    (startsOther_packageImports hw j false)
  have folder := startsOther_folderConstants hw j.project
  have base := startsOther_baseConstant hw j.project.baseUrl?
  constructor
  · rcases hw with rfl | rfl <;>
      simp (disch := first | exact rfl | decide) [reading, imports, folder, base]
  · rcases hw with rfl | rfl <;>
      simp (disch := first | exact rfl | decide)
        [reading, pageOrder, savedLoop, Statement.under, Statement.code]

end Frame

theorem startsOther_outputStatements (e : Extraction) (format : OutputFormat) :
    (outputStatements e format).all (Statement.startsOther functionWord) = true := by
  simp (disch := first | exact rfl | decide) [outputStatements, Statement.under]

end Script

namespace Job

open Script

variable {j : Job}

/-- A script that extracts records is the function and the output in a frame. -/
theorem exists_frame (ht : j.target = .staticFetch) (hm : j.missingInput? = none) :
    ∃ f : Frame, f.IsOther ∧
      j.statements = f.around j.extraction (baseKnown j) j.output := by
  have header {f : Frame} (hf : f.IsOther) :
      Frame.IsOther { f with before := j.header ++ f.before } := by
    intro word hw
    obtain ⟨before, between⟩ := hf word hw
    exact ⟨by simp [Job.header, before], between⟩
  simp only [statements, plan, hm, ht]
  unfold baseKnown
  cases j.origin with
  | liveUrl =>
    refine ⟨_, header (Frame.isOther_fetching j), ?_⟩
    simp only [Frame.fetchScript_eq, Frame.around, List.append_assoc]
  | localFiles =>
    refine ⟨_, header (Frame.isOther_reading j), ?_⟩
    simp only [Frame.savedPagesScript_eq, Frame.around, List.append_assoc]

theorem exists_standsIn_function (ht : j.target = .staticFetch) (hm : j.missingInput? = none) :
    ∃ behind, StandsIn [.code pageHeader] (pageBody j.extraction (baseKnown j)) (.blank :: behind)
      functionWord (Text.lines j.synthesize.toList) := by
  obtain ⟨f, other, he⟩ := exists_frame ht hm
  obtain ⟨hbefore, hbetween⟩ := other functionWord (.inl rfl)
  have tidy := j.allTidy_statements
  have laid : allLaid true true j.statements = true :=
    allLaid_statements fun _ _ _ => Bool.or_true _
  rw [he, Frame.around, extractPage_eq] at tidy laid
  refine ⟨f.between ++ outputStatements j.extraction j.output, ?_⟩
  rw [synthesize, he, Frame.around, extractPage_eq]
  apply standsIn_render tidy laid (pageBody_ne_nil _ _) _ rfl hbefore
  · rw [List.all_cons, startsOther_blank, List.all_append, hbetween, startsOther_outputStatements]
    rfl
  · rw [lineChars_code, functionWord, pageHeader]
    exact ⟨"xtract_page(soup, page_url):".toList, by decide⟩

/-- A script that extracts records defines its function once, and this is its body. -/
theorem onlyBlock_synthesize (ht : j.target = .staticFetch) (hm : j.missingInput? = none) :
    Python.onlyBlock pageHeader.toList j.synthesize =
      some ((rowsAll 1 (pageBody j.extraction (baseKnown j))).map Row.line) := by
  obtain ⟨behind, stands⟩ := exists_standsIn_function ht hm
  rw [Python.onlyBlock, ← lineChars_code, stands.behindOnly_eq, Option.map_some,
    stands.blockLines_eq]

end Job
end PageHarvest
