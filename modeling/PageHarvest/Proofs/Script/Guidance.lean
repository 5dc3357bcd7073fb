import PageHarvest.Proofs.Job.Accepted
import PageHarvest.Proofs.Script.Lines
import PageHarvest.Proofs.Script.Skeleton
import PageHarvest.Script.Review

namespace PageHarvest

namespace Job

open Script

/-- Validation asks for the page inputs at least where the script takes them. -/
theorem missingInput?_of_validate {j : Job} (h : j.validate = .ok ()) :
    j.missingInput? =
      if j.target.isBrowser then none else j.extraction.lack?.map MissingInput.extraction := by
  obtain ⟨hstart, hpages, _⟩ := validate_eq_ok h
  have start : (j.needsStartUrl && j.project.startUrl?.isNone) = false := by
    cases hn : j.needsStartUrl with
    | false => rfl
    | true => exact startUrl_of_validate hstart hn
  have selector : (j.target.isBrowser && j.pagination.usesNextButton &&
      Text.allBlank j.pagination.nextSelector) = false := by
    cases hn : j.pagination.usesNextButton with
    | false => rw [Bool.and_false, Bool.false_and]
    | true => rw [Pagination.nextSelector_of_validate hpages hn, Bool.and_false]
  have pattern : (!j.readsFiles && j.pagination.usesUrlPattern &&
      Text.allBlank j.pagination.urlPrefix) = false := by
    cases hn : j.pagination.usesUrlPattern with
    | false => rw [Bool.and_false, Bool.false_and]
    | true => rw [Pagination.urlPrefix_of_validate hpages hn, Bool.and_false]
  unfold missingInput?
  simp only [start, selector, pattern, Bool.false_eq_true, if_false]
  split_ifs
  · rfl
  · cases j.extraction.lack? <;> rfl

theorem plan_eq_guidance_iff {j : Job} {reason : MissingInput} :
    j.plan = .guidance reason ↔ j.missingInput? = some reason := by
  unfold plan
  cases hm : j.missingInput? with
  | some reason' => simp
  | none =>
    dsimp only
    split <;> simp

theorem missingInput?_of_planned {j : Job} (h : ∀ reason, j.plan ≠ .guidance reason) :
    j.missingInput? = none := by
  cases hm : j.missingInput? with
  | none => rfl
  | some reason => exact (h reason (plan_eq_guidance_iff.2 hm)).elim

theorem isBrowser_eq_false_iff {b : Backend} : b.isBrowser = false ↔ b = .staticFetch := by
  cases b <;> simp [Backend.isBrowser]

end Job

namespace Script

def IsRemark (script : String) : Prop :=
  ∀ line ∈ Text.lines script.toList, isBlankLine line = false → line.head? = some '#'

def Row.isRemark : Row → Bool
  | .gap => true
  | .comment depth _ => depth == 0
  | .code _ _ => false

theorem Row.head?_line {r : Row} (h : r.isRemark = true) (hg : r.isGap = false) :
    r.line.head? = some '#' := by
  cases r with
  | gap => cases hg
  | comment depth text =>
    obtain rfl := eq_of_beq h
    obtain ⟨said, he, _⟩ := content_comment 0 text
    simp [line, he, Row.depth, Writer.indentation]
  | code => cases h

theorem Row.text_infix_content (depth : Nat) (text : List Char) :
    text <:+: (Row.comment depth text).content := by
  cases text with
  | nil => exact List.nil_infix
  | cons c text => exact ⟨['#', ' '], [], by simp [content]⟩

theorem code_mem_importStatements {modules further : List String} {m : String}
    (h : m ∈ standardModules) (hm : modules.contains m = true) :
    .code ("import " ++ m) ∈ importStatements modules further := by
  rw [importStatements, List.append_assoc, List.mem_append]
  exact .inl (List.mem_map.2 ⟨m, List.mem_filter.2 ⟨h, hm⟩, rfl⟩)

end Script

namespace Job

open Script

variable (j : Job)

theorem lines_synthesize :
    Text.lines j.synthesize.toList = (settled (rowsAll 0 j.statements)).map Row.line :=
  lines_render (isTidy_of_mem_rowsAll j.allTidy_statements) j.exists_row_statements

variable {j}

theorem line_mem_synthesize {r : Row} (h : r ∈ rowsAll 0 j.statements) (hg : r.isGap = false) :
    r.line ∈ Text.lines j.synthesize.toList := by
  rw [lines_synthesize]
  exact List.mem_map_of_mem (mem_settled h hg)

/-- A script that is no guidance uses the file system, which it imports at the margin. -/
theorem import_mem_statements (h : j.missingInput? = none) :
    .code ("import " ++ "os") ∈ j.statements := by
  have found (modules further : List String) (rest : List Statement)
      (hm : modules.contains "os" = true) :
      .code ("import " ++ "os") ∈ importStatements modules further ++ rest :=
    List.mem_append_left rest (code_mem_importStatements (by decide) hm)
  apply List.mem_append_right
  cases hp : j.plan with
  | guidance reason =>
    rw [plan_eq_guidance_iff.1 hp] at h
    cases h
  | capture engine =>
    simp only [captureScript, List.append_assoc]
    exact found _ _ _ rfl
  | fetchLive =>
    simp only [fetchScript, List.append_assoc]
    exact found _ _ _ rfl
  | readSaved =>
    simp only [savedPagesScript, List.append_assoc]
    exact found _ _ _ rfl

theorem statements_of_missing {reason : MissingInput} (h : j.missingInput? = some reason) :
    j.statements = j.header ++ guidance reason := by
  rw [statements, plan_eq_guidance_iff.2 h]

theorem mem_rows_of_missing {reason : MissingInput} (h : j.missingInput? = some reason) {r : Row}
    (hr : r ∈ rowsAll 0 j.statements) : r.isRemark = true := by
  have hs : ∀ s ∈ j.statements, s = .blank ∨ ∃ text, s = .comment text := by
    rw [statements_of_missing h]
    simp [header, guidance]
  obtain ⟨s, hm, hrow⟩ := mem_rowsAll.1 hr
  rcases hs s hm with rfl | ⟨text, rfl⟩
  · rw [List.mem_singleton.1 hrow]
    rfl
  · obtain ⟨part, _, rfl⟩ := List.mem_map.1 hrow
    rfl

theorem isRemark_synthesize_iff : IsRemark j.synthesize ↔ j.missingInput?.isSome = true := by
  constructor
  · intro h
    by_contra hn
    rw [Option.not_isSome_iff_eq_none] at hn
    have hr : Row.code 0 [.code ("import " ++ "os")] ∈ rowsAll 0 j.statements :=
      mem_rowsAll.2 ⟨_, import_mem_statements hn, List.mem_singleton_self _⟩
    have hhead := h _ (line_mem_synthesize hr rfl) (by decide)
    revert hhead
    decide
  · intro h line hl hb
    obtain ⟨reason, hreason⟩ := Option.isSome_iff_exists.1 h
    rw [lines_synthesize] at hl
    obtain ⟨r, hr, rfl⟩ := List.mem_map.1 hl
    have hrem := mem_rows_of_missing hreason (mem_of_mem_settled hr)
    cases hg : r.isGap with
    | false => exact Row.head?_line hrem hg
    | true =>
      rw [Row.eq_gap hg] at hb
      cases hb

theorem comment_infix_synthesize {text : String} (h : .comment text ∈ j.statements) :
    text.toList <:+: j.synthesize.toList := by
  have tidy : ∀ r ∈ rowsAll 0 j.statements, r.isTidy = true :=
    isTidy_of_mem_rowsAll j.allTidy_statements
  have hrow : Row.comment 0 text.toList ∈ rowsAll 0 j.statements := by
    refine mem_rowsAll.2 ⟨_, h, ?_⟩
    rw [Statement.rows, commentRows_of_isTidy (allTidy_iff.1 j.allTidy_statements _ h)]
    exact List.mem_singleton_self _
  have hmem := List.mem_map_of_mem (f := Row.chars) (mem_settled hrow rfl)
  have hchars : (Row.comment 0 text.toList).content <:+: (Row.comment 0 text.toList).chars :=
    ⟨_, _, rfl⟩
  rw [synthesize, render_eq_of_isTidy tidy j.exists_row_statements, List.flatMap_def]
  exact ((Row.text_infix_content 0 _).trans hchars).trans (List.infix_of_mem_flatten hmem)

theorem synthesize_contains_notice {reason : MissingInput} (h : j.missingInput? = some reason) :
    Text.contains guidanceNotice.toList j.synthesize.toList = true ∧
      Text.contains reason.message.toList j.synthesize.toList = true := by
  have hmem : .comment (guidanceNotice ++ ": " ++ reason.message ++ ".") ∈ j.statements := by
    rw [statements_of_missing h]
    exact List.mem_append_right _ List.mem_cons_self
  have htext := comment_infix_synthesize hmem
  simp only [String.toList_append] at htext
  rw [Text.contains_iff, Text.contains_iff]
  constructor
  · refine List.IsInfix.trans ?_ htext
    simp only [List.append_assoc]
    exact (List.prefix_append _ _).isInfix
  · exact List.IsInfix.trans ⟨_, _, rfl⟩ htext

/-- A guidance holds none of the texts of its job. -/
theorem synthesize_eq_of_missing {k : Job} (ht : k.target = j.target) (ho : k.origin = j.origin)
    (hm : k.extraction.mode = j.extraction.mode) {reason reason' : MissingInput}
    (hj : j.missingInput? = some reason) (hk : k.missingInput? = some reason')
    (he : reason'.message = reason.message) : k.synthesize = j.synthesize := by
  rw [synthesize, synthesize, statements_of_missing hj, statements_of_missing hk]
  simp only [header, guidance, ht, ho, hm, he]

/--
Validation and synthesis agree on what is missing. An accepted job gets a guidance just if its
pages are fetched and its extraction lacks something, never for the sake of its pages. Any job
gets a script of comments just if an input is missing; it tells which one, and has nothing else of
what the user entered.
-/
theorem guidance_iff_lack (j : Job) :
    (j.validate = .ok () →
      ((∃ reason, j.plan = .guidance reason) ↔
        j.target = .staticFetch ∧ ∃ lack, j.extraction.lack? = some lack) ∧
      j.plan ≠ .guidance .startUrl ∧ j.plan ≠ .guidance .nextSelector ∧
      j.plan ≠ .guidance .urlPrefix) ∧
    (IsRemark j.synthesize ↔ ∃ reason, j.missingInput? = some reason) ∧
    ∀ reason, j.missingInput? = some reason →
      Text.contains guidanceNotice.toList j.synthesize.toList = true ∧
      Text.contains reason.message.toList j.synthesize.toList = true ∧
      ∀ k : Job, k.target = j.target → k.origin = j.origin →
        k.extraction.mode = j.extraction.mode →
        k.missingInput?.map MissingInput.message = some reason.message →
        k.synthesize = j.synthesize := by
  refine ⟨fun h => ?_, ?_, fun reason h => ?_⟩
  · simp only [ne_eq, plan_eq_guidance_iff, missingInput?_of_validate h,
      ← isBrowser_eq_false_iff]
    cases j.target.isBrowser with
    | true => simp
    | false => simp
  · rw [isRemark_synthesize_iff, Option.isSome_iff_exists]
  · obtain ⟨hnotice, hmessage⟩ := synthesize_contains_notice h
    refine ⟨hnotice, hmessage, fun k ht ho hm hk => ?_⟩
    obtain ⟨reason', hr, he⟩ := Option.map_eq_some_iff.1 hk
    exact synthesize_eq_of_missing ht ho hm h hr he

/-- An accepted job that does not say yet what its records are in. -/
def untaggedJob : Job where
  pagination := .pattern "https://shop.test/list/" "" 1 3
  extraction := .initial .zero

theorem guidance_iff_lack_untaggedJob :
    untaggedJob.validate = .ok () ∧ (∃ reason, untaggedJob.plan = .guidance reason) ∧
      IsRemark untaggedJob.synthesize ∧
      { untaggedJob with project := { folder := "\n\"\"\"" } }.synthesize =
        untaggedJob.synthesize := by
  have accepted : untaggedJob.validate = .ok () := by decide
  have missing : untaggedJob.missingInput? = some (.extraction .containerTag) := by decide
  obtain ⟨hplan, hremark, htexts⟩ := guidance_iff_lack untaggedJob
  have planned := (hplan accepted).1.2 ⟨rfl, .containerTag, rfl⟩
  refine ⟨accepted, planned, hremark.2 ⟨_, missing⟩, ?_⟩
  exact (htexts _ missing).2.2 _ rfl rfl rfl (by decide)

end Job
end PageHarvest
