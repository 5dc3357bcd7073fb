import PageHarvest.Proofs.Script.Gaps
import PageHarvest.Proofs.Script.Nesting

namespace PageHarvest.Script

/-- The depth of a line, four spaces for each level, and what stands behind the spaces. -/
def placed (line : List Char) : Nat × List Char :=
  ((line.takeWhile (· == ' ')).length / 4, line.dropWhile (· == ' '))

/--
The lines that are not empty. A line is all that stands between two line feeds, a carriage return at
its end included.
-/
def placedLines (script : String) : List (Nat × List Char) :=
  (Text.runs (· == '\n') script.toList).map placed

/-- The nesting that the indentation of a text shows. -/
def recover (script : String) : List Nest :=
  rebuild (placedLines script)

/-- No empty line is the first one or stands behind another. -/
structure WellSpaced (text : List Char) : Prop where
  starts : ¬['\n'] <+: text
  apart : ¬['\n', '\n', '\n'] <:+: text

/-- The text ends with one line feed and not with two. -/
def EndsOnce (text : List Char) : Prop :=
  ∃ front, text = front ++ ['\n'] ∧ front.getLast? ≠ some '\n'

namespace Row

theorem Solid.lineFeed_not_mem_line {r : Row} (h : r.Solid) : '\n' ∉ r.line := by
  rw [line, List.mem_append]
  rintro (hm | hm)
  · cases List.eq_of_mem_replicate hm
  · exact h.1 hm

theorem Solid.isGap_eq {r : Row} (h : r.Solid) : r.isGap = r.line.isEmpty := by
  cases hg : r.isGap with
  | true =>
    rw [eq_gap hg]
    rfl
  | false =>
    obtain ⟨front, c, he, _⟩ := h.content_eq hg
    simp [line, he]

theorem placed_line {r : Row} (h : isWholeLine r.content = true) :
    Script.placed r.line = r.placed := by
  have run : Text.WholeRun (· == ' ') (Writer.indentation r.depth) r.content := by
    constructor
    · intro c hc
      rw [List.eq_of_mem_replicate hc]
      rfl
    · intro c hc
      simp only [isWholeLine, Bool.and_eq_true, bne_iff_ne] at h
      rw [beq_eq_false_iff_ne]
      rintro rfl
      exact h.2 hc
  rw [Script.placed, line, run.takeWhile_eq, run.dropWhile_eq, Writer.indentation,
    List.length_replicate, Nat.mul_div_cancel_left _ (by decide), placed]

end Row

section texts

variable {rows : List Row}

/-- The lines of a text of rows, and nothing behind the last line feed. -/
theorem fields_flatMap_chars (hs : ∀ r ∈ rows, r.Solid) :
    Text.fields (· == '\n') (rows.flatMap Row.chars) = rows.map Row.line ++ [[]] := by
  rw [Row.flatMap_chars, Text.fields_flatMap_line]
  intro l hl
  obtain ⟨r, hr, rfl⟩ := List.mem_map.1 hl
  exact (hs r hr).lineFeed_not_mem_line

theorem runs_flatMap_chars (hs : ∀ r ∈ rows, r.Solid) :
    Text.runs (· == '\n') (rows.flatMap Row.chars) = (rows.filter (!·.isGap)).map Row.line := by
  have shown : rows.filter (fun r => !r.line.isEmpty) = rows.filter (!·.isGap) := by
    apply List.filter_congr
    intro r hr
    rw [(hs r hr).isGap_eq]
  rw [Text.runs, fields_flatMap_chars hs, List.filter_append, List.filter_map, Function.comp_def,
    shown]
  exact List.append_nil _

end texts

theorem solid_of_isWholeLine {r : Row} (h : isWholeLine r.content = true) : r.Solid := by
  simp only [isWholeLine, Bool.and_eq_true, Bool.not_eq_true', List.isEmpty_eq_false_iff] at h
  refine ⟨?_, fun he => absurd he h.1.1⟩
  simpa using h.1.2

theorem isWholeLine_commentLine {part : List Char} (h : '\n' ∉ part) :
    isWholeLine (commentLine part) = true := by
  cases part with
  | nil => rfl
  | cons c part => simpa [isWholeLine, commentLine] using h

theorem lineFeed_not_mem_of_mem_commentTexts {text part : List Char}
    (h : part ∈ commentTexts text) : '\n' ∉ part := by
  unfold commentTexts at h
  split_ifs at h
  · rw [List.mem_singleton.1 h]
    exact List.not_mem_nil
  · exact Text.lineFeed_not_mem_of_mem_lines h

mutual

theorem isWholeLine_of_mem_rows {s : Statement} (h : s.isProper = true) {depth : Nat} {r : Row}
    (hr : r ∈ s.rows depth) (hg : r.isGap = false) : isWholeLine r.content = true := by
  cases s with
  | line pieces =>
    rw [Statement.rows, List.mem_singleton] at hr
    rwa [hr]
  | comment text =>
    obtain ⟨part, hp, rfl⟩ := List.mem_map.1 hr
    rw [Row.content_comment_eq]
    exact isWholeLine_commentLine (lineFeed_not_mem_of_mem_commentTexts hp)
  | blank =>
    rw [Statement.rows, List.mem_singleton] at hr
    rw [hr] at hg
    cases hg
  | block header body =>
    simp only [Statement.isProper, Bool.and_eq_true] at h
    cases body with
    | nil =>
      rcases List.mem_cons.1 hr with rfl | hr
      · exact h.1.1
      · rw [List.mem_singleton.1 hr, Row.content_pass]
        rfl
    | cons s rest =>
      rcases List.mem_cons.1 hr with rfl | hr
      · exact h.1.1
      · exact isWholeLine_of_mem_rowsAll h.2 hr hg

theorem isWholeLine_of_mem_rowsAll {script : List Statement} (h : allProper script = true)
    {depth : Nat} {r : Row} (hr : r ∈ rowsAll depth script) (hg : r.isGap = false) :
    isWholeLine r.content = true := by
  cases script with
  | nil => cases hr
  | cons s rest =>
    simp only [allProper, Bool.and_eq_true] at h
    rcases List.mem_append.1 hr with hr | hr
    · exact isWholeLine_of_mem_rows h.1 hr hg
    · exact isWholeLine_of_mem_rowsAll h.2 hr hg

end

theorem solid_of_mem_rowsAll {script : List Statement} (h : allProper script = true) {depth : Nat}
    {r : Row} (hr : r ∈ rowsAll depth script) : r.Solid := by
  cases hg : r.isGap with
  | true =>
    rw [Row.eq_gap hg]
    exact ⟨List.not_mem_nil, fun _ => rfl⟩
  | false => exact solid_of_isWholeLine (isWholeLine_of_mem_rowsAll h hr hg)

/-- Between three line feeds stand two empty lines. -/
theorem exists_fields_of_infix {text : List Char} (h : ['\n', '\n', '\n'] <:+: text) :
    ∃ before ls l, Text.fields (· == '\n') text = before ++ [] :: [] :: ls ++ [l] := by
  obtain ⟨front, behind, rfl⟩ := h
  obtain ⟨ls, l, hl⟩ :=
    (List.eq_nil_or_concat _).resolve_left (Text.fields_ne_nil (· == '\n') behind)
  refine ⟨Text.fields (· == '\n') front, ls, l, ?_⟩
  rw [List.concat_eq_append] at hl
  rw [List.append_assoc, List.cons_append, Text.fields_append_cons rfl]
  simp [Text.fields, hl]

/-- Where no gap is first or beside another, no empty line is. -/
theorem Spaced.wellSpaced {rows : List Row} (h : Spaced rows) (hs : ∀ r ∈ rows, r.Solid) :
    WellSpaced (rows.flatMap Row.chars) := by
  have cut := fields_flatMap_chars hs
  have gap {r : Row} (hr : r ∈ rows) (he : r.line = []) : r.isGap = true := by
    rw [(hs r hr).isGap_eq, he]
    rfl
  constructor
  · rintro ⟨rest, he⟩
    cases rows with
    | nil => cases he
    | cons r rows =>
      have first : r.line = [] := by
        rw [← he] at cut
        exact (List.cons.inj cut).1.symm
      have starts := h.starts
      simp [gap List.mem_cons_self first] at starts
  · intro h3
    obtain ⟨before, ls, l, fields⟩ := exists_fields_of_infix h3
    have lines := (List.append_inj' (cut.symm.trans fields) rfl).1
    obtain ⟨before, inside, rfl, -, hinside⟩ := List.map_eq_append_iff.1 lines
    obtain ⟨a, inside, rfl, ha, hinside⟩ := List.map_eq_cons_iff.1 hinside
    obtain ⟨b, inside, rfl, hb, -⟩ := List.map_eq_cons_iff.1 hinside
    have apart := (List.isChain_append.1 h.apart).2.1
    rw [List.isChain_cons_cons] at apart
    simp [gap (by simp) ha, gap (by simp) hb] at apart

theorem mem_rows_block {depth : Nat} {header : List Piece} {body : List Statement} {r : Row}
    (h : r ∈ rowsAll (depth + 1) body) : r ∈ (Statement.block header body).rows depth := by
  cases body with
  | nil => cases h
  | cons s rest => exact List.mem_cons_of_mem _ h

theorem header_mem_rows (depth : Nat) (header : List Piece) (body : List Statement) :
    Row.code depth header ∈ (Statement.block header body).rows depth := by
  cases body <;> exact List.mem_cons_self

namespace Writer

/-- The states in which a writer comes while it writes statements, within their blocks as well. -/
inductive Passes : Writer → List Statement → Writer → Prop
  | here (w : Writer) (script : List Statement) : Passes w script w
  | onward {w v : Writer} {s : Statement} {rest : List Statement} (h : Passes (w.write s) rest v) :
    Passes w (s :: rest) v
  | inward {w v : Writer} {header : List Piece} {body rest : List Statement}
    (h : Passes { w.line (lineChars header) with depth := w.depth + 1 } body v) :
    Passes w (.block header body :: rest) v

/-- The text stays made of rows with no gap first or beside another. -/
theorem Holds.passes {w v : Writer} {script : List Statement} (hv : Passes w script v)
    {rows : List Row} {depth : Nat} (h : w.Holds rows depth)
    (hs : ∀ r ∈ rowsAll depth script, r.Solid) (spaced : Spaced rows) :
    ∃ rows' depth', v.Holds rows' depth' ∧ Spaced rows' := by
  induction hv generalizing rows depth with
  | here w script => exact ⟨rows, depth, h, spaced⟩
  | @onward w v s rest _ ih =>
    rw [rowsAll, List.forall_mem_append] at hs
    exact ih (h.write s hs.1) hs.2 (spaced.foldl_settle _)
  | @inward w v header body rest _ ih =>
    rw [rowsAll, List.forall_mem_append] at hs
    have opened := h.header (hs.1 _ (header_mem_rows depth header body))
    refine ih opened (fun r hr => hs.1 r (mem_rows_block hr)) ?_
    have settled := spaced.settle (.code depth header)
    rwa [settle_of_not_isGap rfl] at settled

/-- A blank line that is asked for is there, unless nothing is written yet. -/
theorem Holds.ends_blank {w : Writer} {rows : List Row} {depth : Nat} (h : w.Holds rows depth) :
    w.blank.text = [] ∨ ['\n', '\n'] <:+ w.blank.text := by
  have feed : w.text = [] ∨ ['\n'] <:+ w.text := by
    rw [h.text_eq]
    rcases List.eq_nil_or_concat rows with rfl | ⟨front, r, rfl⟩
    · exact .inl rfl
    · right
      rw [List.concat_eq_append, List.flatMap_append, List.flatMap_singleton, Row.chars,
        ← List.append_assoc]
      exact List.suffix_append _ _
  unfold Writer.blank
  split_ifs with hb
  · rw [Bool.or_eq_true, List.isEmpty_iff, List.isPrefixOf_iff_prefix] at hb
    rw [text, List.reverse_eq_nil_iff]
    exact hb.imp_right fun hp => List.reverse_prefix.1 (by rwa [List.reverse_reverse])
  · rw [text_put]
    rcases feed with he | ⟨front, he⟩
    · simp [text] at he
      simp [he] at hb
    · exact .inr ⟨front, by rw [← he, List.append_assoc]; rfl⟩

theorem depth_foldl_line (w : Writer) (ls : List (List Char)) :
    (ls.foldl line w).depth = w.depth := by
  induction ls generalizing w with
  | nil => rfl
  | cons l ls ih => exact ih (w.line l)

theorem depth_comment (w : Writer) (text : List Char) : (w.comment text).depth = w.depth := by
  unfold comment
  split_ifs
  · rfl
  · exact depth_foldl_line w _

theorem depth_blank (w : Writer) : w.blank.depth = w.depth := by
  unfold blank
  split_ifs <;> rfl

/-- A block whose body ends as deep as it starts ends as deep as its header stands. -/
theorem depth_block {body : Writer → Writer} (h : ∀ v, (body v).depth = v.depth) (w : Writer)
    (header : List Char) : (w.block header body).depth = w.depth := by
  have inside := h { w.line header with depth := w.depth + 1 }
  simp only [block]
  split_ifs
  · exact Nat.sub_eq_of_eq_add inside
  · exact Nat.sub_eq_of_eq_add inside

mutual

theorem depth_write (w : Writer) (s : Statement) : (w.write s).depth = w.depth := by
  cases s with
  | line pieces => rfl
  | comment text => exact depth_comment w text.toList
  | blank => exact depth_blank w
  | block header body =>
    rw [write]
    exact depth_block (fun v => depth_writeAll v body) w (lineChars header)

theorem depth_writeAll (w : Writer) (script : List Statement) :
    (w.writeAll script).depth = w.depth := by
  cases script with
  | nil => rfl
  | cons s rest => rw [writeAll, depth_writeAll, depth_write]

end

theorem toList_finish (w : Writer) :
    w.finish.toList = (w.written.dropWhile (· == '\n')).reverse ++ ['\n'] := by
  rw [finish, String.toList_ofList, List.reverse_cons]

theorem endsOnce_finish (w : Writer) : EndsOnce w.finish.toList := by
  refine ⟨_, w.toList_finish, ?_⟩
  rw [List.getLast?_reverse]
  intro he
  have h := List.head?_dropWhile_not (· == '\n') w.written
  rw [he] at h
  cases h

/-- Only line feeds are added or left out at the end. -/
theorem runs_finish (w : Writer) :
    Text.runs (· == '\n') w.finish.toList = Text.runs (· == '\n') w.text := by
  have feeds : ∀ c ∈ (w.written.takeWhile (· == '\n')).reverse, (c == '\n') = true := by
    intro c hc
    rw [List.mem_reverse] at hc
    exact List.mem_takeWhile_imp (p := (· == '\n')) hc
  have whole : w.text = (w.written.dropWhile (· == '\n')).reverse ++
      (w.written.takeWhile (· == '\n')).reverse := by
    rw [← List.reverse_append, List.takeWhile_append_dropWhile, text]
  rw [toList_finish, whole, Text.runs_append_seps feeds, Text.runs_append_seps (by simp)]

end Writer

theorem placedLines_render {script : List Statement} (h : allProper script = true) :
    placedLines (render script) = listingAll 0 (nestsAll script) := by
  have solid : ∀ r ∈ rowsAll 0 script, r.Solid := fun r hr => solid_of_mem_rowsAll h hr
  have held := Writer.Holds.empty.writeAll script solid
  rw [placedLines, render, Writer.runs_finish, held.text_eq, runs_flatMap_chars held.solid,
    filter_foldl_settle, List.nil_append, List.map_map, ← placed_rowsAll script 0]
  apply List.map_congr_left
  intro r hr
  rw [List.mem_filter, Bool.not_eq_true'] at hr
  exact Row.placed_line (isWholeLine_of_mem_rowsAll h hr.1 hr.2)

theorem recover_render {script : List Statement} (h : allProper script = true) :
    recover (render script) = nestsAll script := by
  rw [recover, placedLines_render h]
  exact rebuild_listingAll (allFilled_nestsAll h) 0

theorem blank_of_passes {script : List Statement} (h : allProper script = true) {w : Writer}
    (hw : Writer.Passes {} script w) :
    WellSpaced w.blank.text ∧ (w.blank.text = [] ∨ ['\n', '\n'] <:+ w.blank.text) := by
  have solid : ∀ r ∈ rowsAll 0 script, r.Solid := fun r hr => solid_of_mem_rowsAll h hr
  obtain ⟨rows, depth, held, spaced⟩ := Writer.Holds.empty.passes hw solid ⟨rfl, .nil⟩
  refine ⟨?_, held.ends_blank⟩
  rw [held.blank.text_eq]
  exact (spaced.settle .gap).wellSpaced held.blank.solid

/-- What is kept of statements in the text that they give. -/
structure Faithful (script : List Statement) : Prop where
  /-- The lines and their depths are those that the statements show. -/
  listed : placedLines (render script) = listingAll 0 (nestsAll script)
  /-- The text alone tells how the statements nest. -/
  recovered : recover (render script) = nestsAll script
  /-- Wherever a blank line is asked for, one ends the text that there is, and it is neither the
  first line nor behind another blank one. -/
  spaced : ∀ w, Writer.Passes {} script w →
    WellSpaced w.blank.text ∧ (w.blank.text = [] ∨ ['\n', '\n'] <:+ w.blank.text)

/--
Behind any statements the writer is as deep as in front of them, and the finished text ends with one
line feed. Statements of whole lines, none of whose blocks holds blank lines only, are kept.
-/
theorem faithful_render (script : List Statement) :
    (∀ w : Writer, (w.writeAll script).depth = w.depth ∧
      EndsOnce (w.writeAll script).finish.toList) ∧
    (allProper script = true → Faithful script) := by
  constructor
  · intro w
    exact ⟨w.depth_writeAll script, (w.writeAll script).endsOnce_finish⟩
  · intro h
    exact ⟨placedLines_render h, recover_render h, fun _ hw => blank_of_passes h hw⟩

/-- A block in a block, an empty one, blank lines in a row, and a comment of three lines. -/
def nestedScript : List Statement :=
  [ .blank,
    .under "for x in y:" [
      .blank,
      .under "if x:" [.code "print(x)"],
      .blank,
      .blank,
      .comment "one\n\n two" ],
    .under "try:" [],
    .comment "",
    .code "done()" ]

theorem faithful_render_nestedScript :
    allProper nestedScript = true ∧
    recover (render nestedScript) =
      [ .block "for x in y:".toList [
          .block "if x:".toList [.line "print(x)".toList],
          .line "# one".toList,
          .line "#".toList,
          .line "#  two".toList ],
        .block "try:".toList [.line "pass".toList],
        .line "#".toList,
        .line "done()".toList ] := by
  have proper : allProper nestedScript = true := by decide
  refine ⟨proper, ?_⟩
  have faithful := (faithful_render nestedScript).2 proper
  exact faithful.recovered

end PageHarvest.Script
