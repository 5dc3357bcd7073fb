import PageHarvest.Script.Layout
import Mathlib.Data.List.DropRight

namespace PageHarvest.Script

/-- A line of the text and what it is made from. -/
inductive Row
  | gap
  | comment (depth : Nat) (text : List Char)
  | code (depth : Nat) (pieces : List Piece)

namespace Row

def isGap : Row → Bool
  | gap => true
  | _ => false

def content : Row → List Char
  | gap => []
  | comment _ [] => ['#']
  | comment _ text => '#' :: ' ' :: text
  | code _ pieces => lineChars pieces

def depth : Row → Nat
  | gap => 0
  | comment depth _ => depth
  | code depth _ => depth

/-- The characters of a row with the line feed at its end. -/
def chars (r : Row) : List Char :=
  Writer.indentation r.depth ++ r.content ++ ['\n']

/-- A row that is one line of the text. Only a gap is empty. -/
def Solid (r : Row) : Prop :=
  '\n' ∉ r.content ∧ (r.content = [] → r = gap)

theorem eq_gap {r : Row} (h : r.isGap = true) : r = gap := by
  cases r with
  | gap => rfl
  | comment => cases h
  | code => cases h

theorem chars_ne_nil (r : Row) : r.chars ≠ [] := by
  simp [chars]

end Row

theorem Row.solid_code {depth : Nat} {pieces : List Piece} :
    (Row.code depth pieces).Solid ↔ '\n' ∉ lineChars pieces ∧ lineChars pieces ≠ [] := by
  simp [Row.Solid, content]

theorem Row.reverse_chars (r : Row) :
    r.chars.reverse = '\n' :: (r.content.reverse ++ (Writer.indentation r.depth).reverse) := by
  simp [chars]

theorem Row.Solid.content_eq {r : Row} (h : r.Solid) (hg : r.isGap = false) :
    ∃ front c, r.content = front ++ [c] ∧ c ≠ '\n' := by
  rcases List.eq_nil_or_concat r.content with he | ⟨front, c, he⟩
  · rw [h.2 he] at hg
    cases hg
  · rw [List.concat_eq_append] at he
    refine ⟨front, c, he, ?_⟩
    rintro rfl
    exact h.1 (by simp [he])

def commentTexts (text : List Char) : List (List Char) :=
  if text.isEmpty then [[]] else Text.lines text

def commentRows (depth : Nat) (text : String) : List Row :=
  (commentTexts text.toList).map (.comment depth)

mutual

def Statement.rows (depth : Nat) : Statement → List Row
  | .line pieces => [.code depth pieces]
  | .comment text => commentRows depth text
  | .blank => [.gap]
  | .block header [] => [.code depth header, .code (depth + 1) [.code "pass"]]
  | .block header (s :: rest) => .code depth header :: rowsAll (depth + 1) (s :: rest)

def rowsAll (depth : Nat) : List Statement → List Row
  | [] => []
  | s :: rest => s.rows depth ++ rowsAll depth rest

end

theorem lines_ne_nil {s : List Char} (h : s ≠ []) : Text.lines s ≠ [] := by
  obtain ⟨c, r, rfl⟩ := List.exists_cons_of_ne_nil h
  unfold Text.lines
  simp only [Text.fields]
  split_ifs
  · obtain ⟨f, fs, hf⟩ := List.exists_cons_of_ne_nil (Text.fields_ne_nil (· == '\n') r)
    simp [hf]
  · split
    · simp
    · rename_i f fs _
      cases fs <;> simp

theorem commentTexts_ne_nil (text : List Char) : commentTexts text ≠ [] := by
  unfold commentTexts
  split_ifs with h
  · simp
  · exact lines_ne_nil fun he => h (by rw [he]; rfl)

theorem rows_ne_nil (depth : Nat) (s : Statement) : s.rows depth ≠ [] := by
  cases s with
  | line => simp [Statement.rows]
  | comment text => simpa [Statement.rows, commentRows] using commentTexts_ne_nil text.toList
  | blank => simp [Statement.rows]
  | block header body => cases body <;> simp [Statement.rows]

theorem rowsAll_cons_ne_nil (depth : Nat) (s : Statement) (rest : List Statement) :
    rowsAll depth (s :: rest) ≠ [] := by
  rw [rowsAll]
  exact List.append_ne_nil_of_left_ne_nil (rows_ne_nil depth s) _

theorem isGap_of_mem_commentRows {depth : Nat} {text : String} {r : Row}
    (h : r ∈ commentRows depth text) : r.isGap = false ∧ r.depth = depth := by
  obtain ⟨part, _, rfl⟩ := List.mem_map.1 h
  exact ⟨rfl, rfl⟩

/-- Puts a row behind others. A gap is left out at the start and behind another gap. -/
def settle (rows : List Row) (r : Row) : List Row :=
  if r.isGap && rows.getLast?.all Row.isGap then rows else rows ++ [r]

/-- The rows of a text, in which no gap is the first or the last or stands behind another. -/
def settled (rows : List Row) : List Row :=
  (rows.foldl settle []).rdropWhile Row.isGap

theorem settle_of_not_isGap {r : Row} (h : r.isGap = false) (rows : List Row) :
    settle rows r = rows ++ [r] := by
  simp only [settle, h, Bool.false_and, Bool.false_eq_true, if_false]

theorem mem_of_mem_foldl_settle {rows new : List Row} {r : Row} (h : r ∈ new.foldl settle rows) :
    r ∈ rows ∨ r ∈ new := by
  induction new generalizing rows with
  | nil => exact .inl h
  | cons r' new ih =>
    rcases ih h with hm | hm
    · unfold settle at hm
      split_ifs at hm
      · exact .inl hm
      · rcases List.mem_append.1 hm with hm | hm
        · exact .inl hm
        · rw [List.mem_singleton.1 hm]
          exact .inr List.mem_cons_self
    · exact .inr (List.mem_cons_of_mem r' hm)

theorem mem_of_mem_settled {rows : List Row} {r : Row} (h : r ∈ settled rows) : r ∈ rows :=
  (mem_of_mem_foldl_settle ((List.rdropWhile_prefix _ _).subset h)).resolve_left List.not_mem_nil

theorem filter_settle (rows : List Row) (r : Row) :
    (settle rows r).filter (!·.isGap) = (rows ++ [r]).filter (!·.isGap) := by
  unfold settle
  split_ifs with hg
  · simp only [Bool.and_eq_true] at hg
    simp [hg.1]
  · rfl

theorem filter_foldl_settle (rows new : List Row) :
    (new.foldl settle rows).filter (!·.isGap) = (rows ++ new).filter (!·.isGap) := by
  induction new generalizing rows with
  | nil => simp
  | cons r new ih =>
    rw [List.foldl_cons, ih, List.filter_append, filter_settle, ← List.filter_append,
      List.append_assoc, List.singleton_append]

theorem filter_rdropWhile_isGap (rows : List Row) :
    (rows.rdropWhile Row.isGap).filter (!·.isGap) = rows.filter (!·.isGap) := by
  induction rows using List.reverseRecOn with
  | nil => rfl
  | append_singleton front r ih =>
    cases hg : r.isGap with
    | true =>
      rw [List.rdropWhile_concat_pos _ _ _ hg, ih]
      simp [hg]
    | false => rw [List.rdropWhile_concat_neg _ _ _ (by simp [hg])]

theorem filter_settled (rows : List Row) :
    (settled rows).filter (!·.isGap) = rows.filter (!·.isGap) := by
  rw [settled, filter_rdropWhile_isGap, filter_foldl_settle, List.nil_append]

theorem settle_map {f : Row → Row} (hf : ∀ r, (f r).isGap = r.isGap) (rows : List Row) (r : Row) :
    settle (rows.map f) (f r) = (settle rows r).map f := by
  simp only [settle, hf, List.getLast?_map, Option.all_map]
  split_ifs
  · rfl
  · rw [List.map_append, List.map_singleton]

theorem foldl_settle_map {f : Row → Row} (hf : ∀ r, (f r).isGap = r.isGap) (rows new : List Row) :
    (new.map f).foldl settle (rows.map f) = (new.foldl settle rows).map f := by
  induction new generalizing rows with
  | nil => rfl
  | cons r new ih => rw [List.map_cons, List.foldl_cons, settle_map hf, ih, List.foldl_cons]

theorem settled_map {f : Row → Row} (hf : ∀ r, (f r).isGap = r.isGap) (rows : List Row) :
    settled (rows.map f) = (settled rows).map f := by
  have hcomp : Row.isGap ∘ f = Row.isGap := funext hf
  have h := foldl_settle_map hf [] rows
  rw [List.map_nil] at h
  simp only [settled, h, List.rdropWhile, ← List.map_reverse, List.dropWhile_map, hcomp]

theorem foldl_settle_of_not_isGap {new : List Row} (h : ∀ r ∈ new, r.isGap = false)
    (rows : List Row) : new.foldl settle rows = rows ++ new := by
  induction new generalizing rows with
  | nil => simp
  | cons r new ih =>
    have hr := h r List.mem_cons_self
    have hnew := fun r' h' => h r' (List.mem_cons_of_mem r h')
    rw [List.foldl_cons, settle_of_not_isGap hr, ih hnew, List.append_assoc]
    rfl

namespace Writer

/-- The writer holds the text of some rows, of which the first is no gap, at a depth. -/
structure Holds (w : Writer) (rows : List Row) (depth : Nat) : Prop where
  text_eq : w.text = rows.flatMap Row.chars
  depth_eq : w.depth = depth
  solid : ∀ r ∈ rows, r.Solid
  starts : rows.head?.all (!·.isGap) = true

theorem Holds.empty : Holds {} [] 0 where
  text_eq := rfl
  depth_eq := rfl
  solid := by simp
  starts := rfl

theorem Holds.written_eq {w : Writer} {rows : List Row} {depth : Nat} (h : w.Holds rows depth) :
    w.written = (rows.flatMap Row.chars).reverse := by
  rw [← h.text_eq, text, List.reverse_reverse]

/-- Writing the characters of a solid row, be they an indented line or a lone line feed. -/
theorem Holds.put {w : Writer} {rows : List Row} {depth : Nat} (h : w.Holds rows depth)
    {r : Row} (hr : r.Solid) (hg : rows = [] → r.isGap = false) :
    (w.put r.chars).Holds (rows ++ [r]) depth where
  text_eq := by simp [h.text_eq]
  depth_eq := h.depth_eq
  solid := by
    intro r' hr'
    rcases List.mem_append.1 hr' with hm | hm
    · exact h.solid r' hm
    · rw [List.mem_singleton.1 hm]
      exact hr
  starts := by
    cases rows with
    | nil => simp [hg rfl]
    | cons r' rows => exact h.starts

theorem Holds.at_depth {w : Writer} {rows : List Row} {depth : Nat} (h : w.Holds rows depth)
    (d : Nat) : Holds { w with depth := d } rows d where
  text_eq := h.text_eq
  depth_eq := rfl
  solid := h.solid
  starts := h.starts

/-- The text ends with an empty line exactly behind a gap, or where it is empty. -/
theorem Holds.blank_iff {w : Writer} {rows : List Row} {depth : Nat} (h : w.Holds rows depth) :
    (w.written.isEmpty || ['\n', '\n'].isPrefixOf w.written) = rows.getLast?.all Row.isGap := by
  rw [h.written_eq]
  rcases List.eq_nil_or_concat rows with rfl | ⟨front, r, rfl⟩
  · rfl
  rw [List.concat_eq_append, List.flatMap_append, List.flatMap_singleton, List.reverse_append,
    Row.reverse_chars]
  cases hg : r.isGap with
  | true =>
    -- the row before a gap ends with a line feed, and there is one
    obtain rfl := Row.eq_gap hg
    rcases List.eq_nil_or_concat front with rfl | ⟨front, r, rfl⟩
    · have := h.starts
      cases this
    · simp [Row.content, Row.depth, indentation, Row.reverse_chars, Row.isGap, List.isPrefixOf]
  | false =>
    obtain ⟨text, c, he, hc⟩ := (h.solid r (by simp)).content_eq hg
    simp [he, hg, List.isPrefixOf, hc.symm]

theorem Holds.blank {w : Writer} {rows : List Row} {depth : Nat} (h : w.Holds rows depth) :
    w.blank.Holds (settle rows .gap) depth := by
  unfold Writer.blank settle
  rw [h.blank_iff]
  simp only [Row.isGap, Bool.true_and]
  split_ifs with hb
  · exact h
  · have hs : Row.Solid .gap := ⟨by simp [Row.content], fun _ => rfl⟩
    refine h.put hs ?_
    rintro rfl
    simp at hb

theorem Holds.line {w : Writer} {rows : List Row} {depth : Nat} (h : w.Holds rows depth) {r : Row}
    (hr : r.Solid) (hg : r.isGap = false) (hd : r.depth = depth) :
    (w.line r.content).Holds (rows ++ [r]) depth := by
  have hc : r.content.isEmpty = false := by
    rw [List.isEmpty_eq_false_iff]
    intro he
    rw [hr.2 he] at hg
    cases hg
  have hw : w.line r.content = w.put r.chars := by
    simp only [Writer.line, hc, Bool.false_eq_true, if_false, h.depth_eq, Row.chars, hd]
  rw [hw]
  exact h.put hr fun _ => hg

theorem Holds.lines {w : Writer} {rows new : List Row} {depth : Nat} (h : w.Holds rows depth)
    (hn : ∀ r ∈ new, r.Solid ∧ r.isGap = false ∧ r.depth = depth) :
    ((new.map Row.content).foldl Writer.line w).Holds (rows ++ new) depth := by
  induction new generalizing w rows with
  | nil => simpa using h
  | cons r new ih =>
    obtain ⟨hr, hg, hd⟩ := hn r List.mem_cons_self
    have hnew := ih (h.line hr hg hd) fun r' h' => hn r' (List.mem_cons_of_mem r h')
    rw [List.append_assoc] at hnew
    exact hnew

theorem comment_eq (w : Writer) (text : String) :
    w.comment text.toList = ((commentRows w.depth text).map Row.content).foldl line w := by
  unfold Writer.comment commentRows commentTexts
  split_ifs with ht
  · rfl
  · rw [List.map_map]
    dsimp only
    congr 1
    apply List.map_congr_left
    intro part _
    cases part <;> rfl

theorem Holds.comment {w : Writer} {rows : List Row} {depth : Nat} (h : w.Holds rows depth)
    {text : String} (hs : ∀ r ∈ commentRows depth text, r.Solid) :
    (w.comment text.toList).Holds ((commentRows depth text).foldl settle rows) depth := by
  have hg {r : Row} (hr : r ∈ commentRows depth text) := isGap_of_mem_commentRows hr
  rw [comment_eq, h.depth_eq, foldl_settle_of_not_isGap fun r hr => (hg hr).1]
  exact h.lines fun r hr => ⟨hs r hr, hg hr⟩

theorem Holds.length_lt {w w' : Writer} {rows new : List Row} {depth depth' : Nat}
    (h : w.Holds rows depth) (h' : w'.Holds (rows ++ new) depth') (hn : new ≠ []) :
    w.written.length < w'.written.length := by
  obtain ⟨r, new, rfl⟩ := List.exists_cons_of_ne_nil hn
  have hr := List.length_pos_of_ne_nil r.chars_ne_nil
  rw [h.written_eq, h'.written_eq]
  simp only [List.flatMap_append, List.flatMap_cons, List.length_reverse, List.length_append]
  omega

theorem foldl_settle_eq_append (rows new : List Row) :
    ∃ more, new.foldl settle rows = rows ++ more := by
  induction new generalizing rows with
  | nil => exact ⟨[], by simp⟩
  | cons r new ih =>
    obtain ⟨more, hm⟩ := ih (settle rows r)
    rw [List.foldl_cons, hm, settle]
    split_ifs
    · exact ⟨more, rfl⟩
    · exact ⟨r :: more, by simp⟩

theorem foldl_settle_cons (rows : List Row) {header : Row} (hh : header.isGap = false)
    (r : Row) (new : List Row) :
    ∃ more, (r :: new).foldl settle (rows ++ [header]) = rows ++ [header] ++ r :: more := by
  have hr : settle (rows ++ [header]) r = rows ++ [header] ++ [r] := by
    simp [settle, hh]
  obtain ⟨more, hm⟩ := foldl_settle_eq_append (rows ++ [header] ++ [r]) new
  exact ⟨more, by rw [List.foldl_cons, hr, hm, List.append_assoc _ [r]]; rfl⟩

theorem solid_pass (depth : Nat) : (Row.code depth [.code "pass"]).Solid :=
  Row.solid_code.2 (by decide)

theorem Holds.header {w : Writer} {rows : List Row} {depth : Nat} (h : w.Holds rows depth)
    {header : List Piece} (hs : (Row.code depth header).Solid) :
    Holds { w.line (lineChars header) with depth := w.depth + 1 } (rows ++ [.code depth header])
      (depth + 1) := by
  rw [h.depth_eq]
  exact (h.line hs rfl rfl).at_depth (depth + 1)

/-- The end of a block takes back the step in that its header took. -/
theorem Holds.close {w : Writer} {rows : List Row} {depth : Nat} (h : w.Holds rows (depth + 1)) :
    Holds { w with depth := w.depth - 1 } rows depth := by
  rw [h.depth_eq]
  exact h.at_depth depth

/-- A block whose body writes nothing gets a line of its own. -/
theorem Holds.emptyBlock {w : Writer} {rows : List Row} {depth : Nat} (h : w.Holds rows depth)
    {header : List Piece} (hs : (Row.code depth header).Solid) :
    (w.block (lineChars header) fun w => w).Holds
      (rows ++ [.code depth header] ++ [.code (depth + 1) [.code "pass"]]) depth := by
  have hp := (h.header hs).line (solid_pass (depth + 1)) rfl rfl
  simp only [Writer.block, if_true]
  exact hp.close

theorem Holds.fullBlock {w : Writer} {rows more : List Row} {depth : Nat} (h : w.Holds rows depth)
    {header : List Piece} (hs : (Row.code depth header).Solid) {body : Writer → Writer}
    (hb : ∀ opened, Holds opened (rows ++ [.code depth header]) (depth + 1) →
      (body opened).Holds (rows ++ [.code depth header] ++ more) (depth + 1))
    (hm : more ≠ []) :
    (w.block (lineChars header) body).Holds (rows ++ [.code depth header] ++ more) depth := by
  have hh := h.header hs
  have hlt := hh.length_lt (hb _ hh) hm
  simp only [Writer.block, if_neg hlt.ne']
  exact (hb _ hh).close

mutual

theorem Holds.write {w : Writer} {rows : List Row} {depth : Nat} (h : w.Holds rows depth)
    (s : Statement) (hs : ∀ r ∈ s.rows depth, r.Solid) :
    (w.write s).Holds ((s.rows depth).foldl settle rows) depth := by
  cases s with
  | line pieces =>
    simp only [Statement.rows, List.mem_singleton, forall_eq] at hs
    simp only [Statement.rows, List.foldl_cons, List.foldl_nil]
    rw [settle_of_not_isGap rfl]
    exact h.line hs rfl rfl
  | comment text => exact h.comment hs
  | blank => exact h.blank
  | block header body =>
    cases body with
    | nil =>
      simp only [Statement.rows, List.forall_mem_cons] at hs
      simp only [Statement.rows, List.foldl_cons, List.foldl_nil]
      rw [settle_of_not_isGap rfl, settle_of_not_isGap rfl]
      exact h.emptyBlock hs.1
    | cons s rest =>
      simp only [Statement.rows, List.forall_mem_cons] at hs
      obtain ⟨r, new, hn⟩ := List.exists_cons_of_ne_nil (rowsAll_cons_ne_nil (depth + 1) s rest)
      have hh : (Row.code depth header).isGap = false := rfl
      obtain ⟨more, hm⟩ := foldl_settle_cons rows hh r new
      rw [← hn] at hm
      simp only [Statement.rows, List.foldl_cons]
      rw [settle_of_not_isGap rfl, hm, Writer.write]
      apply h.fullBlock hs.1 ?_ (List.cons_ne_nil r more)
      intro opened ho
      rw [← hm]
      exact ho.writeAll (s :: rest) hs.2

theorem Holds.writeAll {w : Writer} {rows : List Row} {depth : Nat} (h : w.Holds rows depth)
    (script : List Statement) (hs : ∀ r ∈ rowsAll depth script, r.Solid) :
    (w.writeAll script).Holds ((rowsAll depth script).foldl settle rows) depth := by
  cases script with
  | nil => exact h
  | cons s rest =>
    rw [rowsAll, List.forall_mem_append] at hs
    rw [rowsAll, List.foldl_append]
    exact (h.write s hs.1).writeAll rest hs.2

end

theorem finish_rows {rows : List Row} (hs : ∀ r ∈ rows, r.Solid)
    (hne : rows.rdropWhile Row.isGap ≠ []) :
    ((rows.flatMap Row.chars).reverse.dropWhile (· == '\n')).reverse ++ ['\n'] =
      (rows.rdropWhile Row.isGap).flatMap Row.chars := by
  induction rows using List.reverseRecOn with
  | nil => exact (hne rfl).elim
  | append_singleton front r ih =>
    rw [List.flatMap_append, List.flatMap_singleton, List.reverse_append, Row.reverse_chars]
    cases hg : r.isGap with
    | true =>
      obtain rfl := Row.eq_gap hg
      rw [List.rdropWhile_concat_pos _ _ _ hg] at hne ⊢
      exact ih (fun r hr => hs r (List.mem_append_left _ hr)) hne
    | false =>
      obtain ⟨text, c, he, hc⟩ := (hs r (by simp)).content_eq hg
      rw [List.rdropWhile_concat_neg _ _ _ (by simp [hg])]
      simp [he, hc, Row.chars]

theorem Holds.finish {w : Writer} {rows : List Row} {depth : Nat} (h : w.Holds rows depth)
    (hne : rows.rdropWhile Row.isGap ≠ []) :
    w.finish.toList = (rows.rdropWhile Row.isGap).flatMap Row.chars := by
  rw [← finish_rows h.solid hne, Writer.finish, h.written_eq, String.toList_ofList,
    List.reverse_cons]

end Writer

theorem render_eq {script : List Statement} (hs : ∀ r ∈ rowsAll 0 script, r.Solid)
    (hne : settled (rowsAll 0 script) ≠ []) :
    (render script).toList = (settled (rowsAll 0 script)).flatMap Row.chars :=
  (Writer.Holds.empty.writeAll script hs).finish hne

end PageHarvest.Script
