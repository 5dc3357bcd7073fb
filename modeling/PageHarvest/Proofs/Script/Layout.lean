import PageHarvest.Proofs.Script.Gaps
import PageHarvest.Proofs.Text.Run
import PageHarvest.Script.Review

namespace PageHarvest.Script

def isCommentLine (line : List Char) : Bool :=
  (line.dropWhile Text.isBlank).head? == some '#'

def blockLines (opener : List Char) (behind : List (List Char)) : List (List Char) :=
  behind.takeWhile fun line => indentOf opener < indentOf line

theorem blockLines_append {opener : List Char} {inside behind : List (List Char)}
    (hi : ∀ l ∈ inside, indentOf opener < indentOf l)
    (hb : ∀ l ∈ behind.head?, indentOf l ≤ indentOf opener) :
    blockLines opener (inside ++ behind) = inside :=
  Text.takeWhile_append_of_boundary (fun l hl => decide_eq_true (hi l hl))
    fun l hl => decide_eq_false (Nat.not_lt.2 (hb l hl))

/-- The layout of a program in blocks. A blank line has no indentation, so no block has one. -/
structure LaidOut (script : String) : Prop where
  starts : ∃ first rest, Text.lines script.toList = first :: rest ∧ isBlankLine first = false
  ends : ∃ front c, script.toList = front ++ [c, '\n'] ∧ c ≠ '\n'
  apart : (Text.lines script.toList).IsChain fun a b =>
    isBlankLine a = false ∨ isBlankLine b = false
  indented : ∀ line ∈ Text.lines script.toList, isBlankLine line = false →
    ∃ depth content, line = Writer.indentation depth ++ content ∧
      content.head?.any (!Text.isBlank ·) = true
  trimmed : ∀ line ∈ Text.lines script.toList, Text.dropTrailing Text.isBlank line = line
  steps : (Text.lines script.toList).IsChain fun a b =>
    indentOf b ≤ indentOf a ∨ (opensBlock a = true ∧ indentOf b = indentOf a + 4)
  filled : ∀ before opener behind, Text.lines script.toList = before ++ opener :: behind →
    opensBlock opener = true → ∃ line ∈ blockLines opener behind, isCommentLine line = false

theorem isBlank_of_mem_indentation {depth : Nat} {c : Char} (h : c ∈ Writer.indentation depth) :
    Text.isBlank c = true := by
  rw [List.eq_of_mem_replicate h]
  rfl

theorem byteLength_indentation (depth : Nat) :
    Text.byteLength (Writer.indentation depth) = 4 * depth := by
  unfold Writer.indentation
  induction 4 * depth with
  | zero => rfl
  | succ n ih =>
    rw [List.replicate_succ, Text.byteLength, ih]
    exact Nat.add_comm _ _

theorem wholeRun_indentation {depth : Nat} {content : List Char}
    (h : content.head?.any (!Text.isBlank ·) = true) :
    Text.WholeRun Text.isBlank (Writer.indentation depth) content where
  inside _ hc := isBlank_of_mem_indentation hc
  boundary c hc := by
    rw [Option.mem_def.1 hc] at h
    simpa using h

theorem indentOf_indentation {depth : Nat} {content : List Char}
    (h : content.head?.any (!Text.isBlank ·) = true) :
    indentOf (Writer.indentation depth ++ content) = 4 * depth := by
  rw [indentOf, (wholeRun_indentation h).takeWhile_eq, byteLength_indentation]

theorem isCommentLine_indentation {depth : Nat} {content : List Char}
    (h : content.head?.any (!Text.isBlank ·) = true) :
    isCommentLine (Writer.indentation depth ++ content) = (content.head? == some '#') := by
  rw [isCommentLine, (wholeRun_indentation h).dropWhile_eq]

theorem dropTrailing_of_getLast? {s : List Char} (h : s.getLast?.all (!Text.isBlank ·) = true) :
    Text.dropTrailing Text.isBlank s = s := by
  rcases List.eq_nil_or_concat s with rfl | ⟨front, c, rfl⟩
  · rfl
  · rw [List.concat_eq_append, List.getLast?_concat] at h
    simp_all [Text.dropTrailing]

namespace Row

variable {tabs : Bool} {r : Row}

theorem ends_content (h : r.isLaid tabs = true) (hg : r.isGap = false) :
    r.content.head?.any (!Text.isBlank ·) = true ∧
      r.content.getLast?.any (!Text.isBlank ·) = true := by
  cases r with
  | gap => cases hg
  | comment depth text =>
    simp only [isLaid, Bool.and_eq_true] at h
    cases text with
    | nil => cases h.1
    | cons c text =>
      refine ⟨rfl, ?_⟩
      simpa [content, List.getLast?_cons] using h.1
  | code depth pieces =>
    simp only [isLaid, Bool.and_eq_true, Option.any_eq_true] at h
    obtain ⟨⟨⟨c, hc, hstart⟩, d, hd, hend⟩, _⟩ := h
    simp only [startsCode, Bool.and_eq_true] at hstart
    simp only [content, head?_lineChars hc, getLast?_lineChars hd, Option.any_some, hstart.1, hend,
      and_self]

theorem indentOf_line (h : r.isLaid tabs = true) : indentOf r.line = 4 * r.depth := by
  cases hg : r.isGap with
  | true =>
    rw [eq_gap hg]
    rfl
  | false => exact indentOf_indentation (ends_content h hg).1

theorem isBlankLine_line (h : r.isLaid tabs = true) : isBlankLine r.line = r.isGap := by
  cases hg : r.isGap with
  | true =>
    rw [eq_gap hg]
    rfl
  | false =>
    obtain ⟨c, hc, hb⟩ := (Option.any_eq_true _ _).1 (ends_content h hg).1
    rw [isBlankLine, List.all_eq_false]
    refine ⟨c, List.mem_append_right _ (List.mem_of_head? hc), ?_⟩
    simpa using hb

theorem dropTrailing_line (h : r.isLaid tabs = true) :
    Text.dropTrailing Text.isBlank r.line = r.line := by
  apply dropTrailing_of_getLast?
  cases hg : r.isGap with
  | true =>
    rw [eq_gap hg]
    rfl
  | false =>
    obtain ⟨c, hc, hb⟩ := (Option.any_eq_true _ _).1 (ends_content h hg).2
    simp [line, List.getLast?_append, hc, hb]

theorem dropWhile_line (h : r.isLaid tabs = true) (hg : r.isGap = false) :
    r.line.dropWhile Text.isBlank = r.content :=
  (wholeRun_indentation (ends_content h hg).1).dropWhile_eq

theorem isCommentLine_line (h : r.isLaid tabs = true) (hc : r.isCode = true) :
    isCommentLine r.line = false := by
  cases r with
  | gap => cases hc
  | comment => cases hc
  | code depth pieces =>
    rw [line, isCommentLine_indentation (ends_content h rfl).1]
    simp only [isLaid, Bool.and_eq_true, Option.any_eq_true] at h
    obtain ⟨c, hfirst, hstart⟩ := h.1.1
    simp only [startsCode, Bool.and_eq_true, bne_iff_ne] at hstart
    simpa [content, head?_lineChars hfirst] using hstart.2

/-- A line opens a block just if its row does; a comment may end in a colon. -/
theorem opensBlock_line (h : r.isLaid tabs = true) : opensBlock r.line = r.opens := by
  cases r with
  | gap => rfl
  | comment depth text =>
    obtain ⟨said, hc, _⟩ := content_comment depth text
    rw [opensBlock, dropWhile_line h rfl, hc]
    exact Bool.and_false _
  | code depth pieces =>
    have hcomment := isCommentLine_line h rfl
    rw [isCommentLine] at hcomment
    rw [opensBlock, bne, hcomment, Bool.not_false, Bool.and_true, opens]
    simp only [isLaid, Bool.and_eq_true, Option.any_eq_true] at h
    obtain ⟨c, hlast, _⟩ := h.1.2
    simp [line, content, List.getLast?_append, getLast?_lineChars hlast, hlast]

end Row

theorem mem_takeWhile_map {α β : Type} {p : α → Bool} {q : β → Bool} {f : α → β} {l : List α}
    (h : ∀ x ∈ l, q (f x) = p x) {x : α} (hx : x ∈ l.takeWhile p) :
    f x ∈ (l.map f).takeWhile q := by
  induction l with
  | nil => cases hx
  | cons y l ih =>
    rw [List.forall_mem_cons] at h
    rw [List.takeWhile_cons] at hx
    rw [List.map_cons, List.takeWhile_cons, h.1]
    split_ifs at hx ⊢
    · rcases List.mem_cons.1 hx with rfl | hx
      · exact List.mem_cons_self
      · exact List.mem_cons_of_mem _ (ih h.2 hx)
    · cases hx

theorem Filled.exists_mem {before behind : List Row} {opener : Row}
    (h : Filled (before ++ opener :: behind)) (ho : opener.opens = true) :
    ∃ r ∈ blockOf opener behind, r.isCode = true := by
  induction before with
  | nil => exact h.1 ho
  | cons r before ih => exact ih h.2

namespace TextRows

variable {tabs : Bool} {rows : List Row} (h : TextRows tabs rows)

include h

theorem steps_lines : (rows.map Row.line).IsChain fun a b =>
    indentOf b ≤ indentOf a ∨ (opensBlock a = true ∧ indentOf b = indentOf a + 4) := by
  rw [List.isChain_map]
  refine h.steps.imp_of_mem_imp fun a b ha hb hstep => ?_
  rw [Row.indentOf_line (h.laid a ha), Row.indentOf_line (h.laid b hb),
    Row.opensBlock_line (h.laid a ha)]
  rcases hstep with hle | ⟨ho, hd⟩
  · exact .inl (Nat.mul_le_mul_left 4 hle)
  · exact .inr ⟨ho, by omega⟩

theorem filled_lines {before behind : List (List Char)} {opener : List Char}
    (he : rows.map Row.line = before ++ opener :: behind) (ho : opensBlock opener = true) :
    ∃ line ∈ blockLines opener behind, isCommentLine line = false := by
  obtain ⟨rs, rest, rfl, rfl, hrest⟩ := List.map_eq_append_iff.1 he
  obtain ⟨r, ss, rfl, rfl, rfl⟩ := List.map_eq_cons_iff.1 hrest
  have laid : ∀ s ∈ r :: ss, s.isLaid tabs = true :=
    fun s hs => h.laid s (List.mem_append_right rs hs)
  rw [List.forall_mem_cons] at laid
  rw [Row.opensBlock_line laid.1] at ho
  obtain ⟨s, hs, hcode⟩ := h.filled.exists_mem ho
  have hmem : s ∈ ss := (List.takeWhile_prefix _).subset hs
  refine ⟨s.line, mem_takeWhile_map ?_ hs, Row.isCommentLine_line (laid.2 s hmem) hcode⟩
  intro t ht
  rw [Row.indentOf_line laid.1, Row.indentOf_line (laid.2 t ht), decide_eq_decide]
  omega

theorem apart_lines : (rows.map Row.line).IsChain fun a b =>
    isBlankLine a = false ∨ isBlankLine b = false := by
  rw [List.isChain_map]
  refine h.spaced.apart.imp_of_mem_imp fun a b ha hb hgap => ?_
  rwa [Row.isBlankLine_line (h.laid a ha), Row.isBlankLine_line (h.laid b hb)]

theorem ends_text (hne : rows ≠ []) :
    ∃ front c, rows.flatMap Row.chars = front ++ [c, '\n'] ∧ c ≠ '\n' := by
  obtain ⟨front, r, rfl⟩ := (List.eq_nil_or_concat rows).resolve_left hne
  rw [List.concat_eq_append] at h ⊢
  have solid := Row.solid_of_isTidy (h.tidy r (by simp))
  obtain ⟨said, c, hc, hnew⟩ := solid.content_eq (h.last r (by simp))
  refine ⟨front.flatMap Row.chars ++ Writer.indentation r.depth ++ said, c, ?_, hnew⟩
  simp [Row.chars, hc]

theorem starts_lines (hne : rows ≠ []) :
    ∃ first rest, rows.map Row.line = first :: rest ∧ isBlankLine first = false := by
  obtain ⟨r, rest, rfl⟩ := List.exists_cons_of_ne_nil hne
  refine ⟨r.line, rest.map Row.line, rfl, ?_⟩
  rw [Row.isBlankLine_line (h.laid r List.mem_cons_self)]
  simpa using h.spaced.starts

end TextRows

theorem laidOut_render {tabs : Bool} {script : List Statement} (ht : allTidy script = true)
    (hl : allLaid tabs true script = true) (hne : ∃ r ∈ rowsAll 0 script, r.isGap = false) :
    LaidOut (render script) := by
  have tidy : ∀ r ∈ rowsAll 0 script, r.isTidy = true := isTidy_of_mem_rowsAll ht
  have rows : TextRows tabs (settled (rowsAll 0 script)) :=
    textRows_settled tidy (laidRows_rowsAll ht hl fun _ => rfl)
  have lines := lines_render tidy hne
  have some_row : settled (rowsAll 0 script) ≠ [] := by
    obtain ⟨r, hr, hg⟩ := hne
    exact List.ne_nil_of_mem (mem_settled hr hg)
  constructor
  · rw [lines]
    exact rows.starts_lines some_row
  · rw [render_eq_of_isTidy tidy hne]
    exact rows.ends_text some_row
  · rw [lines]
    exact rows.apart_lines
  · intro line hline hb
    rw [lines] at hline
    obtain ⟨r, hr, rfl⟩ := List.mem_map.1 hline
    rw [Row.isBlankLine_line (rows.laid r hr)] at hb
    exact ⟨r.depth, r.content, rfl, (Row.ends_content (rows.laid r hr) hb).1⟩
  · intro line hline
    rw [lines] at hline
    obtain ⟨r, hr, rfl⟩ := List.mem_map.1 hline
    exact Row.dropTrailing_line (rows.laid r hr)
  · rw [lines]
    exact rows.steps_lines
  · intro before opener behind he ho
    rw [lines] at he
    exact rows.filled_lines he ho

theorem Row.ne_tab_of_mem_content {r : Row} (h : r.isLaid false = true) {c : Char}
    (hc : c ∈ r.content) : c ≠ '\t' := by
  cases r with
  | gap => cases hc
  | comment depth text =>
    simp only [isLaid, Bool.and_eq_true, Bool.or_false] at h
    obtain ⟨said, he, hsaid⟩ := content_comment depth text
    rw [he, List.mem_cons] at hc
    rcases hc with rfl | hc
    · decide
    · rcases hsaid c hc with rfl | hm
      · decide
      · exact bne_iff_ne.1 (List.all_eq_true.1 h.2 c hm)
  | code depth pieces =>
    simp only [isLaid, Bool.and_eq_true] at h
    obtain ⟨p, hp, hc⟩ := List.mem_flatMap.1 hc
    exact Piece.ne_tab_of_mem_chars (List.all_eq_true.1 h.2 p hp) hc

theorem tab_not_mem_render {script : List Statement} (ht : allTidy script = true)
    (hl : allLaid false true script = true) (hne : ∃ r ∈ rowsAll 0 script, r.isGap = false) :
    '\t' ∉ (render script).toList := by
  have whole : LaidRows false 0 (rowsAll 0 script) := laidRows_rowsAll ht hl fun _ => rfl
  rw [render_eq_of_isTidy (isTidy_of_mem_rowsAll ht) hne, List.mem_flatMap]
  rintro ⟨r, hr, hc⟩
  simp only [Row.chars, List.mem_append, List.mem_singleton] at hc
  rcases hc with (hc | hc) | hc
  · cases List.eq_of_mem_replicate hc
  · exact Row.ne_tab_of_mem_content (whole.laid r (mem_of_mem_settled hr)) hc rfl
  · cases hc

theorem checkBody_ok (number : Nat) {line : List Char} {behind : List (List Char)}
    (hblank : ∀ l ∈ behind, isBlankLine l = true → indentOf l = 0)
    (h : opensBlock line = true → ∃ l ∈ blockLines line behind, isCommentLine l = false) :
    checkBody number line behind = .ok () := by
  unfold checkBody
  split_ifs with ho
  · rfl
  obtain ⟨l, hl, _⟩ := h (by simpa using ho)
  cases behind with
  | nil => cases hl
  | cons next behind =>
    unfold blockLines at hl
    rw [List.takeWhile_cons] at hl
    split_ifs at hl with hdeep
    · have hd : indentOf line < indentOf next := of_decide_eq_true hdeep
      have hb : isBlankLine next = false := by
        by_contra hb
        have hzero := hblank next List.mem_cons_self (by simpa using hb)
        omega
      simp [hb, hd]
    · cases hl

theorem checkLines_ok {lines : List (List Char)} (number : Nat)
    (ht : ∀ l ∈ lines, '\t' ∉ l) (hr : ∀ l ∈ lines, Text.dropTrailing Text.isBlank l = l)
    (hd : ∀ l ∈ lines, indentOf l % 4 = 0)
    (hb : ∀ l ∈ lines, isBlankLine l = true → indentOf l = 0)
    (hf : ∀ before opener behind, lines = before ++ opener :: behind → opensBlock opener = true →
      ∃ l ∈ blockLines opener behind, isCommentLine l = false) :
    checkLines number lines = .ok () := by
  induction lines generalizing number with
  | nil => rfl
  | cons line lines ih =>
    rw [List.forall_mem_cons] at ht hr hd hb
    have body := checkBody_ok number hb.2 (hf [] line lines rfl)
    have rest := ih (number + 1) ht.2 hr.2 hd.2 hb.2 fun before opener behind he =>
      hf (line :: before) opener behind (congrArg (line :: ·) he)
    have first : checkLine number line lines = .ok () := by
      simp [checkLine, ht.1, hr.1, hd.1, body]
    rw [checkLines, first]
    exact rest

theorem checkLayout_of_laidOut {script : String} (h : LaidOut script)
    (ht : '\t' ∉ script.toList) : checkLayout script = .ok () := by
  have blankLine : ∀ l ∈ Text.lines script.toList, isBlankLine l = true → l = [] := by
    intro l hl hb
    rw [← h.trimmed l hl, Text.dropTrailing_eq_nil_iff]
    exact List.all_eq_true.1 hb
  have notBlank : Text.allBlank script = false := by
    obtain ⟨first, rest, he, hb⟩ := h.starts
    obtain ⟨c, hc, hcb⟩ := List.all_eq_false.1 hb
    rw [Text.allBlank, List.all_eq_false]
    have hmem : first ∈ Text.lines script.toList := by
      rw [he]
      exact List.mem_cons_self
    exact ⟨c, Text.mem_of_mem_lines hmem hc, hcb⟩
  have ends : script.toList.getLast? = some '\n' := by
    obtain ⟨front, c, he, _⟩ := h.ends
    rw [he]
    simp
  have lines : checkLines 1 (Text.lines script.toList) = .ok () := by
    apply checkLines_ok 1 ?_ h.trimmed ?_ ?_ h.filled
    · intro l hl hm
      exact ht (Text.mem_of_mem_lines hl hm)
    · intro l hl
      cases hb : isBlankLine l with
      | true =>
        rw [blankLine l hl hb]
        rfl
      | false =>
        obtain ⟨depth, content, rfl, hc⟩ := h.indented l hl hb
        rw [indentOf_indentation hc]
        omega
    · intro l hl hb
      rw [blankLine l hl hb]
      rfl
  simp [checkLayout, notBlank, ends, lines]

end PageHarvest.Script
