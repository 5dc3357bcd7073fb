import PageHarvest.Proofs.Python.Names
import PageHarvest.Proofs.Script.Lines
import PageHarvest.Proofs.Script.Shape

namespace PageHarvest.Script

open Python

def codeOf (s : List Char) : List Lexeme :=
  ((scan (.code []) s).map fun x => x.2.map Lexeme.bare).getD []

theorem codeOf_of_scan {p : Place} {s : List Char} {lexemes : List Lexeme}
    (h : scan (.code []) s = some (p, lexemes)) : codeOf s = lexemes.map Lexeme.bare := by
  rw [codeOf, h]
  rfl

def lineCode (s : List Char) : List Lexeme :=
  (codeOf (s ++ ['\n'])).dropLast

theorem scan_lineEnd_eq {p : Place} {lexemes : List Lexeme}
    (h : scan p ['\n'] = some (.code [], lexemes)) :
    ∃ last, lexemes = last ++ [.lineEnd] ∧ .lineEnd ∉ last := by
  cases p with
  | code word =>
    rw [scan_lineEnd] at h
    obtain ⟨-, rfl⟩ := Prod.mk.inj (Option.some.inj h)
    exact ⟨_, rfl, lineEnd_not_mem_wordLexemes word⟩
  | inside formatted quote body =>
    simp only [scan, step] at h
    split_ifs at h <;> cases h
  | escape formatted quote body => cases h
  | closed =>
    rw [scan_closed rfl, scan_lineEnd] at h
    obtain ⟨-, rfl⟩ := Prod.mk.inj (Option.some.inj h)
    exact ⟨_, rfl, List.not_mem_nil⟩
  | comment text =>
    obtain ⟨-, rfl⟩ := Prod.mk.inj (Option.some.inj h)
    exact ⟨[.comment text.reverse], rfl, by simp⟩

theorem lineEnd_mem_map_bare {lexemes : List Lexeme} :
    .lineEnd ∈ lexemes.map Lexeme.bare ↔ .lineEnd ∈ lexemes := by
  have hb (x : Lexeme) : x.bare = .lineEnd ↔ x = .lineEnd := by
    cases x with
    | literal formatted quote body => cases formatted <;> simp [Lexeme.bare]
    | _ => simp [Lexeme.bare]
  simp [List.mem_map, hb]

theorem codeOf_line {s : List Char} (hs : '\n' ∉ s) {lexemes : List Lexeme}
    (h : scan (.code []) (s ++ ['\n']) = some (.code [], lexemes)) :
    lexemes.map Lexeme.bare = lineCode s ++ [.lineEnd] ∧ .lineEnd ∉ lineCode s := by
  have hcode := codeOf_of_scan h
  rw [scan_append, Option.bind_eq_some_iff] at h
  obtain ⟨⟨q, before⟩, hline, hrest⟩ := h
  obtain ⟨⟨r, behind⟩, hend, he⟩ := Option.map_eq_some_iff.1 hrest
  obtain ⟨rfl, rfl⟩ := Prod.mk.inj he
  obtain ⟨last, rfl, hlast⟩ := scan_lineEnd_eq hend
  have hsplit : (before ++ (last ++ [Lexeme.lineEnd])).map Lexeme.bare =
      (before ++ last).map Lexeme.bare ++ [.lineEnd] := by
    simp [Lexeme.bare]
  rw [lineCode, hcode, hsplit, List.dropLast_concat, lineEnd_mem_map_bare, List.mem_append, not_or]
  exact ⟨rfl, lineEnd_not_mem_scan hline hs, hlast⟩

namespace Row

def lexemes (r : Row) : List Lexeme :=
  lineCode r.line

theorem chars_eq (r : Row) : r.chars = r.line ++ ['\n'] := by
  simp [chars, line]

theorem sameCode_chars {r s : Row} (hr : r.isTidy = true) (hs : s.isTidy = true)
    (he : r.bare = s.bare) : SameCode (.code []) (.code []) r.chars s.chars := by
  have h : SameCode (.code []) (.code []) ([r].flatMap Row.chars) ([s].flatMap Row.chars) :=
    sameCode_rows (by simpa using hr) (by simpa using hs) (by simpa using he)
  simpa using h

theorem scan_chars {r : Row} (h : r.isTidy = true) :
    ∃ xs, scan (.code []) r.chars = some (.code [], xs) ∧
      xs.map Lexeme.bare = r.lexemes ++ [.lineEnd] ∧ .lineEnd ∉ r.lexemes := by
  obtain ⟨xs, ys, hscan, _, _⟩ := sameCode_chars h h rfl
  rw [chars_eq] at hscan ⊢
  have hline : '\n' ∉ r.line := fun hm => by cases endsLine_of_mem_line h hm
  exact ⟨xs, hscan, codeOf_line hline hscan⟩

theorem fits_bare {before : Edge} {p : Piece} (h : p.fits before = true) :
    p.bare.fits before = true ∧ p.bare.edge = p.edge := by
  cases p with
  | code text => exact ⟨h, rfl⟩
  | quoted value => exact ⟨h, rfl⟩
  | list values => exact ⟨rfl, rfl⟩
  | interpolated parts => exact ⟨h, rfl⟩

theorem fit_bare {before : Edge} {pieces : List Piece} (h : fit before pieces = true) :
    fit before (pieces.map Piece.bare) = true := by
  induction pieces generalizing before with
  | nil => rfl
  | cons p pieces ih =>
    simp only [fit, Bool.and_eq_true] at h
    obtain ⟨hp, he⟩ := fits_bare h.1
    rw [List.map_cons, fit, hp, he, ih h.2]
    rfl

theorem isTidy_bare {r : Row} (h : r.isTidy = true) : r.bare.isTidy = true := by
  cases r with
  | gap => rfl
  | comment => rfl
  | code depth pieces =>
    simp only [isTidy, bare, Bool.and_eq_true] at h ⊢
    exact ⟨by simpa using h.1, fit_bare h.2⟩

theorem bare_bare (r : Row) : r.bare.bare = r.bare := by
  cases r with
  | gap => rfl
  | comment => rfl
  | code depth pieces =>
    have hp (p : Piece) : p.bare.bare = p.bare := by
      cases p <;> simp [Piece.bare]
    simp [bare, hp]

/-- What a row adds to the code does not depend on its literals. -/
theorem lexemes_bare {r : Row} (h : r.isTidy = true) : r.bare.lexemes = r.lexemes := by
  obtain ⟨xs, ys, hx, hy, he⟩ := sameCode_chars (isTidy_bare h) h r.bare_bare
  rw [lexemes, lexemes, lineCode, lineCode, ← chars_eq, ← chars_eq, codeOf_of_scan hx,
    codeOf_of_scan hy, he]

theorem lexemes_eq {r : Row} (h : r.isTidy = true) :
    r.lexemes = List.replicate (4 * r.depth) (.mark ' ') ++ lineCode r.content := by
  obtain ⟨xs, ys, hx, _, _⟩ := sameCode_content h h rfl
  have hcontent : '\n' ∉ r.content := fun hm => by cases endsLine_of_mem_content h hm
  have hall := scan_append_of_eq (scan_indentation r.depth) hx
  rw [← List.append_assoc] at hall
  rw [lexemes, lineCode, line, codeOf_of_scan hall, List.map_append, (codeOf_line hcontent hx).1,
    ← List.append_assoc, List.dropLast_concat, List.map_replicate]
  rfl

end Row

theorem scan_rows {rows : List Row} (ht : ∀ r ∈ rows, r.isTidy = true) :
    ∃ xs, scan (.code []) (rows.flatMap Row.chars) = some (.code [], xs) ∧
      xs.map Lexeme.bare = (rows.map Row.lexemes).flatMap (· ++ [.lineEnd]) := by
  induction rows with
  | nil => exact ⟨[], rfl, rfl⟩
  | cons r rows ih =>
    rw [List.forall_mem_cons] at ht
    obtain ⟨xs, hx, hcode, _⟩ := Row.scan_chars ht.1
    obtain ⟨ys, hy, hrest⟩ := ih ht.2
    refine ⟨xs ++ ys, scan_append_of_eq hx hy, ?_⟩
    rw [List.map_append, hcode, hrest]
    rfl

theorem skeleton_render {script : List Statement} (ht : ∀ r ∈ rowsAll 0 script, r.isTidy = true)
    (hne : ∃ r ∈ rowsAll 0 script, r.isGap = false) :
    ∃ code, skeleton (render script) = some code ∧
      linesOf code = (settled (rowsAll 0 script)).map Row.lexemes ++ [[]] := by
  have tidy : ∀ r ∈ settled (rowsAll 0 script), r.isTidy = true :=
    fun r hr => ht r (mem_of_mem_settled hr)
  obtain ⟨xs, hscan, hcode⟩ := scan_rows tidy
  refine ⟨xs.map Lexeme.bare, ?_, ?_⟩
  · simp [skeleton, lex, render_eq_of_isTidy ht hne, hscan, lastLexemes, wordLexemes]
  · rw [hcode]
    apply linesOf_flatMap
    intro line hline
    obtain ⟨r, hr, rfl⟩ := List.mem_map.1 hline
    obtain ⟨_, _, _, hends⟩ := Row.scan_chars (tidy r hr)
    exact hends

end PageHarvest.Script
