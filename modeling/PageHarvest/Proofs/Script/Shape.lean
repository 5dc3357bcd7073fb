import PageHarvest.Proofs.Script.Lexing
import PageHarvest.Proofs.Text.Blank

namespace PageHarvest.Script

open Python

mutual

def Statement.isTidy : Statement → Bool
  | .line pieces => !pieces.isEmpty && fit .mark pieces
  | .comment text => !text.toList.isEmpty && text.toList.all (!endsLine ·)
  | .blank => true
  | .block header body => !header.isEmpty && fit .mark header && allTidy body

def allTidy : List Statement → Bool
  | [] => true
  | s :: rest => s.isTidy && allTidy rest

end

mutual

/-- The statement without what its literals hold and its comments say. -/
def Statement.bare : Statement → Statement
  | .line pieces => .line (pieces.map Piece.bare)
  | .comment _ => .comment ""
  | .blank => .blank
  | .block header body => .block (header.map Piece.bare) (allBare body)

def allBare : List Statement → List Statement
  | [] => []
  | s :: rest => s.bare :: allBare rest

end

theorem allTidy_append (a b : List Statement) : allTidy (a ++ b) = (allTidy a && allTidy b) := by
  induction a with
  | nil => rfl
  | cons s a ih => simp only [List.cons_append, allTidy, ih, Bool.and_assoc]

theorem allTidy_iff {script : List Statement} :
    allTidy script = true ↔ ∀ s ∈ script, s.isTidy = true := by
  induction script with
  | nil => simp [allTidy]
  | cons s script ih => simp [allTidy, ih]

theorem allBare_eq_map (script : List Statement) : allBare script = script.map Statement.bare := by
  induction script with
  | nil => rfl
  | cons s script ih => rw [allBare, ih, List.map_cons]

theorem commentTexts_eq_singleton {text : List Char} (hne : text ≠ [])
    (h : ∀ c ∈ text, endsLine c = false) : commentTexts text = [text] := by
  have hf : Text.fields (· == '\n') text = [text] := by
    apply Text.fields_eq_singleton
    intro c hc
    have := h c hc
    simp only [endsLine, Bool.or_eq_false_iff] at this
    exact this.1
  simp [commentTexts, Text.lines, hf, hne]

theorem commentRows_of_isTidy {text : String} (h : (Statement.comment text).isTidy = true)
    (depth : Nat) : commentRows depth text = [.comment depth text.toList] := by
  simp only [Statement.isTidy, Bool.and_eq_true, Bool.not_eq_true', List.isEmpty_eq_false_iff,
    List.all_eq_true] at h
  rw [commentRows, commentTexts_eq_singleton h.1 h.2, List.map_singleton]

theorem isTidy_pass (depth : Nat) : (Row.code depth [.code "pass"]).isTidy = true := by
  simp only [Row.isTidy]
  decide +kernel

mutual

theorem isTidy_of_mem_rows {s : Statement} (h : s.isTidy = true) {depth : Nat} :
    ∀ r ∈ s.rows depth, r.isTidy = true := by
  cases s with
  | line pieces =>
    simp only [Statement.rows, List.mem_singleton, forall_eq]
    exact h
  | comment text =>
    rw [Statement.rows, commentRows_of_isTidy h]
    simp only [Statement.isTidy, Bool.and_eq_true] at h
    simpa [Row.isTidy] using h.2
  | blank => simp [Statement.rows, Row.isTidy]
  | block header body =>
    simp only [Statement.isTidy, Bool.and_eq_true] at h
    have hh : (Row.code depth header).isTidy = true := by simpa [Row.isTidy] using h.1
    cases body with
    | nil => simpa [Statement.rows, hh] using isTidy_pass (depth + 1)
    | cons s rest =>
      rw [Statement.rows, List.forall_mem_cons]
      exact ⟨hh, isTidy_of_mem_rowsAll h.2⟩

theorem isTidy_of_mem_rowsAll {script : List Statement} (h : allTidy script = true) {depth : Nat} :
    ∀ r ∈ rowsAll depth script, r.isTidy = true := by
  cases script with
  | nil => simp [rowsAll]
  | cons s rest =>
    simp only [allTidy, Bool.and_eq_true] at h
    rw [rowsAll, List.forall_mem_append]
    exact ⟨isTidy_of_mem_rows h.1, isTidy_of_mem_rowsAll h.2⟩

end

mutual

theorem bare_rows {s : Statement} (h : s.isTidy = true) (depth : Nat) :
    (s.rows depth).map Row.bare = s.bare.rows depth := by
  cases s with
  | line pieces => rfl
  | comment text =>
    rw [Statement.rows, commentRows_of_isTidy h]
    rfl
  | blank => rfl
  | block header body =>
    simp only [Statement.isTidy, Bool.and_eq_true] at h
    cases body with
    | nil => rfl
    | cons s rest =>
      have hb := bare_rowsAll h.2 (depth + 1)
      rw [Statement.rows, List.map_cons, hb]
      rfl

theorem bare_rowsAll {script : List Statement} (h : allTidy script = true) (depth : Nat) :
    (rowsAll depth script).map Row.bare = rowsAll depth (allBare script) := by
  cases script with
  | nil => rfl
  | cons s rest =>
    simp only [allTidy, Bool.and_eq_true] at h
    rw [rowsAll, List.map_append, bare_rows h.1, bare_rowsAll h.2]
    rfl

end

/-- Tidy scripts that differ only in what their literals hold and their comments say have the same
code. -/
theorem skeleton_render_eq_of_bare {a b : List Statement} (ha : allTidy a = true)
    (hb : allTidy b = true) (he : a.map Statement.bare = b.map Statement.bare)
    (hna : ∃ r ∈ rowsAll 0 a, r.isGap = false) (hnb : ∃ r ∈ rowsAll 0 b, r.isGap = false) :
    ∃ lexemes, skeleton (render a) = some lexemes ∧ skeleton (render b) = some lexemes := by
  apply skeleton_render_eq (isTidy_of_mem_rowsAll ha) (isTidy_of_mem_rowsAll hb) ?_ hna hnb
  rw [bare_rowsAll ha, bare_rowsAll hb, allBare_eq_map, allBare_eq_map, he]

end PageHarvest.Script
