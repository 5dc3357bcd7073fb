import PageHarvest.Proofs.Script.Lexing
import PageHarvest.Proofs.Text.Lines

namespace PageHarvest.Script

open Python

namespace Row

def line (r : Row) : List Char :=
  Writer.indentation r.depth ++ r.content

theorem flatMap_chars (rows : List Row) :
    rows.flatMap chars = (rows.map line).flatMap (· ++ ['\n']) := by
  rw [List.flatMap_map]
  rfl

theorem endsLine_of_mem_content {r : Row} (h : r.isTidy = true) {c : Char} (hc : c ∈ r.content) :
    endsLine c = false := by
  cases r with
  | gap => cases hc
  | comment depth text =>
    obtain ⟨said, he, hsaid⟩ := content_comment depth text
    rw [he, List.mem_cons] at hc
    rcases hc with rfl | hc
    · rfl
    · rcases hsaid c hc with rfl | hm
      · rfl
      · simpa using List.all_eq_true.1 h c hm
  | code depth pieces =>
    simp only [isTidy, Bool.and_eq_true] at h
    exact endsLine_of_mem_lineChars h.2 hc

theorem endsLine_of_mem_line {r : Row} (h : r.isTidy = true) {c : Char} (hc : c ∈ r.line) :
    endsLine c = false := by
  rcases List.mem_append.1 hc with hc | hc
  · rw [List.eq_of_mem_replicate hc]
    rfl
  · exact endsLine_of_mem_content h hc

end Row

theorem mem_rowsAll {script : List Statement} {depth : Nat} {r : Row} :
    r ∈ rowsAll depth script ↔ ∃ s ∈ script, r ∈ s.rows depth := by
  induction script with
  | nil => simp [rowsAll]
  | cons t script ih => simp [rowsAll, ih]

theorem lines_render {script : List Statement} (ht : ∀ r ∈ rowsAll 0 script, r.isTidy = true)
    (hne : ∃ r ∈ rowsAll 0 script, r.isGap = false) :
    Text.lines (render script).toList = (settled (rowsAll 0 script)).map Row.line := by
  rw [render_eq_of_isTidy ht hne, Row.flatMap_chars, Text.lines_flatMap_line]
  intro l hl
  obtain ⟨r, hr, rfl⟩ := List.mem_map.1 hl
  have hends := fun {c : Char} => Row.endsLine_of_mem_line (c := c) (ht r (mem_of_mem_settled hr))
  constructor <;> intro hm <;> cases hends hm

theorem mem_settled {rows : List Row} {r : Row} (h : r ∈ rows) (hg : r.isGap = false) :
    r ∈ settled rows := by
  have hm : r ∈ (settled rows).filter (!·.isGap) := by
    rw [filter_settled]
    exact List.mem_filter.2 ⟨h, by simp [hg]⟩
  exact (List.mem_filter.1 hm).1

end PageHarvest.Script
