import PageHarvest.Proofs.Python.Addresses
import PageHarvest.Proofs.Script.Function
import PageHarvest.Proofs.Script.Kinds

namespace PageHarvest

namespace Python

end Python

namespace Script

open Python

-- a line is evaluated character by character
set_option maxRecDepth 2000

/-- Words whose mentions are followed. -/
inductive Watched
  | extractPage
  | urljoin
  /-- What opens pages and saves them. -/
  | work
deriving DecidableEq

namespace Watched

def words : Watched → List (List Char)
  | extractPage => [['e', 'x', 't', 'r', 'a', 'c', 't', '_', 'p', 'a', 'g', 'e']]
  | urljoin => [['u', 'r', 'l', 'j', 'o', 'i', 'n']]
  | work =>
    [ ['s', 'a', 'v', 'e', '_', 'p', 'a', 'g', 'e'], ['f', 'e', 't', 'c', 'h'], ['g', 'e', 't'],
      ['g', 'o', 't', 'o'], ['p', 'a', 'g', 'e', '_', 'u', 'r', 'l', 's'] ]

def shows (w : Watched) (line : List Char) : Bool :=
  showsAny w.words line

end Watched

variable {w : Watched}

/-- Blanks in front make no difference. -/
theorem shows_content {r : Row} (h : r.isTidy = true) : w.shows r.content = w.shows r.line := by
  have code : lineCode r.line = List.replicate (4 * r.depth) (.mark ' ') ++ lineCode r.content :=
    Row.lexemes_eq h
  have blanks (n : Nat) :
      (List.replicate n (Lexeme.mark ' ')).any (fun x => w.words.any x.shows) = false := by
    rw [List.any_eq_false]
    intro x hx
    rw [List.eq_of_mem_replicate hx]
    simp [Lexeme.shows]
  simp only [Watched.shows, showsAny, code, List.any_append, blanks, Bool.false_or]

/-- What literals hold makes none either. -/
theorem shows_line {r : Row} (h : r.isTidy = true) : w.shows r.line = w.shows r.bare.content := by
  have code : lineCode r.bare.line = lineCode r.line := Row.lexemes_bare h
  rw [shows_content (Row.isTidy_bare h)]
  simp only [Watched.shows, showsAny, code]

mutual

def Statement.isFree (w : Watched) : Statement → Bool
  | .line pieces => !w.shows (bareChars pieces)
  | .comment _ | .blank => true
  | .block header body => !w.shows (bareChars header) && allFree w body

def allFree (w : Watched) : List Statement → Bool
  | [] => true
  | s :: rest => s.isFree w && allFree w rest

end

theorem shows_code {depth : Nat} {pieces : List Piece}
    (h : (Row.code depth pieces).isTidy = true) :
    w.shows (Row.code depth pieces).line = w.shows (bareChars pieces) :=
  shows_line h

theorem shows_gap : w.shows Row.gap.line = false := by
  rfl

theorem shows_comment {depth : Nat} {text : List Char}
    (h : (Row.comment depth text).isTidy = true) :
    w.shows (Row.comment depth text).line = false := by
  rw [shows_line h]
  cases w <;> rfl

theorem shows_pass (w : Watched) (depth : Nat) :
    w.shows (Row.code depth [.code "pass"]).line = false := by
  rw [shows_code (isTidy_pass depth)]
  cases w <;> rfl

mutual

theorem shows_rows {s : Statement} (ht : s.isTidy = true) (hf : s.isFree w = true)
    {depth : Nat} : ∀ r ∈ s.rows depth, w.shows r.line = false := by
  cases s with
  | line pieces =>
    rw [Statement.isFree, Bool.not_eq_true'] at hf
    intro r hr
    rw [List.mem_singleton.1 hr, shows_code ht, hf]
  | comment text =>
    intro r hr
    rw [Statement.rows, commentRows_of_isTidy ht, List.mem_singleton] at hr
    simp only [Statement.isTidy, Bool.and_eq_true] at ht
    rw [hr, shows_comment ht.2]
  | blank =>
    intro r hr
    rw [List.mem_singleton.1 hr, shows_gap]
  | block header body =>
    simp only [Statement.isTidy, Bool.and_eq_true] at ht
    simp only [Statement.isFree, Bool.and_eq_true, Bool.not_eq_true'] at hf
    have hh : (Row.code depth header).isTidy = true := by simpa [Row.isTidy] using ht.1
    have first : w.shows (Row.code depth header).line = false := by
      rw [shows_code hh, hf.1]
    cases body with
    | nil =>
      rw [Statement.rows, List.forall_mem_cons, List.forall_mem_singleton]
      exact ⟨first, shows_pass w (depth + 1)⟩
    | cons s rest =>
      rw [Statement.rows, List.forall_mem_cons]
      exact ⟨first, shows_rowsAll ht.2 hf.2⟩

theorem shows_rowsAll {script : List Statement} (ht : allTidy script = true)
    (hf : allFree w script = true) {depth : Nat} :
    ∀ r ∈ rowsAll depth script, w.shows r.line = false := by
  cases script with
  | nil => exact fun _ hr => nomatch hr
  | cons s rest =>
    simp only [allTidy, Bool.and_eq_true] at ht
    simp only [allFree, Bool.and_eq_true] at hf
    rw [rowsAll, List.forall_mem_append]
    exact ⟨shows_rows ht.1 hf.1, shows_rowsAll ht.2 hf.2⟩

end

@[simp] theorem isFree_comment (text : String) : (Statement.comment text).isFree w = true := by
  rw [Statement.isFree]

@[simp] theorem isFree_blank : Statement.blank.isFree w = true := by
  rw [Statement.isFree]

@[simp] theorem isFree_block (header : List Piece) (body : List Statement) :
    (Statement.block header body).isFree w =
      (!w.shows (bareChars header) && allFree w body) := by
  rw [Statement.isFree]

namespace Frame

end Frame

section frames

variable {j : Job} (h : w = .urljoin → resolvesLinks j.extraction (baseKnown j) = false)

include h

end frames

end Script

namespace Job

open Script Python

variable {j : Job}
  (h : j.plan = .fetchLive ∨ j.plan = .readSaved →
    resolvesLinks j.extraction (baseKnown j) = false)

include h

end Job
end PageHarvest
