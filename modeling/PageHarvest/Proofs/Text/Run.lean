import Mathlib.Data.List.TakeWhile

namespace PageHarvest.Text

section items

variable {α : Type} {p : α → Bool} {run rest : List α}

theorem takeWhile_append_of_boundary (inside : ∀ x ∈ run, p x = true)
    (boundary : ∀ x ∈ rest.head?, p x = false) : (run ++ rest).takeWhile p = run := by
  rw [List.takeWhile_append_of_pos inside]
  cases rest with
  | nil => simp
  | cons x rest => simp [boundary x rfl]

theorem dropWhile_append_of_boundary (inside : ∀ x ∈ run, p x = true)
    (boundary : ∀ x ∈ rest.head?, p x = false) : (run ++ rest).dropWhile p = rest := by
  rw [List.dropWhile_append_of_pos inside]
  cases rest with
  | nil => rfl
  | cons x rest => simp [boundary x rfl]

end items

/-- In front of `rest`, `run` holds only characters with `p`, and the next one is without it. -/
structure WholeRun (p : Char → Bool) (run rest : List Char) : Prop where
  inside : ∀ c ∈ run, p c = true
  boundary : ∀ c ∈ rest.head?, p c = false

variable {p : Char → Bool} {run rest run' rest' : List Char}

theorem wholeRun_takeWhile (p : Char → Bool) (s : List Char) :
    WholeRun p (s.takeWhile p) (s.dropWhile p) where
  inside _ hc := List.mem_takeWhile_imp hc
  boundary c hc := by
    have hn : s.dropWhile p ≠ [] := by
      intro h
      rw [h] at hc
      cases hc
    have hf := List.head_dropWhile_not p hn
    rwa [List.head_of_mem_head? hc] at hf

theorem WholeRun.takeWhile_eq (h : WholeRun p run rest) : (run ++ rest).takeWhile p = run :=
  takeWhile_append_of_boundary h.inside h.boundary

theorem WholeRun.dropWhile_eq (h : WholeRun p run rest) : (run ++ rest).dropWhile p = rest :=
  dropWhile_append_of_boundary h.inside h.boundary

theorem WholeRun.unique (h : WholeRun p run rest) (h' : WholeRun p run' rest')
    (he : run ++ rest = run' ++ rest') : run = run' ∧ rest = rest' := by
  constructor
  · rw [← h.takeWhile_eq, he, h'.takeWhile_eq]
  · rw [← h.dropWhile_eq, he, h'.dropWhile_eq]

end PageHarvest.Text
