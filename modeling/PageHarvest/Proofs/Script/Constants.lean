import Mathlib.Tactic.Ring
import PageHarvest.Proofs.Python.Value
import PageHarvest.Proofs.Script.Kinds

namespace PageHarvest

def Python.constant? (name program : String) : Option Value := do
  let (line, _) ← Text.only (binds name) (Text.lines program.toList)
  value? (← line.dropPrefix? (name.toList ++ [' ', '=', ' ']))

namespace Network

end Network

namespace Script

open Python

/-- The start of a line that gives a name its value. -/
def Name.assigning (n : Name) : List Char :=
  n.word ++ [' ', '=', ' ']

theorem binds_line {r : Row} (ht : r.isTidy = true) {n : Name} {written : List Char}
    (hl : r.line = n.assigning ++ written) : binds n.text r.line = true := by
  obtain ⟨xs, hscan, hcode, -⟩ := Row.scan_chars ht
  have start : scan (.code []) n.assigning =
      some (.code [], [.word n.word, .mark ' ', .mark '=', .mark ' ']) := by
    cases n <;> rfl
  rw [Row.chars_eq, hl, List.append_assoc, scan_append, start, Option.bind_some,
    Option.map_eq_some_iff] at hscan
  obtain ⟨⟨q, behind⟩, -, he⟩ := hscan
  obtain ⟨-, rfl⟩ := Prod.mk.inj he
  -- the line ends behind the blank, so its end is among what follows
  obtain ⟨rest, hrest⟩ : ∃ rest, r.lexemes =
      .word n.word :: .mark ' ' :: .mark '=' :: .mark ' ' :: rest := by
    rcases List.eq_nil_or_concat behind with rfl | ⟨front, x, rfl⟩
    · have last := congrArg List.getLast? hcode
      simp [Lexeme.bare] at last
    · rw [List.concat_eq_append, ← List.append_assoc, List.map_append] at hcode
      have same := (List.append_inj' hcode rfl).1
      exact ⟨front.map Lexeme.bare, same.symm⟩
  have assigned : assignedName? r.lexemes = some n.word := by
    rw [hrest]
    rfl
  have bound : n.text.toList ∈ boundNames r.lexemes := by
    rw [boundNames, assigned, n.toList_text]
    exact List.mem_append_right _ (List.mem_singleton_self _)
  exact List.contains_iff_mem.2 bound

theorem dropPrefix?_append (start rest : List Char) :
    (start ++ rest).dropPrefix? start = some rest :=
  List.dropPrefix?_eq_some_iff.2 ⟨start, rfl, beq_self_eq_true start⟩

end Script

namespace Job

open Script Python

variable {j : Job}

theorem countP_binds_le (h : ∀ reason, j.plan ≠ .guidance reason) (n : Name) :
    (Text.lines j.synthesize.toList).countP (binds n.text) ≤ 1 := by
  have bound := isBound_statements h
  rw [isBound, Bool.and_eq_true, Option.isSome_iff_exists] at bound
  obtain ⟨⟨after, hafter⟩, -⟩ := bound
  rw [(shownBy_binds n).countP_synthesize]
  simpa using bindAll_once hafter n

theorem constant?_synthesize (h : ∀ reason, j.plan ≠ .guidance reason) {n : Name} {name : String}
    (hn : name = n.text) {pieces : List Piece} {written : List Char} {v : Value}
    (hm : .line pieces ∈ j.statements) (hl : lineChars pieces = n.assigning ++ written)
    (hv : value? written = some v) : constant? name j.synthesize = some v := by
  have row : .code 0 pieces ∈ rowsAll 0 j.statements :=
    mem_rowsAll.2 ⟨_, hm, List.mem_singleton_self _⟩
  have line : (Row.code 0 pieces).line = n.assigning ++ written := hl
  have binding := binds_line (isTidy_of_mem_rowsAll j.allTidy_statements _ row) line
  obtain ⟨before, behind, split⟩ := List.append_of_mem (line_mem_synthesize row rfl)
  have once : (before ++ (Row.code 0 pieces).line :: behind).countP (binds n.text) = 1 := by
    have most := countP_binds_le h n
    have least := List.countP_pos_iff.2 ⟨_, line_mem_synthesize row rfl, binding⟩
    rw [← split]
    omega
  have assigning : n.text.toList ++ [' ', '=', ' '] = n.assigning := by
    rw [n.toList_text, Name.assigning]
  rw [constant?, hn, split, Text.only_of_countP binding once, assigning, line]
  simp only [Option.bind_eq_bind, Option.bind_some, dropPrefix?_append, hv]

section opening

variable (h : j.plan.opensPages = true)

include h

theorem planned_of_opensPages : ∀ reason, j.plan ≠ .guidance reason := by
  intro reason he
  rw [he] at h
  cases h

/-- A script that opens pages starts with all constants for it. -/
theorem exists_mem_statements : ∃ clicks,
    ∀ s ∈ networkConstants j.network ++ pageConstants j clicks, s ∈ j.statements := by
  cases hp : j.plan with
  | guidance reason => exact (planned_of_opensPages h reason hp).elim
  | capture engine =>
    refine ⟨j.pagination.usesNextButton, fun s hs => ?_⟩
    simp only [statements, hp, captureScript, List.mem_append] at hs ⊢
    tauto
  | fetchLive =>
    refine ⟨false, fun s hs => ?_⟩
    simp only [statements, hp, fetchScript, List.mem_append] at hs ⊢
    tauto
  | readSaved =>
    rw [hp] at h
    cases h

theorem constant?_proxies (hp : j.network.hasProxies = true) :
    constant? "PROXIES" j.synthesize = some (.list j.network.proxyList) := by
  obtain ⟨clicks, mem⟩ := exists_mem_statements h
  have line : lineChars [.code "PROXIES = ", .list j.network.proxyList] =
      Name.proxies.assigning ++ listLiteral (j.network.proxyList.map String.toList) := by
    simp only [lineChars, List.flatMap_cons, List.flatMap_nil, List.append_nil, Piece.chars]
    rw [Text.toList_of_eq rfl]
    rfl
  have stated : .line [.code "PROXIES = ", .list j.network.proxyList] ∈ j.statements :=
    mem _ (by simp [networkConstants, hp])
  exact constant?_synthesize (n := .proxies) (planned_of_opensPages h) rfl stated line
    (value?_listLiteral _)

end opening

end Job
end PageHarvest
