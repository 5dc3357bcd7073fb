import Mathlib.Tactic.SplitIfs
import PageHarvest.Proofs.Python.Lexeme

namespace PageHarvest.Python

def linesOf : List Lexeme → List (List Lexeme)
  | [] => [[]]
  | .lineEnd :: rest => [] :: linesOf rest
  | x :: rest =>
    match linesOf rest with
    | [] => [[x]]
    | line :: lines => (x :: line) :: lines

/-- A word is a name unless it starts as a number does. -/
def isName (word : List Char) : Bool :=
  word.head?.any (!·.isDigit)

/-- The names among some lexemes but for attributes; `dotted` tells whether a dot stands before. -/
def plainNames (dotted : Bool) : List Lexeme → List (List Char)
  | [] => []
  | .word w :: rest =>
    if dotted || !isName w then plainNames false rest else w :: plainNames false rest
  | .mark c :: rest => plainNames (c == '.') rest
  | _ :: rest => plainNames false rest

/-- The expressions in the holes of a formatted literal. Two opening braces are one as text. -/
def holes : Option (List Char) → List Char → List (List Char)
  | _, [] => []
  | none, '\x7b' :: '\x7b' :: s => holes none s
  | none, '\x7b' :: s => holes (some []) s
  | none, _ :: s => holes none s
  | some e, '\x7d' :: s => e.reverse :: holes none s
  | some e, c :: s => holes (some (c :: e)) s

def namesIn (expression : List Char) : List (List Char) :=
  match scan (.code []) expression with
  | some (p, lexemes) => plainNames false (lexemes ++ (lastLexemes p).getD [])
  | none => []

def holeNames : Lexeme → List (List Char)
  | .literal true _ body => (holes none body).flatMap namesIn
  | _ => []

/-- The names among some lexemes, those in the holes of literals included. -/
def namesOf (lexemes : List Lexeme) : List (List Char) :=
  plainNames false lexemes ++ lexemes.flatMap holeNames

def importWord : List Char := ['i', 'm', 'p', 'o', 'r', 't']

def fromWord : List Char := ['f', 'r', 'o', 'm']

def importedNames : List Lexeme → List (List Char)
  | .word w :: rest =>
    if w = importWord then plainNames false rest
    else if w = fromWord then
      plainNames false ((rest.dropWhile (· ≠ .word importWord)).drop 1)
    else []
  | _ => []

def unindented (line : List Lexeme) : List Lexeme :=
  line.dropWhile (· = .mark ' ')

def assignedName? : List Lexeme → Option (List Char)
  | .word w :: rest =>
    match rest.dropWhile (· = .mark ' ') with
    | .mark '=' :: .mark '=' :: _ => none
    | .mark '=' :: _ => some w
    | _ => none
  | _ => none

/--
The names that a line binds. At the margin it binds what it imports, which is under no other name,
and what it assigns; deeper lines bind nothing here.
-/
def boundNames (line : List Lexeme) : List (List Char) :=
  importedNames line ++ (assignedName? line).toList

/-- The names that a line uses. An import uses none, and an assignment not the one it assigns. -/
def usedNames (line : List Lexeme) : List (List Char) :=
  if !(importedNames line).isEmpty then []
  else if (assignedName? line).isSome then namesOf line.tail
  else namesOf line

theorem linesOf_append {line : List Lexeme} (h : .lineEnd ∉ line) (rest : List Lexeme) :
    linesOf (line ++ .lineEnd :: rest) = line :: linesOf rest := by
  induction line with
  | nil => rfl
  | cons x line ih =>
    rw [List.mem_cons, not_or] at h
    rw [List.cons_append, linesOf, ih h.2]
    exact fun he => h.1 he.symm

theorem linesOf_flatMap {lines : List (List Lexeme)} (h : ∀ line ∈ lines, .lineEnd ∉ line) :
    linesOf (lines.flatMap (· ++ [.lineEnd])) = lines ++ [[]] := by
  induction lines with
  | nil => rfl
  | cons line lines ih =>
    rw [List.forall_mem_cons] at h
    rw [List.flatMap_cons, List.append_assoc, List.singleton_append, linesOf_append h.1, ih h.2]
    rfl

theorem namesOf_indented (n : Nat) (line : List Lexeme) :
    namesOf (List.replicate n (.mark ' ') ++ line) = namesOf line := by
  induction n with
  | zero => rfl
  | succ n ih => exact ih

theorem unindented_indented (n : Nat) (line : List Lexeme) :
    unindented (List.replicate n (.mark ' ') ++ line) = unindented line := by
  apply List.dropWhile_append_of_pos
  intro x hx
  simp [List.eq_of_mem_replicate hx]

theorem lineEnd_not_mem_wordLexemes (word : List Char) : .lineEnd ∉ wordLexemes word := by
  cases word <;> simp [wordLexemes]

theorem lineEnd_not_mem_codeStep {word : List Char} {c : Char} {q : Place} {lexemes : List Lexeme}
    (h : codeStep word c = some (q, lexemes)) (hc : c ≠ '\n') : .lineEnd ∉ lexemes := by
  have hword := lineEnd_not_mem_wordLexemes word
  unfold codeStep at h
  split_ifs at h with _ _ _ hn
  · obtain ⟨-, rfl⟩ := Prod.mk.inj (Option.some.inj h)
    exact List.not_mem_nil
  · obtain ⟨p, -, hp⟩ := Option.map_eq_some_iff.1 h
    obtain ⟨-, rfl⟩ := Prod.mk.inj hp
    exact List.not_mem_nil
  · obtain ⟨-, rfl⟩ := Prod.mk.inj (Option.some.inj h)
    exact hword
  · exact (hc (eq_of_beq hn)).elim
  · obtain ⟨-, rfl⟩ := Prod.mk.inj (Option.some.inj h)
    simpa using hword

theorem lineEnd_not_mem_step {p q : Place} {c : Char} {lexemes : List Lexeme}
    (h : step p c = some (q, lexemes)) (hc : c ≠ '\n') : .lineEnd ∉ lexemes := by
  cases p with
  | code word => exact lineEnd_not_mem_codeStep h hc
  | inside formatted quote body =>
    simp only [step] at h
    split_ifs at h <;> obtain ⟨-, rfl⟩ := Prod.mk.inj (Option.some.inj h) <;> simp
  | escape formatted quote body =>
    simp only [step] at h
    split_ifs at h
    obtain ⟨-, rfl⟩ := Prod.mk.inj (Option.some.inj h)
    exact List.not_mem_nil
  | closed =>
    simp only [step] at h
    split_ifs at h
    exact lineEnd_not_mem_codeStep h hc
  | comment text =>
    simp only [step, beq_iff_eq, if_neg hc] at h
    split_ifs at h
    obtain ⟨-, rfl⟩ := Prod.mk.inj (Option.some.inj h)
    exact List.not_mem_nil

theorem lineEnd_not_mem_scan {p q : Place} {s : List Char} {lexemes : List Lexeme}
    (h : scan p s = some (q, lexemes)) (hs : '\n' ∉ s) : .lineEnd ∉ lexemes := by
  induction s generalizing p lexemes with
  | nil =>
    obtain ⟨-, rfl⟩ := Prod.mk.inj (Option.some.inj h)
    exact List.not_mem_nil
  | cons c s ih =>
    rw [List.mem_cons, not_or] at hs
    simp only [scan, Option.bind_eq_bind, Option.bind_eq_some_iff, Option.pure_def,
      Option.some.injEq] at h
    obtain ⟨⟨r, before⟩, hstep, ⟨r', behind⟩, hrest, he⟩ := h
    obtain ⟨rfl, rfl⟩ := Prod.mk.inj he
    rw [List.mem_append, not_or]
    exact ⟨lineEnd_not_mem_step hstep fun hc => hs.1 hc.symm, ih hrest hs.2⟩

end PageHarvest.Python
