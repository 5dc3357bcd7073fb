import Mathlib.Data.List.Chain
import PageHarvest.Proofs.Script.Lines
import PageHarvest.Proofs.Script.Shape

namespace PageHarvest.Script

open Python

namespace Piece

def first? : Piece → Option Char
  | code text => text.toList.head?
  | quoted value => some (literalQuote value.toList)
  | list _ => some '['
  | interpolated _ => some 'f'

def last? : Piece → Option Char
  | code text => text.toList.getLast?
  | quoted value => some (literalQuote value.toList)
  | list _ => some ']'
  | interpolated _ => some '"'

theorem head?_chars (p : Piece) : p.chars.head? = p.first? := by
  cases p <;> rfl

theorem getLast?_chars (p : Piece) : p.chars.getLast? = p.last? := by
  cases p with
  | code text => rfl
  | quoted value => simp [chars, literal, last?, List.getLast?_cons]
  | list values => simp [chars, listLiteral, last?, List.getLast?_cons]
  | interpolated parts => simp [chars, last?, List.getLast?_cons]

/-- Whether a piece shows no tab; a literal writes it by its name. -/
def isTabless : Piece → Bool
  | code text => text.toList.all (· != '\t')
  | interpolated parts => parts.all fun p => p.chars.all (· != '\t')
  | _ => true

theorem ne_tab_of_mem_chars {p : Piece} (h : p.isTabless = true) {c : Char} (hc : c ∈ p.chars) :
    c ≠ '\t' := by
  have notControl (h : Text.isControl c = false) : c ≠ '\t' := by
    rintro rfl
    cases h
  cases p with
  | code text => simpa using List.all_eq_true.1 h c hc
  | quoted value => exact notControl (isControl_of_mem_literal hc)
  | list values => exact notControl (isControl_of_mem_listLiteral hc)
  | interpolated parts =>
    simp only [chars, List.cons_append, List.mem_cons, List.mem_append, List.mem_flatMap,
      List.not_mem_nil, or_false] at hc
    rcases hc with rfl | rfl | ⟨part, hp, hc⟩ | rfl
    · decide
    · decide
    · simpa using List.all_eq_true.1 (List.all_eq_true.1 h part hp) c hc
    · decide

end Piece

def firstChar? (pieces : List Piece) : Option Char :=
  pieces.head?.bind Piece.first?

def lastChar? (pieces : List Piece) : Option Char :=
  pieces.getLast?.bind Piece.last?

theorem head?_lineChars {pieces : List Piece} {c : Char} (h : firstChar? pieces = some c) :
    (lineChars pieces).head? = some c := by
  cases pieces with
  | nil => cases h
  | cons p pieces =>
    have hp : p.chars.head? = some c := by rw [p.head?_chars, ← h]; rfl
    rw [lineChars, List.flatMap_cons, List.head?_append, hp]
    rfl

theorem any_head?_lineChars {pieces : List Piece} {p : Char → Bool}
    (h : (firstChar? pieces).any p = true) : (lineChars pieces).head?.any p = true := by
  obtain ⟨c, hc, hp⟩ := (Option.any_eq_true _ _).1 h
  rw [head?_lineChars hc]
  exact hp

theorem getLast?_lineChars {pieces : List Piece} {c : Char} (h : lastChar? pieces = some c) :
    (lineChars pieces).getLast? = some c := by
  rcases List.eq_nil_or_concat pieces with rfl | ⟨front, p, rfl⟩
  · cases h
  · rw [List.concat_eq_append] at h ⊢
    have hp : p.chars.getLast? = some c := by
      rw [p.getLast?_chars, ← h, lastChar?, List.getLast?_concat]
      rfl
    rw [lineChars, List.flatMap_append, List.flatMap_singleton, List.getLast?_append, hp]
    rfl

def startsCode (c : Char) : Bool :=
  !Text.isBlank c && c != '#'

/-- Whether a line that opens no block can end with a character. -/
def endsCode (c : Char) : Bool :=
  !Text.isBlank c && c != ':'

def Statement.isRemark : Statement → Bool
  | .comment _ | .blank => true
  | .line _ | .block _ _ => false

mutual

/--
Whether the lines of a statement keep the layout. Gaps are for the margin only, and tabs, where
they may be at all, are for comments only.
-/
def Statement.isLaid (tabs margin : Bool) : Statement → Bool
  | .line pieces =>
    (firstChar? pieces).any startsCode && (lastChar? pieces).any endsCode &&
      pieces.all Piece.isTabless
  | .comment text =>
    text.toList.getLast?.any (!Text.isBlank ·) && (text.toList.all (· != '\t') || tabs)
  | .blank => margin
  | .block header body =>
    (firstChar? header).any startsCode && lastChar? header == some ':' &&
      header.all Piece.isTabless && (body.isEmpty || !body.all Statement.isRemark) &&
      allLaid tabs false body

def allLaid (tabs margin : Bool) : List Statement → Bool
  | [] => true
  | s :: rest => s.isLaid tabs margin && allLaid tabs margin rest

end

theorem allLaid_append (tabs margin : Bool) (a b : List Statement) :
    allLaid tabs margin (a ++ b) = (allLaid tabs margin a && allLaid tabs margin b) := by
  induction a with
  | nil => rfl
  | cons s a ih => simp only [List.cons_append, allLaid, ih, Bool.and_assoc]

theorem allLaid_iff {tabs margin : Bool} {script : List Statement} :
    allLaid tabs margin script = true ↔ ∀ s ∈ script, s.isLaid tabs margin = true := by
  induction script with
  | nil => simp [allLaid]
  | cons s script ih => simp [allLaid, ih]

namespace Row

def opens : Row → Bool
  | code _ pieces => lastChar? pieces == some ':'
  | _ => false

def isCode : Row → Bool
  | code _ _ => true
  | _ => false

/-- Whether a row has no blank at its ends, no tab and, in its code, no start of a comment. -/
def isLaid (tabs : Bool) : Row → Bool
  | gap => true
  | comment _ text => text.getLast?.any (!Text.isBlank ·) && (text.all (· != '\t') || tabs)
  | code _ pieces =>
    (firstChar? pieces).any startsCode && (lastChar? pieces).any (!Text.isBlank ·) &&
      pieces.all Piece.isTabless

/-- The depth grows by one behind a row that opens a block and nowhere else. -/
def Step (a b : Row) : Prop :=
  b.depth ≤ a.depth ∨ (a.opens = true ∧ b.depth = a.depth + 1)

end Row

def blockOf (opener : Row) (behind : List Row) : List Row :=
  behind.takeWhile fun r => opener.depth < r.depth

def Filled : List Row → Prop
  | [] => True
  | r :: behind => (r.opens = true → ∃ b ∈ blockOf r behind, b.isCode = true) ∧ Filled behind

theorem mem_takeWhile_append {α : Type} {p : α → Bool} {a b : List α} {x : α}
    (h : x ∈ a.takeWhile p) : x ∈ (a ++ b).takeWhile p := by
  rw [List.takeWhile_append]
  split_ifs with hl
  · exact List.mem_append_left _ ((List.takeWhile_prefix p).subset h)
  · exact h

theorem Filled.append {a b : List Row} (ha : Filled a) (hb : Filled b) : Filled (a ++ b) := by
  induction a with
  | nil => exact hb
  | cons r a ih =>
    refine ⟨fun ho => ?_, ih ha.2⟩
    obtain ⟨c, hc, hcode⟩ := ha.1 ho
    exact ⟨c, mem_takeWhile_append hc, hcode⟩

/-- Rows that make whole statements at a depth. -/
structure LaidRows (tabs : Bool) (depth : Nat) (rows : List Row) : Prop where
  laid : ∀ r ∈ rows, r.isLaid tabs = true
  gaps : ∀ r ∈ rows, r.isGap = true → depth = 0
  deep : ∀ r ∈ rows, depth ≤ r.depth
  first : ∀ r ∈ rows.head?, r.depth = depth
  steps : rows.IsChain Row.Step
  filled : Filled rows

namespace LaidRows

variable {tabs : Bool} {depth : Nat}

theorem nil : LaidRows tabs depth [] where
  laid := by simp
  gaps := by simp
  deep := by simp
  first := by simp
  steps := .nil
  filled := trivial

theorem append {a b : List Row} (ha : LaidRows tabs depth a) (hb : LaidRows tabs depth b) :
    LaidRows tabs depth (a ++ b) where
  laid := List.forall_mem_append.2 ⟨ha.laid, hb.laid⟩
  gaps := List.forall_mem_append.2 ⟨ha.gaps, hb.gaps⟩
  deep := List.forall_mem_append.2 ⟨ha.deep, hb.deep⟩
  first := by
    cases a with
    | nil => exact hb.first
    | cons s a => exact ha.first
  steps := by
    refine List.isChain_append.2 ⟨ha.steps, hb.steps, fun r hr s hs => .inl ?_⟩
    rw [hb.first s hs]
    exact ha.deep r (List.mem_of_getLast? hr)
  filled := ha.filled.append hb.filled

theorem single {r : Row} (hl : r.isLaid tabs = true) (hg : r.isGap = true → depth = 0)
    (hd : r.depth = depth) (ho : r.opens = false) : LaidRows tabs depth [r] where
  laid := by simpa using hl
  gaps := by simpa using hg
  deep := by simp [hd]
  first := by simp [hd]
  steps := .singleton r
  filled := ⟨fun h => (Bool.false_ne_true (ho.symm.trans h)).elim, trivial⟩

theorem block {header : List Piece} {body : List Row}
    (hl : (Row.code depth header).isLaid tabs = true) (ho : lastChar? header = some ':')
    (hb : LaidRows tabs (depth + 1) body) (hc : ∃ r ∈ body, r.isCode = true) :
    LaidRows tabs depth (.code depth header :: body) where
  laid := List.forall_mem_cons.2 ⟨hl, hb.laid⟩
  gaps := by
    refine List.forall_mem_cons.2 ⟨fun h => (Bool.false_ne_true h).elim, fun r hr h => ?_⟩
    cases hb.gaps r hr h
  deep := List.forall_mem_cons.2 ⟨Nat.le_refl _, fun r hr => Nat.le_of_succ_le (hb.deep r hr)⟩
  first := by simp [Row.depth]
  steps := by
    cases body with
    | nil => exact .singleton _
    | cons r body =>
      have hr : r.depth = depth + 1 := hb.first r rfl
      exact .cons_cons (.inr ⟨beq_iff_eq.2 ho, hr⟩) hb.steps
  filled := by
    refine ⟨fun _ => ?_, hb.filled⟩
    have hall : blockOf (.code depth header) body = body := by
      rw [blockOf, List.takeWhile_eq_self_iff]
      intro r hr
      exact decide_eq_true (hb.deep r hr)
    rwa [hall]

end LaidRows

theorem isLaid_line {tabs margin : Bool} {pieces : List Piece}
    (h : (Statement.line pieces).isLaid tabs margin = true) (depth : Nat) :
    (Row.code depth pieces).isLaid tabs = true ∧ (Row.code depth pieces).opens = false := by
  simp only [Statement.isLaid, Bool.and_eq_true, Option.any_eq_true] at h
  obtain ⟨⟨hfirst, c, hc, hends⟩, htabs⟩ := h
  simp only [endsCode, Bool.and_eq_true, bne_iff_ne] at hends
  simp only [Row.isLaid, Row.opens, hc, Bool.and_eq_true, Option.any_eq_true, beq_eq_false_iff_ne]
  exact ⟨⟨⟨hfirst, c, rfl, hends.1⟩, htabs⟩, fun he => hends.2 (Option.some.inj he)⟩

theorem isLaid_header {tabs margin : Bool} {header : List Piece} {body : List Statement}
    (h : (Statement.block header body).isLaid tabs margin = true) (depth : Nat) :
    (Row.code depth header).isLaid tabs = true := by
  simp only [Statement.isLaid, Bool.and_eq_true, beq_iff_eq] at h
  simp only [Row.isLaid, Bool.and_eq_true]
  refine ⟨⟨h.1.1.1.1, ?_⟩, h.1.1.2⟩
  rw [h.1.1.1.2]
  rfl

theorem laidRows_pass (tabs : Bool) (depth : Nat) :
    LaidRows tabs depth [.code depth [.code "pass"]] :=
  .single (by rfl) nofun rfl (by rfl)

theorem exists_code_row {s : Statement} (h : s.isRemark = false) (depth : Nat) :
    ∃ r ∈ s.rows depth, r.isCode = true := by
  cases s with
  | line pieces => exact ⟨_, List.mem_cons_self, rfl⟩
  | comment text => cases h
  | blank => cases h
  | block header body =>
    cases body with
    | nil => exact ⟨_, List.mem_cons_self, rfl⟩
    | cons s rest => exact ⟨_, List.mem_cons_self, rfl⟩

theorem exists_code_rowsAll {script : List Statement}
    (h : script.all Statement.isRemark = false) (depth : Nat) :
    ∃ r ∈ rowsAll depth script, r.isCode = true := by
  obtain ⟨s, hs, hr⟩ := List.all_eq_false.1 h
  obtain ⟨r, hmem, hcode⟩ := exists_code_row (Bool.not_eq_true _ ▸ hr) depth
  exact ⟨r, mem_rowsAll.2 ⟨s, hs, hmem⟩, hcode⟩

mutual

theorem laidRows_rows {tabs margin : Bool} {s : Statement} (ht : s.isTidy = true)
    (h : s.isLaid tabs margin = true) {depth : Nat} (hm : margin = true → depth = 0) :
    LaidRows tabs depth (s.rows depth) := by
  cases s with
  | line pieces =>
    obtain ⟨hlaid, hopens⟩ := isLaid_line h depth
    exact .single hlaid nofun rfl hopens
  | comment text =>
    rw [Statement.rows, commentRows_of_isTidy ht]
    exact .single h nofun rfl rfl
  | blank => exact .single rfl (fun _ => hm h) (hm h).symm rfl
  | block header body =>
    have hheader := isLaid_header h depth
    simp only [Statement.isLaid, Bool.and_eq_true, beq_iff_eq] at h
    simp only [Statement.isTidy, Bool.and_eq_true] at ht
    cases body with
    | nil =>
      exact .block hheader h.1.1.1.2 (laidRows_pass tabs (depth + 1)) ⟨_, List.mem_cons_self, rfl⟩
    | cons s rest =>
      have full : (s :: rest).all Statement.isRemark = false := by
        simpa only [List.isEmpty_cons, Bool.false_or, Bool.not_eq_true'] using h.1.2
      refine .block hheader h.1.1.1.2 (laidRows_rowsAll ht.2 h.2 nofun) ?_
      exact exists_code_rowsAll full (depth + 1)

theorem laidRows_rowsAll {tabs margin : Bool} {script : List Statement}
    (ht : allTidy script = true) (h : allLaid tabs margin script = true) {depth : Nat}
    (hm : margin = true → depth = 0) : LaidRows tabs depth (rowsAll depth script) := by
  cases script with
  | nil => exact .nil
  | cons s rest =>
    simp only [allTidy, Bool.and_eq_true] at ht
    simp only [allLaid, Bool.and_eq_true] at h
    exact (laidRows_rows ht.1 h.1 hm).append (laidRows_rowsAll ht.2 h.2 hm)

end

end PageHarvest.Script
