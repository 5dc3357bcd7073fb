import PageHarvest.Proofs.Script.Rows
import PageHarvest.Proofs.Text.Run

namespace PageHarvest.Script

/-- A line, or a line with the block that it opens. -/
inductive Nest
  | line (text : List Char)
  | block (header : List Char) (body : List Nest)

mutual

/-- The lines with their depths. A header stands in front of its block. -/
def Nest.listing (depth : Nat) : Nest → List (Nat × List Char)
  | .line text => [(depth, text)]
  | .block header body => (depth, header) :: listingAll (depth + 1) body

def listingAll (depth : Nat) : List Nest → List (Nat × List Char)
  | [] => []
  | n :: rest => n.listing depth ++ listingAll depth rest

end

mutual

def Nest.isFilled : Nest → Bool
  | .line _ => true
  | .block _ body => !body.isEmpty && allFilled body

def allFilled : List Nest → Bool
  | [] => true
  | n :: rest => n.isFilled && allFilled rest

end

theorem listingAll_append (depth : Nat) (a b : List Nest) :
    listingAll depth (a ++ b) = listingAll depth a ++ listingAll depth b := by
  induction a with
  | nil => rfl
  | cons n a ih => simp only [List.cons_append, listingAll, ih, List.append_assoc]

theorem listingAll_lines (depth : Nat) (texts : List (List Char)) :
    listingAll depth (texts.map .line) = texts.map (depth, ·) := by
  induction texts with
  | nil => rfl
  | cons text texts ih =>
    simp only [List.map_cons, listingAll, ih, Nest.listing, List.singleton_append]

theorem allFilled_append (a b : List Nest) :
    allFilled (a ++ b) = (allFilled a && allFilled b) := by
  induction a with
  | nil => rfl
  | cons n a ih => simp only [List.cons_append, allFilled, ih, Bool.and_assoc]

theorem allFilled_lines (texts : List (List Char)) : allFilled (texts.map .line) = true := by
  induction texts with
  | nil => rfl
  | cons text texts ih => simp only [List.map_cons, allFilled, ih, Nest.isFilled, Bool.and_self]

def Nest.of (text : List Char) : List Nest → Nest
  | [] => .line text
  | n :: rest => .block text (n :: rest)

/-- Puts a line in front of nests. The deeper ones, up to the first that is not, are its block. -/
def enclose (entry : Nat × List Char) (behind : List (Nat × Nest)) : List (Nat × Nest) :=
  let deeper (b : Nat × Nest) : Bool := entry.1 < b.1
  (entry.1, .of entry.2 ((behind.takeWhile deeper).map Prod.snd)) :: behind.dropWhile deeper

def rebuild (listing : List (Nat × List Char)) : List Nest :=
  (listing.foldr enclose []).map Prod.snd

theorem enclose_append {depth : Nat} {header : List Char} {inside behind : List (Nat × Nest)}
    (hi : ∀ b ∈ inside, depth < b.1) (hb : ∀ b ∈ behind.head?, b.1 ≤ depth) :
    enclose (depth, header) (inside ++ behind) =
      (depth, .of header (inside.map Prod.snd)) :: behind := by
  have deeper : ∀ b ∈ inside, decide (depth < b.1) = true := by
    intro b hm
    exact decide_eq_true (hi b hm)
  have outside : ∀ b ∈ behind.head?, decide (depth < b.1) = false := by
    intro b hm
    exact decide_eq_false (Nat.not_lt.2 (hb b hm))
  simp only [enclose, Text.takeWhile_append_of_boundary deeper outside,
    Text.dropWhile_append_of_boundary deeper outside]

mutual

/-- A listing is read back as one nest, in front of any that stand no deeper. -/
theorem Nest.foldr_listing {n : Nest} (h : n.isFilled = true) {depth : Nat}
    {behind : List (Nat × Nest)} (hb : ∀ b ∈ behind.head?, b.1 ≤ depth) :
    (n.listing depth).foldr enclose behind = (depth, n) :: behind := by
  cases n with
  | line text =>
    have alone := @enclose_append depth text [] behind (by simp) hb
    exact alone
  | block header body =>
    simp only [Nest.isFilled, Bool.and_eq_true] at h
    have inside := foldr_listingAll h.2 fun b hm => Nat.le_succ_of_le (hb b hm)
    rw [Nest.listing, List.foldr_cons, inside, enclose_append (by simp) hb, List.map_map]
    cases body with
    | nil => cases h.1
    | cons n rest => simp [Nest.of, Function.comp_def]

theorem foldr_listingAll {nests : List Nest} (h : allFilled nests = true) {depth : Nat}
    {behind : List (Nat × Nest)} (hb : ∀ b ∈ behind.head?, b.1 ≤ depth) :
    (listingAll depth nests).foldr enclose behind = nests.map (depth, ·) ++ behind := by
  cases nests with
  | nil => rfl
  | cons n rest =>
    simp only [allFilled, Bool.and_eq_true] at h
    rw [listingAll, List.foldr_append, foldr_listingAll h.2 hb]
    apply Nest.foldr_listing h.1
    -- what stands behind is at the same depth, or is what stood behind before
    cases rest with
    | nil => exact hb
    | cons m rest => simp

end

theorem rebuild_listingAll {nests : List Nest} (h : allFilled nests = true) (depth : Nat) :
    rebuild (listingAll depth nests) = nests := by
  rw [rebuild, foldr_listingAll h (by simp), List.append_nil, List.map_map]
  exact List.map_id nests

def commentLine : List Char → List Char
  | [] => ['#']
  | text => '#' :: ' ' :: text

mutual

/--
What a statement shows. A comment shows a line for each line of its text, and one if it has none;
an empty block shows a line that does nothing; a blank line is nothing to show.
-/
def Statement.nests : Statement → List Nest
  | .line pieces => [.line (lineChars pieces)]
  | .comment text => (commentTexts text.toList).map fun part => .line (commentLine part)
  | .blank => []
  | .block header [] => [.block (lineChars header) [.line "pass".toList]]
  | .block header (s :: rest) => [.block (lineChars header) (nestsAll (s :: rest))]

def nestsAll : List Statement → List Nest
  | [] => []
  | s :: rest => s.nests ++ nestsAll rest

end

/-- Whether a text is one line that starts where its indentation ends. -/
def isWholeLine (text : List Char) : Bool :=
  !text.isEmpty && !text.contains '\n' && text.head? != some ' '

def Statement.isBlank : Statement → Bool
  | .blank => true
  | _ => false

mutual

/-- Whether each line and header is one line of the text, and no block has blank lines only. -/
def Statement.isProper : Statement → Bool
  | .line pieces => isWholeLine (lineChars pieces)
  | .comment _ => true
  | .blank => true
  | .block header body =>
    isWholeLine (lineChars header) && (body.isEmpty || !body.all Statement.isBlank) &&
      allProper body

def allProper : List Statement → Bool
  | [] => true
  | s :: rest => s.isProper && allProper rest

end

theorem nests_ne_nil {s : Statement} (h : s.isBlank = false) : s.nests ≠ [] := by
  cases s with
  | line pieces => simp [Statement.nests]
  | comment text => simpa [Statement.nests] using commentTexts_ne_nil text.toList
  | blank => cases h
  | block header body => cases body <;> simp [Statement.nests]

theorem nestsAll_ne_nil {script : List Statement} (h : script.all Statement.isBlank = false) :
    nestsAll script ≠ [] := by
  induction script with
  | nil => cases h
  | cons s rest ih =>
    rw [nestsAll, Ne, List.append_eq_nil_iff]
    rintro ⟨first, behind⟩
    cases hs : s.isBlank with
    | false => exact nests_ne_nil hs first
    | true =>
      rw [List.all_cons, hs, Bool.true_and] at h
      exact ih h behind

mutual

theorem allFilled_nests {s : Statement} (h : s.isProper = true) : allFilled s.nests = true := by
  cases s with
  | line pieces => rfl
  | comment text =>
    have lines := allFilled_lines ((commentTexts text.toList).map commentLine)
    rwa [List.map_map] at lines
  | blank => rfl
  | block header body =>
    simp only [Statement.isProper, Bool.and_eq_true] at h
    cases body with
    | nil => rfl
    | cons s rest =>
      have shown : (s :: rest).all Statement.isBlank = false := by
        simpa only [List.isEmpty_cons, Bool.false_or, Bool.not_eq_true'] using h.1.2
      simpa [Statement.nests, allFilled, Nest.isFilled, nestsAll_ne_nil shown]
        using allFilled_nestsAll h.2

theorem allFilled_nestsAll {script : List Statement} (h : allProper script = true) :
    allFilled (nestsAll script) = true := by
  cases script with
  | nil => rfl
  | cons s rest =>
    simp only [allProper, Bool.and_eq_true] at h
    rw [nestsAll, allFilled_append, allFilled_nests h.1, allFilled_nestsAll h.2, Bool.and_self]

end

namespace Row

def placed (r : Row) : Nat × List Char :=
  (r.depth, r.content)

theorem content_comment_eq (depth : Nat) (text : List Char) :
    (comment depth text).content = commentLine text := by
  cases text <;> rfl

theorem content_pass (depth : Nat) : (code depth [.code "pass"]).content = "pass".toList :=
  List.append_nil _

end Row

mutual

theorem placed_rows (s : Statement) (depth : Nat) :
    ((s.rows depth).filter (!·.isGap)).map Row.placed = listingAll depth s.nests := by
  cases s with
  | line pieces => rfl
  | comment text =>
    have solid : ∀ r ∈ commentRows depth text, (!r.isGap) = true := fun r hr => by
      rw [(isGap_of_mem_commentRows hr).1, Bool.not_false]
    have lines := listingAll_lines depth ((commentTexts text.toList).map commentLine)
    rw [List.map_map, List.map_map] at lines
    rw [Statement.rows, List.filter_eq_self.2 solid, commentRows, List.map_map]
    refine Eq.trans (List.map_congr_left fun part _ => ?_) lines.symm
    exact Prod.ext rfl (Row.content_comment_eq depth part)
  | blank => rfl
  | block header body =>
    have alone (n : Nest) : listingAll depth [n] = n.listing depth := by
      rw [listingAll, listingAll, List.append_nil]
    cases body with
    | nil =>
      rw [Statement.nests, alone, Nest.listing, ← Row.content_pass (depth + 1)]
      rfl
    | cons s rest =>
      rw [Statement.nests, alone, Nest.listing, ← placed_rowsAll (s :: rest) (depth + 1)]
      rfl

theorem placed_rowsAll (script : List Statement) (depth : Nat) :
    ((rowsAll depth script).filter (!·.isGap)).map Row.placed =
      listingAll depth (nestsAll script) := by
  cases script with
  | nil => rfl
  | cons s rest =>
    rw [rowsAll, List.filter_append, List.map_append, placed_rows, placed_rowsAll, nestsAll,
      listingAll_append]

end

end PageHarvest.Script
