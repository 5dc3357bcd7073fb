import PageHarvest.Proofs.Python.Visits
import PageHarvest.Proofs.Script.Mentions

namespace PageHarvest

namespace Script

open Python

variable {w : Watched}

-- a line is evaluated character by character
set_option maxRecDepth 4000

theorem isWholeLine_lineChars {pieces : List Piece} (ht : fit .mark pieces = true)
    (hl : (firstChar? pieces).any startsCode = true) : isWholeLine (lineChars pieces) = true := by
  obtain ⟨c, hc, hs⟩ := (Option.any_eq_true _ _).1 (any_head?_lineChars hl)
  have filled : (lineChars pieces).isEmpty = false := by
    rw [List.isEmpty_eq_false_iff]
    intro none
    rw [none] at hc
    cases hc
  have whole : (lineChars pieces).contains '\n' = false := by
    rw [Bool.eq_false_iff]
    intro hm
    have ends := endsLine_of_mem_lineChars ht (List.contains_iff_mem.1 hm)
    cases ends
  have starts : (lineChars pieces).head? ≠ some ' ' := by
    rw [hc]
    rintro ⟨⟩
    cases hs
  rw [isWholeLine, filled, whole, bne_iff_ne.2 starts]
  rfl

theorem all_isRemark_of_isBlank {script : List Statement}
    (h : script.all Statement.isBlank = true) :
    script.all Statement.isRemark = true := by
  rw [List.all_eq_true] at h ⊢
  intro s hs
  cases s with
  | blank => rfl
  | _ => cases h _ hs

mutual

theorem isProper_of_isLaid {s : Statement} {tabs margin : Bool} (ht : s.isTidy = true)
    (hl : s.isLaid tabs margin = true) : s.isProper = true := by
  cases s with
  | line pieces =>
    simp only [Statement.isTidy, Bool.and_eq_true] at ht
    simp only [Statement.isLaid, Bool.and_eq_true] at hl
    exact isWholeLine_lineChars ht.2 hl.1.1
  | comment text => rfl
  | blank => rfl
  | block header body =>
    simp only [Statement.isTidy, Bool.and_eq_true] at ht
    simp only [Statement.isLaid, Bool.and_eq_true] at hl
    have filled : (body.isEmpty || !body.all Statement.isBlank) = true := by
      have coded := hl.1.2
      cases hb : body.all Statement.isBlank with
      | false => simp
      | true => simpa [all_isRemark_of_isBlank hb] using coded
    rw [Statement.isProper, isWholeLine_lineChars ht.1.2 hl.1.1.1.1, filled,
      allProper_of_allLaid ht.2 hl.2]
    rfl

theorem allProper_of_allLaid {script : List Statement} {tabs margin : Bool}
    (ht : allTidy script = true) (hl : allLaid tabs margin script = true) :
    allProper script = true := by
  cases script with
  | nil => rfl
  | cons s rest =>
    simp only [allTidy, Bool.and_eq_true] at ht
    simp only [allLaid, Bool.and_eq_true] at hl
    rw [allProper, isProper_of_isLaid ht.1 hl.1, allProper_of_allLaid ht.2 hl.2]
    rfl

end

mutual

theorem nestShows_eq (words : List (List Char)) (n : Nest) (depth : Nat) :
    nestShows words n = (n.listing depth).any fun e => showsAny words e.2 := by
  cases n with
  | line text => simp [nestShows, Nest.listing]
  | block header body =>
    rw [nestShows, Nest.listing, List.any_cons, anyShows_eq words body (depth + 1)]

theorem anyShows_eq (words : List (List Char)) (nests : List Nest) (depth : Nat) :
    anyShows words nests = (listingAll depth nests).any fun e => showsAny words e.2 := by
  cases nests with
  | nil => rfl
  | cons n rest =>
    rw [anyShows, listingAll, List.any_append, nestShows_eq words n depth,
      anyShows_eq words rest depth]

end

def fetching (proxies : Bool) : Function where
  parameters := ["url".toList]
  steps :=
    (if proxies then [.choose "proxy".toList] else []) ++
      [ .request "response".toList "url".toList, .check "response".toList,
        .giveText "response".toList ]

end Script

namespace Job

open Script Python

variable {j : Job}

end Job
end PageHarvest
