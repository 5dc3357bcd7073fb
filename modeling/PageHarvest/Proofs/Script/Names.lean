import PageHarvest.Proofs.Script.Code

namespace PageHarvest.Script

open Python

/-- The names that a script may import, then the constants that it may set. -/
inductive Name
  | os
  | time
  | random
  | glob
  | csv
  | json
  | requests
  | beautifulSoup
  | urljoin
  | webdriver
  | locator
  | noSuchElement
  | proxyClass
  | proxyType
  | syncPlaywright
  | projectFolder
  | pagesFolder
  | requestDelay
  | proxies
  | proxy
  | startUrl
  | nextSelector
  | urlPrefix
  | urlSuffix
  | firstPage
  | pageCount
  | userAgent
  | baseUrl
deriving DecidableEq, Repr

namespace Name

def all : List Name :=
  [ .os, .time, .random, .glob, .csv, .json, .requests, .beautifulSoup, .urljoin, .webdriver,
    .locator, .noSuchElement, .proxyClass, .proxyType, .syncPlaywright, .projectFolder,
    .pagesFolder, .requestDelay, .proxies, .proxy, .startUrl, .nextSelector, .urlPrefix,
    .urlSuffix, .firstPage, .pageCount, .userAgent, .baseUrl]

def text : Name → String
  | os => "os"
  | time => "time"
  | random => "random"
  | glob => "glob"
  | csv => "csv"
  | json => "json"
  | requests => "requests"
  | beautifulSoup => "BeautifulSoup"
  | urljoin => "urljoin"
  | webdriver => "webdriver"
  | locator => "By"
  | noSuchElement => "NoSuchElementException"
  | proxyClass => "Proxy"
  | proxyType => "ProxyType"
  | syncPlaywright => "sync_playwright"
  | projectFolder => "PROJECT_FOLDER"
  | pagesFolder => "PAGES_FOLDER"
  | requestDelay => "REQUEST_DELAY"
  | proxies => "PROXIES"
  | proxy => "PROXY"
  | startUrl => "START_URL"
  | nextSelector => "NEXT_SELECTOR"
  | urlPrefix => "URL_PREFIX"
  | urlSuffix => "URL_SUFFIX"
  | firstPage => "FIRST_PAGE"
  | pageCount => "PAGE_COUNT"
  | userAgent => "USER_AGENT"
  | baseUrl => "BASE_URL"

def word : Name → List Char
  | os => ['o', 's']
  | time => ['t', 'i', 'm', 'e']
  | random => ['r', 'a', 'n', 'd', 'o', 'm']
  | glob => ['g', 'l', 'o', 'b']
  | csv => ['c', 's', 'v']
  | json => ['j', 's', 'o', 'n']
  | requests => ['r', 'e', 'q', 'u', 'e', 's', 't', 's']
  | beautifulSoup => ['B', 'e', 'a', 'u', 't', 'i', 'f', 'u', 'l', 'S', 'o', 'u', 'p']
  | urljoin => ['u', 'r', 'l', 'j', 'o', 'i', 'n']
  | webdriver => ['w', 'e', 'b', 'd', 'r', 'i', 'v', 'e', 'r']
  | locator => ['B', 'y']
  | noSuchElement =>
    ['N', 'o', 'S', 'u', 'c', 'h', 'E', 'l', 'e', 'm', 'e', 'n', 't', 'E', 'x', 'c', 'e', 'p', 't',
      'i', 'o', 'n']
  | proxyClass => ['P', 'r', 'o', 'x', 'y']
  | proxyType => ['P', 'r', 'o', 'x', 'y', 'T', 'y', 'p', 'e']
  | syncPlaywright => ['s', 'y', 'n', 'c', '_', 'p', 'l', 'a', 'y', 'w', 'r', 'i', 'g', 'h', 't']
  | projectFolder => ['P', 'R', 'O', 'J', 'E', 'C', 'T', '_', 'F', 'O', 'L', 'D', 'E', 'R']
  | pagesFolder => ['P', 'A', 'G', 'E', 'S', '_', 'F', 'O', 'L', 'D', 'E', 'R']
  | requestDelay => ['R', 'E', 'Q', 'U', 'E', 'S', 'T', '_', 'D', 'E', 'L', 'A', 'Y']
  | proxies => ['P', 'R', 'O', 'X', 'I', 'E', 'S']
  | proxy => ['P', 'R', 'O', 'X', 'Y']
  | startUrl => ['S', 'T', 'A', 'R', 'T', '_', 'U', 'R', 'L']
  | nextSelector => ['N', 'E', 'X', 'T', '_', 'S', 'E', 'L', 'E', 'C', 'T', 'O', 'R']
  | urlPrefix => ['U', 'R', 'L', '_', 'P', 'R', 'E', 'F', 'I', 'X']
  | urlSuffix => ['U', 'R', 'L', '_', 'S', 'U', 'F', 'F', 'I', 'X']
  | firstPage => ['F', 'I', 'R', 'S', 'T', '_', 'P', 'A', 'G', 'E']
  | pageCount => ['P', 'A', 'G', 'E', '_', 'C', 'O', 'U', 'N', 'T']
  | userAgent => ['U', 'S', 'E', 'R', '_', 'A', 'G', 'E', 'N', 'T']
  | baseUrl => ['B', 'A', 'S', 'E', '_', 'U', 'R', 'L']

def ofWord? (word : List Char) : Option Name :=
  all.find? (·.word == word)

theorem toList_text (n : Name) : n.text.toList = n.word := by
  cases n <;> exact Text.toList_of_eq rfl

theorem ofWord?_word (n : Name) : ofWord? n.word = some n := by
  cases n <;> rfl

theorem ofWord?_eq_some_iff {word : List Char} {n : Name} :
    ofWord? word = some n ↔ word = n.text.toList := by
  rw [toList_text]
  constructor
  · intro h
    have hfound := List.find?_some h
    exact (eq_of_beq hfound).symm
  · rintro rfl
    exact n.ofWord?_word

end Name

/-- What a line does with names; an import, at any depth, may be of none of them. -/
structure Entry where
  imports : List (Option Name) := []
  binds : List Name := []
  uses : List Name := []
deriving DecidableEq, Repr

namespace Entry

def importing (names : List Name) : Entry where
  imports := names.map some
  binds := names

def isIdle (e : Entry) : Bool :=
  e.imports.isEmpty && e.binds.isEmpty && e.uses.isEmpty

theorem eq_of_isIdle {e : Entry} (h : e.isIdle = true) : e = {} := by
  simp only [isIdle, Bool.and_eq_true, List.isEmpty_iff] at h
  cases e
  simp_all

def ofLine (line : List Lexeme) : Entry where
  imports := (importedNames (unindented line)).map Name.ofWord?
  binds := (boundNames line).filterMap Name.ofWord?
  uses := (usedNames line).filterMap Name.ofWord?

def ofInner (line : List Lexeme) : Entry where
  imports := (importedNames (unindented line)).map Name.ofWord?
  uses := (namesOf line).filterMap Name.ofWord?

theorem ofLine_indented (n : Nat) (line : List Lexeme) :
    ofLine (List.replicate (n + 1) (.mark ' ') ++ line) = ofInner line := by
  have hnames := namesOf_indented (n + 1) line
  have hrest := unindented_indented (n + 1) line
  rw [List.replicate_succ, List.cons_append] at hnames hrest ⊢
  simp [ofLine, ofInner, hrest, boundNames, importedNames, assignedName?, usedNames, hnames]

theorem mem_uses {line : List Lexeme} {n : Name} :
    n ∈ (ofLine line).uses ↔ n.text.toList ∈ usedNames line := by
  simp only [ofLine, List.mem_filterMap, Name.ofWord?_eq_some_iff]
  exact ⟨fun ⟨w, hw, he⟩ => he ▸ hw, fun h => ⟨_, h, rfl⟩⟩

theorem mem_binds {line : List Lexeme} {n : Name} :
    n ∈ (ofLine line).binds ↔ n.text.toList ∈ boundNames line := by
  simp only [ofLine, List.mem_filterMap, Name.ofWord?_eq_some_iff]
  exact ⟨fun ⟨w, hw, he⟩ => he ▸ hw, fun h => ⟨_, h, rfl⟩⟩

end Entry

def lineEntries (margin : Bool) (line : List Char) : List Entry :=
  let e := if margin then Entry.ofLine (lineCode line) else Entry.ofInner (lineCode line)
  if e.isIdle then [] else [e]

def bareChars (pieces : List Piece) : List Char :=
  lineChars (pieces.map Piece.bare)

mutual

def Statement.entries (margin : Bool) : Statement → List Entry
  | .line pieces => lineEntries margin (bareChars pieces)
  | .comment _ | .blank => []
  | .block header body => lineEntries margin (bareChars header) ++ entriesAll false body

def entriesAll (margin : Bool) : List Statement → List Entry
  | [] => []
  | s :: rest => s.entries margin ++ entriesAll margin rest

end

theorem entriesAll_append (margin : Bool) (a b : List Statement) :
    entriesAll margin (a ++ b) = entriesAll margin a ++ entriesAll margin b := by
  induction a with
  | nil => rfl
  | cons s a ih => simp only [List.cons_append, entriesAll, ih, List.append_assoc]

def rowEntries (rows : List Row) : List Entry :=
  (rows.map fun r => Entry.ofLine r.lexemes).filter (!·.isIdle)

theorem rowEntries_append (a b : List Row) :
    rowEntries (a ++ b) = rowEntries a ++ rowEntries b := by
  simp [rowEntries]

/-- What a row is made from counts only without its literals and comments. -/
theorem ofLine_lexemes {r : Row} (h : r.isTidy = true) :
    Entry.ofLine r.lexemes =
      if r.depth == 0 then Entry.ofLine (lineCode r.bare.content)
      else Entry.ofInner (lineCode r.bare.content) := by
  rw [← Row.lexemes_bare h, Row.lexemes_eq (Row.isTidy_bare h), Row.depth_bare]
  cases r.depth with
  | zero => rfl
  | succ d => exact Entry.ofLine_indented (4 * d + 3) _

theorem rowEntries_singleton (r : Row) :
    rowEntries [r] =
      if (Entry.ofLine r.lexemes).isIdle then [] else [Entry.ofLine r.lexemes] := by
  cases h : (Entry.ofLine r.lexemes).isIdle <;> simp [rowEntries, h]

theorem rowEntries_comment {depth : Nat} {text : List Char}
    (h : (Row.comment depth text).isTidy = true) : rowEntries [.comment depth text] = [] := by
  have idle : (Entry.ofLine (Row.comment depth text).lexemes).isIdle = true := by
    rw [ofLine_lexemes h]
    split_ifs <;> rfl
  rw [rowEntries_singleton, if_pos idle]

theorem rowEntries_code {depth : Nat} {pieces : List Piece}
    (h : (Row.code depth pieces).isTidy = true) :
    rowEntries [.code depth pieces] = lineEntries (depth == 0) (bareChars pieces) := by
  rw [rowEntries_singleton, ofLine_lexemes h]
  rfl

theorem rowEntries_pass (depth : Nat) : rowEntries [.code (depth + 1) [.code "pass"]] = [] := by
  rw [rowEntries_code (isTidy_pass (depth + 1))]
  rfl

mutual

theorem rowEntries_rows {s : Statement} (h : s.isTidy = true) (depth : Nat) :
    rowEntries (s.rows depth) = s.entries (depth == 0) := by
  cases s with
  | line pieces => exact rowEntries_code h
  | comment text =>
    have hr : (Row.comment depth text.toList).isTidy = true := by
      simp only [Statement.isTidy, Bool.and_eq_true] at h
      exact h.2
    rw [Statement.rows, commentRows_of_isTidy h, rowEntries_comment hr, Statement.entries]
  | blank => rfl
  | block header body =>
    simp only [Statement.isTidy, Bool.and_eq_true] at h
    have hh : (Row.code depth header).isTidy = true := by simpa [Row.isTidy] using h.1
    have split (rows : List Row) : rowEntries (.code depth header :: rows) =
        lineEntries (depth == 0) (bareChars header) ++ rowEntries rows := by
      rw [← rowEntries_code hh, ← rowEntries_append, List.singleton_append]
    cases body with
    | nil => rw [Statement.rows, split, rowEntries_pass, Statement.entries, entriesAll]
    | cons s rest =>
      rw [Statement.rows, split, rowEntries_rowsAll h.2, Statement.entries]
      rfl

theorem rowEntries_rowsAll {script : List Statement} (h : allTidy script = true) (depth : Nat) :
    rowEntries (rowsAll depth script) = entriesAll (depth == 0) script := by
  cases script with
  | nil => rfl
  | cons s rest =>
    simp only [allTidy, Bool.and_eq_true] at h
    rw [rowsAll, rowEntries_append, rowEntries_rows h.1, rowEntries_rowsAll h.2, entriesAll]

end

theorem rowEntries_settled (rows : List Row) : rowEntries (settled rows) = rowEntries rows := by
  have solid (rs : List Row) : rowEntries rs = rowEntries (rs.filter (!·.isGap)) := by
    induction rs with
    | nil => rfl
    | cons r rs ih =>
      cases hg : r.isGap with
      | true =>
        rw [Row.eq_gap hg, ← List.singleton_append, rowEntries_append, ih]
        rfl
      | false =>
        rw [List.filter_cons_of_pos (by simp [hg]), ← List.singleton_append, rowEntries_append, ih,
          ← rowEntries_append, List.singleton_append]
  -- settling changes only the gaps, which are idle
  rw [solid, filter_settled, ← solid]

/-- The names bound behind some lines, if each line uses bound names and binds new ones. -/
def bindAll (bound : List Name) : List Entry → Option (List Name)
  | [] => some bound
  | e :: rest =>
    if e.uses.all bound.contains && !e.binds.any bound.contains then bindAll (e.binds ++ bound) rest
    else none

def importsUsed (entries : List Entry) : Bool :=
  (entries.flatMap Entry.imports).all fun n =>
    n.any (entries.flatMap Entry.uses).contains

/-- Whether all names are bound before their use, each once, and no import is in vain. -/
def isBound (entries : List Entry) : Bool :=
  (bindAll [] entries).isSome && importsUsed entries

/--
Lines in which names are bound before their use, in one line each, and nothing else is imported, or
imported in vain.
-/
structure NamesBound (lines : List (List Lexeme)) : Prop where
  before : ∀ earlier line later, lines = earlier ++ line :: later →
    ∀ n : Name, n.text.toList ∈ usedNames line → ∃ l ∈ earlier, n.text.toList ∈ boundNames l
  once : ∀ line ∈ lines, ∀ n : Name, n.text.toList ∈ usedNames line →
    lines.countP (n.text.toList ∈ boundNames ·) = 1
  used : ∀ line ∈ lines, ∀ word ∈ importedNames (unindented line),
    (∃ n : Name, word = n.text.toList) ∧ ∃ user ∈ lines, word ∈ usedNames user

theorem bindAll_cons {bound after : List Name} {e : Entry} {rest : List Entry}
    (h : bindAll bound (e :: rest) = some after) :
    (∀ n ∈ e.uses, n ∈ bound) ∧ (∀ n ∈ e.binds, n ∉ bound) ∧
      bindAll (e.binds ++ bound) rest = some after := by
  rw [bindAll] at h
  split_ifs at h with hc
  simp only [Bool.and_eq_true, List.all_eq_true, List.contains_iff_mem, Bool.not_eq_true',
    List.any_eq_false] at hc
  exact ⟨hc.1, hc.2, h⟩

theorem bindAll_before {bound after : List Name} {earlier later : List Entry} {e : Entry}
    (h : bindAll bound (earlier ++ e :: later) = some after) :
    ∀ n ∈ e.uses, n ∈ bound ∨ ∃ b ∈ earlier, n ∈ b.binds := by
  intro n hn
  induction earlier generalizing bound with
  | nil => exact .inl ((bindAll_cons h).1 n hn)
  | cons a earlier ih =>
    rcases ih (bindAll_cons h).2.2 with hm | ⟨b, hb, hm⟩
    · rcases List.mem_append.1 hm with hm | hm
      · exact .inr ⟨a, List.mem_cons_self, hm⟩
      · exact .inl hm
    · exact .inr ⟨b, List.mem_cons_of_mem a hb, hm⟩

theorem bindAll_once {bound after : List Name} {entries : List Entry}
    (h : bindAll bound entries = some after) (n : Name) :
    entries.countP (n ∈ ·.binds) ≤ if n ∈ bound then 0 else 1 := by
  induction entries generalizing bound with
  | nil => exact Nat.zero_le _
  | cons e entries ih =>
    obtain ⟨_, hnew, hrest⟩ := bindAll_cons h
    have hcount := ih hrest
    rw [List.countP_cons]
    by_cases he : n ∈ e.binds
    · have hn : n ∉ bound := hnew n he
      simp only [List.mem_append, he, true_or, if_true, Nat.le_zero] at hcount
      simp [hcount, he, hn]
    · simpa [List.mem_append, he] using hcount

theorem bindAll_filter (bound : List Name) (entries : List Entry) :
    bindAll bound (entries.filter (!·.isIdle)) = bindAll bound entries := by
  induction entries generalizing bound with
  | nil => rfl
  | cons e entries ih =>
    cases hi : e.isIdle with
    | true =>
      rw [List.filter_cons_of_neg (by simp [hi]), ih, Entry.eq_of_isIdle hi]
      rfl
    | false =>
      rw [List.filter_cons_of_pos (by simp [hi]), bindAll, bindAll]
      simp only [ih]

theorem flatMap_filter_isIdle {α : Type} {f : Entry → List α} (hf : f {} = [])
    (entries : List Entry) :
    (entries.filter (!·.isIdle)).flatMap f = entries.flatMap f := by
  induction entries with
  | nil => rfl
  | cons e entries ih =>
    cases hi : e.isIdle with
    | true =>
      rw [List.filter_cons_of_neg (by simp [hi]), ih, Entry.eq_of_isIdle hi, List.flatMap_cons, hf,
        List.nil_append]
    | false =>
      rw [List.filter_cons_of_pos (by simp [hi]), List.flatMap_cons, List.flatMap_cons, ih]

theorem isBound_filter (entries : List Entry) :
    isBound (entries.filter (!·.isIdle)) = isBound entries := by
  rw [isBound, isBound, bindAll_filter, importsUsed, importsUsed, flatMap_filter_isIdle rfl,
    flatMap_filter_isIdle rfl]

section lines

variable {lines : List (List Lexeme)}

theorem countP_boundNames (n : Name) :
    lines.countP (n.text.toList ∈ boundNames ·) =
      (lines.map Entry.ofLine).countP (n ∈ ·.binds) := by
  rw [List.countP_map]
  refine List.countP_congr fun l _ => ?_
  simp [Entry.mem_binds]

theorem exists_bound_of_bindAll {after : List Name}
    (h : bindAll [] (lines.map Entry.ofLine) = some after) {earlier later : List (List Lexeme)}
    {line : List Lexeme} (hl : lines = earlier ++ line :: later) {n : Name}
    (hn : n.text.toList ∈ usedNames line) : ∃ l ∈ earlier, n.text.toList ∈ boundNames l := by
  rw [hl, List.map_append, List.map_cons] at h
  rcases bindAll_before h n (Entry.mem_uses.2 hn) with hm | ⟨b, hb, hm⟩
  · cases hm
  · obtain ⟨l, hmem, rfl⟩ := List.mem_map.1 hb
    exact ⟨l, hmem, Entry.mem_binds.1 hm⟩

theorem exists_user_of_importsUsed (h : importsUsed (lines.map Entry.ofLine) = true)
    {line : List Lexeme} (hline : line ∈ lines) {word : List Char}
    (hword : word ∈ importedNames (unindented line)) :
    (∃ n : Name, word = n.text.toList) ∧ ∃ user ∈ lines, word ∈ usedNames user := by
  rw [importsUsed, List.all_eq_true] at h
  have himport : Name.ofWord? word ∈ (lines.map Entry.ofLine).flatMap Entry.imports :=
    List.mem_flatMap.2 ⟨_, List.mem_map_of_mem hline, List.mem_map_of_mem hword⟩
  obtain ⟨n, hn, hc⟩ := (Option.any_eq_true _ _).1 (h _ himport)
  obtain ⟨e, hmem, hu⟩ := List.mem_flatMap.1 (List.contains_iff_mem.1 hc)
  obtain ⟨user, huser, rfl⟩ := List.mem_map.1 hmem
  rw [Name.ofWord?_eq_some_iff.1 hn]
  exact ⟨⟨n, rfl⟩, user, huser, Entry.mem_uses.1 hu⟩

/-- The check is sound: it tells of the lines of a text what it finds in their entries. -/
theorem namesBound_of_isBound (h : isBound (lines.map Entry.ofLine) = true) :
    NamesBound lines := by
  rw [isBound, Bool.and_eq_true, Option.isSome_iff_exists] at h
  obtain ⟨⟨after, hb⟩, hi⟩ := h
  constructor
  · intro earlier line later hl n hn
    exact exists_bound_of_bindAll hb hl hn
  · intro line hline n hn
    have hmost := bindAll_once hb n
    rw [if_neg List.not_mem_nil, ← countP_boundNames] at hmost
    -- the one line that binds the name is the one that stands before this use
    obtain ⟨earlier, later, hl⟩ := List.append_of_mem hline
    obtain ⟨l, hmem, hbound⟩ := exists_bound_of_bindAll hb hl hn
    have hin : l ∈ lines := by
      rw [hl]
      exact List.mem_append_left _ hmem
    have hleast : 0 < lines.countP (n.text.toList ∈ boundNames ·) :=
      List.countP_pos_iff.2 ⟨l, hin, by simpa using hbound⟩
    omega
  · intro line hline word hword
    exact exists_user_of_importsUsed hi hline hword

end lines

end PageHarvest.Script
