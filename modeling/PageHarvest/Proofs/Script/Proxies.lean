import PageHarvest.Proofs.Job.Network
import PageHarvest.Proofs.Script.Constants
import PageHarvest.Proofs.Script.Reads
import PageHarvest.Proofs.Script.Recovered

namespace PageHarvest

namespace Python

def choiceCall : List Lexeme :=
  [ .word "random".toList, .mark '.', .word "choice".toList, .mark '(', .word "PROXIES".toList,
    .mark ')' ]

def tightCode (line : List Char) : List Lexeme :=
  (Script.lineCode line).filter (· ≠ .mark ' ')

/-- How often a line calls it, with or without blanks. An import calls nothing. -/
def choices (line : List Char) : Nat :=
  if (importedNames (Script.lineCode line)).isEmpty then
    (tightCode line).tails.countP choiceCall.isPrefixOf
  else 0

def choicesIn (program : String) : Nat :=
  ((Text.lines program.toList).map choices).sum

theorem mem_plainNames_of_head {w : List Char} (hw : isName w = true) {line behind : List Lexeme}
    (h : line.filter (· ≠ .mark ' ') = .word w :: behind) : w ∈ plainNames false line := by
  induction line with
  | nil => cases h
  | cons x line ih =>
    by_cases hx : x = .mark ' '
    · rw [List.filter_cons_of_neg (by simp [hx])] at h
      rw [hx]
      exact ih h
    · rw [List.filter_cons_of_pos (by simpa using hx), List.cons.injEq] at h
      simp [h.1, plainNames, hw]

theorem mem_plainNames_cons {w : List Char} {x : Lexeme} {line : List Lexeme}
    (h : ∀ dotted, w ∈ plainNames dotted line) (dotted : Bool) :
    w ∈ plainNames dotted (x :: line) := by
  cases x with
  | word v =>
    rw [plainNames]
    split_ifs
    · exact h _
    · exact List.mem_cons_of_mem v (h _)
  | _ => exact h _

/-- A name right behind a parenthesis, but for blanks, is used. -/
theorem mem_plainNames {w : List Char} (hw : isName w = true) {line before behind : List Lexeme}
    (h : line.filter (· ≠ .mark ' ') = before ++ .mark '(' :: .word w :: behind) (dotted : Bool) :
    w ∈ plainNames dotted line := by
  induction line generalizing before dotted with
  | nil => simp at h
  | cons x line ih =>
    by_cases hx : x = .mark ' '
    · rw [List.filter_cons_of_neg (by simp [hx])] at h
      exact mem_plainNames_cons (ih h) dotted
    rw [List.filter_cons_of_pos (by simpa using hx)] at h
    cases before with
    | cons y before =>
      rw [List.cons_append, List.cons.injEq] at h
      exact mem_plainNames_cons (ih h.2) dotted
    | nil =>
      rw [List.nil_append, List.cons.injEq] at h
      obtain ⟨rfl, behind_paren⟩ := h
      exact mem_plainNames_of_head hw behind_paren

theorem exists_word_of_assigns {line : List Lexeme} (h : (assignedName? line).isSome = true) :
    ∃ w rest, line = .word w :: rest := by
  cases line with
  | nil => cases h
  | cons x rest =>
    cases x with
    | word w => exact ⟨w, rest, rfl⟩
    | _ => cases h

theorem uses_of_choices {line : List Char} (h : choices line ≠ 0) :
    uses "PROXIES" line = true := by
  rw [choices, ne_eq, ite_eq_right_iff, Classical.not_imp] at h
  obtain ⟨imports, calls⟩ := h
  obtain ⟨tail, suffix, start⟩ := List.countP_pos_iff.1 (Nat.pos_of_ne_zero calls)
  obtain ⟨before, split⟩ := (List.mem_tails _ _).1 suffix
  obtain ⟨behind, rfl⟩ := List.isPrefixOf_iff_prefix.1 start
  -- the name in its parentheses stands behind the code of a call, so no assignment takes it away
  obtain ⟨x, front, whole⟩ : ∃ x front, tightCode line =
      x :: front ++ .mark '(' :: .word "PROXIES".toList :: .mark ')' :: behind := by
    rw [← split]
    cases before with
    | nil => exact ⟨_, (choiceCall.drop 1).take 2, rfl⟩
    | cons x before => exact ⟨x, before ++ choiceCall.take 3, by simp [choiceCall]⟩
  have name : isName "PROXIES".toList = true := by decide
  rw [uses, List.contains_iff_mem, usedNames, imports, Bool.not_true, if_neg Bool.false_ne_true]
  split_ifs with assigns
  · obtain ⟨v, rest, code⟩ := exists_word_of_assigns assigns
    rw [tightCode, code, List.filter_cons_of_pos (by simp), List.cons_append,
      List.cons.injEq] at whole
    rw [code, List.tail_cons]
    exact List.mem_append_left _ (mem_plainNames name whole.2 false)
  · exact List.mem_append_left _ (mem_plainNames name whole false)

section counting

variable {program : String}

theorem sum_choices_eq_zero {lines : List (List Char)}
    (h : ∀ l ∈ lines, uses "PROXIES" l = false) : (lines.map choices).sum = 0 := by
  rw [List.sum_eq_zero_iff_forall_eq_nat, List.forall_mem_map]
  intro l hl
  by_contra calls
  have used := uses_of_choices calls
  rw [h l hl] at used
  cases used

theorem choicesIn_eq_zero (h : (Text.lines program.toList).countP (uses "PROXIES") = 0) :
    choicesIn program = 0 := by
  refine sum_choices_eq_zero fun l hl => ?_
  simpa using List.countP_eq_zero.1 h l hl

theorem choicesIn_eq_one (h : (Text.lines program.toList).countP (uses "PROXIES") = 1)
    {line : List Char} (hm : line ∈ Text.lines program.toList) (hl : choices line = 1) :
    choicesIn program = 1 := by
  have used : uses "PROXIES" line = true := uses_of_choices (by rw [hl]; decide)
  obtain ⟨before, behind, split⟩ := List.append_of_mem hm
  rw [split] at h
  obtain ⟨unusedBefore, unusedBehind⟩ := Text.others_of_countP used h
  rw [choicesIn, split, List.map_append, List.map_cons, List.sum_append, List.sum_cons, hl,
    sum_choices_eq_zero unusedBefore, sum_choices_eq_zero unusedBehind]

end counting

/--
A program that picks a proxy once from a list of some, or has nothing to do with proxies where there
is no list.
-/
structure Picks (program : String) (candidates? : Option (List String)) : Prop where
  generator : (Text.lines program.toList).countP (imports "random") =
    if candidates?.isSome then 1 else 0
  list : (Text.lines program.toList).countP (binds "PROXIES") =
    if candidates?.isSome then 1 else 0
  value : constant? "PROXIES" program = candidates?.map .list
  use : (Text.lines program.toList).countP (uses "PROXIES") =
    if candidates?.isSome then 1 else 0
  choice : choicesIn program = if candidates?.isSome then 1 else 0

end Python

namespace Job

open Script Python

variable {j : Job}

theorem exists_choices (ho : j.plan.opensPages = true) (hp : j.network.hasProxies = true) :
    ∃ line ∈ Text.lines j.synthesize.toList, choices line = 1 := by
  have picked {s : Statement} (hs : s ∈ j.statements) {depth : Nat} {text : String}
      (hr : .code depth [.code text] ∈ s.rows 0) (hc : choices (indented depth text) = 1) :
      ∃ line ∈ Text.lines j.synthesize.toList, choices line = 1 := by
    have row := line_mem_synthesize (mem_rowsAll.2 ⟨s, hs, hr⟩) rfl
    rw [line_code] at row
    exact ⟨_, row, hc⟩
  cases plan : j.plan with
  | guidance reason => exact (planned_of_opensPages ho reason plan).elim
  | capture engine =>
    have stated : .code "PROXY = random.choice(PROXIES)" ∈ j.statements := by
      simp [statements, plan, captureScript, proxyChoice, hp]
    exact picked stated (List.mem_singleton_self _) (rfl)
  | fetchLive =>
    have stated : fetchFunction true ∈ j.statements := by
      simp [statements, plan, fetchScript, hp]
    have row : .code 1 [.code "proxy = random.choice(PROXIES)"] ∈
        (fetchFunction true).rows 0 := by
      rw [fetchFunction, Statement.under, rows_block (by simp)]
      exact List.mem_cons_of_mem _ List.mem_cons_self
    exact picked stated row (rfl)
  | readSaved =>
    rw [plan] at ho
    cases ho

def candidates? (j : Job) : Option (List String) :=
  if j.plan.opensPages && j.network.hasProxies then some j.network.proxyList else none

theorem picks_synthesize (j : Job) : Picks j.synthesize j.candidates? := by
  obtain ⟨-, generator, list, choice⟩ := networkLines_statements j
  rw [← (shownBy_imports .random).countP_synthesize] at generator
  rw [← (shownBy_binds .proxies).countP_synthesize] at list
  rw [← (shownBy_uses .proxies).countP_synthesize] at choice
  cases h : j.plan.opensPages && j.network.hasProxies with
  | false =>
    rw [h] at generator list choice
    rw [candidates?, h]
    have unbound : Text.only (binds "PROXIES") (Text.lines j.synthesize.toList) = none :=
      Text.only_eq_none list
    exact ⟨generator, list, by rw [constant?, unbound]; rfl, choice, choicesIn_eq_zero choice⟩
  | true =>
    rw [h] at generator list choice
    rw [candidates?, h]
    rw [Bool.and_eq_true] at h
    obtain ⟨line, hm, once⟩ := exists_choices h.1 h.2
    exact ⟨generator, list, constant?_proxies h.1 h.2, choice, choicesIn_eq_one choice hm once⟩

/--
A network has proxies just if there are some in its list, in which its candidates stand as they
come, trimmed and without the blank ones. A list from a text is the same when it is read from its
own lines. A script that opens pages imports what picks a proxy, has the list and picks from it
once just if the network has proxies; one that reads saved pages never does.
-/
theorem picks_usable_proxies :
    (∀ n : Network, (n.hasProxies = true ↔ n.proxyList ≠ []) ∧
      n.proxyList = (n.proxies.filter fun t => !Text.allBlank t).map Text.trimmed) ∧
    (∀ (n : Network) (text : String),
      (n.withProxyText text).proxies = (n.withProxyText text).proxyList ∧
      (n.withProxyText text).withProxyText
          ("\n".intercalate (n.withProxyText text).proxies) = n.withProxyText text) ∧
    (∀ j : Job, j.plan.opensPages = true →
      Picks j.synthesize (if j.network.hasProxies then some j.network.proxyList else none)) ∧
    ∀ j : Job, j.plan = .readSaved → Picks j.synthesize none := by
  refine ⟨fun n => ⟨n.hasProxies_iff, Network.usableProxies_eq _⟩,
    fun n text => ⟨n.proxyList_withProxyText text, n.withProxyText_intercalate text⟩,
    fun j opens => ?_, fun j saved => ?_⟩
  · have picks := picks_synthesize j
    rwa [candidates?, opens, Bool.true_and] at picks
  · have picks := picks_synthesize j
    rwa [candidates?, saved] at picks

def candidateJob (target : Backend) (proxies : List String) : Job :=
  { modestJob with target := target, network := { proxies := proxies } }

theorem picks_usable_proxies_candidateJob :
    (candidateJob .staticFetch ["", " a:1 ", "b:2", "a:1"]).plan = .fetchLive ∧
    Picks (candidateJob .staticFetch ["", " a:1 ", "b:2", "a:1"]).synthesize
      (some ["a:1", "b:2", "a:1"]) ∧
    (candidateJob .playwright [" ", "\t"]).plan = .capture .modern ∧
    Picks (candidateJob .playwright [" ", "\t"]).synthesize none ∧
    savedJob.plan = .readSaved ∧ savedJob.network.hasProxies = true ∧
    Picks savedJob.synthesize none := by
  obtain ⟨-, -, opening, saved⟩ := picks_usable_proxies
  have live : (candidateJob .staticFetch ["", " a:1 ", "b:2", "a:1"]).plan = .fetchLive := by
    decide
  have browser : (candidateJob .playwright [" ", "\t"]).plan = .capture .modern := by decide
  have reads : savedJob.plan = .readSaved := by decide
  exact ⟨live, opening _ (by rw [live]; rfl), browser, opening _ (by rw [browser]; rfl), reads,
    by decide, saved _ reads⟩

end Job
end PageHarvest
