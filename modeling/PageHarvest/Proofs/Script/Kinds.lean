import PageHarvest.Proofs.Script.Bound
import PageHarvest.Proofs.Script.Guidance

namespace PageHarvest

namespace Python

def imports (name : String) (line : List Char) : Bool :=
  (importedNames (unindented (Script.lineCode line))).contains name.toList

def binds (name : String) (line : List Char) : Bool :=
  (boundNames (Script.lineCode line)).contains name.toList

def uses (name : String) (line : List Char) : Bool :=
  (usedNames (Script.lineCode line)).contains name.toList

end Python

namespace Script

open Python

theorem Entry.mem_imports {line : List Lexeme} {n : Name} :
    some n ∈ (ofLine line).imports ↔ n.text.toList ∈ importedNames (unindented line) := by
  simp only [ofLine, List.mem_map, Name.ofWord?_eq_some_iff]
  constructor
  · rintro ⟨_, h, rfl⟩
    exact h
  · exact fun h => ⟨_, h, rfl⟩

/-- The entry of a line shows whether the line is of a kind, of which no idle line is. -/
structure ShownBy (kind : List Char → Bool) (p : Entry → Bool) : Prop where
  eq : ∀ line, kind line = p (Entry.ofLine (lineCode line))
  idle : p {} = false

theorem shownBy_imports (n : Name) :
    ShownBy (imports n.text) fun e => decide (some n ∈ e.imports) where
  eq line := by simp only [imports, List.contains_eq_mem, Entry.mem_imports]
  idle := rfl

theorem shownBy_binds (n : Name) : ShownBy (binds n.text) fun e => decide (n ∈ e.binds) where
  eq line := by simp only [binds, List.contains_eq_mem, Entry.mem_binds]
  idle := rfl

theorem shownBy_uses (n : Name) : ShownBy (uses n.text) fun e => decide (n ∈ e.uses) where
  eq line := by simp only [uses, List.contains_eq_mem, Entry.mem_uses]
  idle := rfl

namespace ShownBy

variable {kind : List Char → Bool} {p : Entry → Bool}

theorem countP_rows (h : ShownBy kind p) (rows : List Row) :
    (rows.map Row.line).countP kind = (rowEntries rows).countP p := by
  have shown : kind ∘ Row.line = fun r => p (Entry.ofLine r.lexemes) :=
    funext fun r => h.eq r.line
  have idle : ∀ e : Entry, (p e && !e.isIdle) = p e := by
    intro e
    cases hi : e.isIdle with
    | true => rw [Entry.eq_of_isIdle hi, h.idle, Bool.false_and]
    | false => rw [Bool.not_false, Bool.and_true]
  rw [List.countP_map, shown, rowEntries, List.countP_filter]
  simp only [idle, List.countP_map]
  rfl

theorem countP_synthesize (h : ShownBy kind p) (j : Job) :
    (Text.lines j.synthesize.toList).countP kind = (entriesAll true j.statements).countP p := by
  rw [Job.lines_synthesize, h.countP_rows, rowEntries_settled,
    rowEntries_rowsAll j.allTidy_statements]
  rfl

end ShownBy

def Plan.opensPages : Plan → Bool
  | capture _ | fetchLive => true
  | guidance _ | readSaved => false

/-- How many lines have to do with the network, by whether pages are opened at all. -/
structure NetworkLines (opens proxies : Bool) (entries : List Entry) : Prop where
  delay : entries.countP (fun e => decide (.requestDelay ∈ e.binds)) = if opens then 1 else 0
  generator : entries.countP (fun e => decide (some .random ∈ e.imports)) =
    if opens && proxies then 1 else 0
  list : entries.countP (fun e => decide (.proxies ∈ e.binds)) =
    if opens && proxies then 1 else 0
  choice : entries.countP (fun e => decide (.proxies ∈ e.uses)) =
    if opens && proxies then 1 else 0

theorem networkLines_nil (proxies : Bool) : NetworkLines false proxies [] := by
  constructor <;> rfl

theorem networkLines_captureEntries (engine : Engine) (proxies pattern clicks : Bool) :
    NetworkLines true proxies (captureEntries engine proxies pattern clicks) := by
  cases engine <;> cases proxies <;> cases pattern <;> cases clicks <;> constructor <;> decide

theorem networkLines_fetchEntries (proxies pattern resolves : Bool) (format : OutputFormat) :
    NetworkLines true proxies (fetchEntries proxies pattern resolves format) := by
  cases format <;> cases proxies <;> cases pattern <;> cases resolves <;> constructor <;> decide

theorem networkLines_savedEntries (proxies based resolves : Bool) (format : OutputFormat) :
    NetworkLines false proxies (savedEntries based resolves format) := by
  cases format <;> cases based <;> cases resolves <;> constructor <;> rfl

end Script

namespace Job

open Script

theorem networkLines_statements (j : Job) :
    NetworkLines j.plan.opensPages j.network.hasProxies (entriesAll true j.statements) := by
  have origin := j.origin_of_plan
  rw [statements, entriesAll_append, entries_header, List.nil_append]
  cases hp : j.plan with
  | guidance reason =>
    have none : entriesAll true (guidance reason) = [] := by simp [guidance]
    exact none ▸ networkLines_nil _
  | capture engine =>
    exact entries_captureScript j engine ▸ networkLines_captureEntries _ _ _ _
  | fetchLive => exact entries_fetchScript (origin.1 hp) ▸ networkLines_fetchEntries _ _ _ _
  | readSaved => exact entries_savedPagesScript (origin.2 hp) ▸ networkLines_savedEntries _ _ _ _

end Job
end PageHarvest
