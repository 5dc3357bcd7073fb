import PageHarvest.Proofs.Python.Literal
import PageHarvest.Proofs.Script.Layout

namespace PageHarvest.Python

/-- Where the value of a key comes from. -/
inductive Source
  /-- The text of the first element in the container that a selector matches. -/
  | firstMatch (selector : String)
  | nothing
  /-- The text of the container. -/
  | wholeText
deriving DecidableEq, Repr

/-- The selector of the containers, and what is put into the record of one, in order. -/
structure RecordPlan where
  containers : String
  entries : List (String × Source)
deriving DecidableEq, Repr

def indented (depth : Nat) (code : String) : List Char :=
  Script.Writer.indentation depth ++ code.toList

def literalBehind (depth : Nat) (code : String) (line : List Char) :
    Option (List Char × List Char) :=
  let start := indented depth code
  if start.isPrefixOf line then readLiteral (line.drop start.length) else none

/-- What is assigned to a key, by the code behind the key; `element` is what was selected last. -/
def source? (element : Option String) (behind : List Char) : Option Source :=
  if behind = "] = None".toList then some .nothing
  else if behind = "] = element.get_text(strip=True) if element else None".toList then
    element.map .firstMatch
  else if behind = "] = container.get_text(\" \", strip=True)".toList then some .wholeText
  else none

/-- The entries of a record, from lines up to the end of the function. -/
def readEntries (element : Option String) : List (List Char) → Option (List (String × Source))
  | [] => none
  | line :: rest =>
    if line = indented 2 "records.append(record)" then
      if rest = [indented 1 "return records"] then some [] else none
    else if Script.isCommentLine line then readEntries element rest
    else
      match literalBehind 2 "element = container.select_one(" line with
      | some (selector, [')']) => readEntries (some (String.ofList selector)) rest
      | _ => do
        let (key, behind) ← literalBehind 2 "record[" line
        let source ← source? element behind
        let entries ← readEntries element rest
        return (String.ofList key, source) :: entries

def readBodyPlan : List (List Char) → Option RecordPlan
  | first :: second :: third :: fourth :: rest =>
    if first = indented 1 "records = []" ∧ third = indented 1 "for container in containers:" ∧
        fourth = indented 2 "record = \x7b\x7d" then
      match literalBehind 1 "containers = soup.select(" second with
      | some (selector, [')']) =>
        (readEntries none rest).map fun entries => ⟨String.ofList selector, entries⟩
      | _ => none
    else none
  | _ => none

/-- Gives a key of a dictionary its value. A key that is there stays in its place. -/
def assign (key : String) (value : Option String) :
    List (String × Option String) → List (String × Option String)
  | [] => [(key, value)]
  | (k, v) :: rest => if k = key then (k, value) :: rest else (k, v) :: assign key value rest

def Source.selector? : Source → Option String
  | firstMatch selector => some selector
  | _ => none

def Source.value (text? : String → Option String) (whole : String) : Source → Option String
  | firstMatch selector => text? selector
  | nothing => none
  | wholeText => some whole

namespace RecordPlan

def keys (p : RecordPlan) : List String :=
  p.entries.map Prod.fst

def record (p : RecordPlan) (text? : String → Option String) (whole : String) :
    List (String × Option String) :=
  p.entries.foldl (fun r e => assign e.1 (e.2.value text? whole) r) []

end RecordPlan

theorem assign_of_not_mem {key : String} {r : List (String × Option String)}
    (h : key ∉ r.map Prod.fst) (value : Option String) :
    assign key value r = r ++ [(key, value)] := by
  induction r with
  | nil => rfl
  | cons e r ih =>
    rw [List.map_cons, List.mem_cons, not_or] at h
    rw [assign, if_neg (Ne.symm h.1), ih h.2, List.cons_append]

theorem RecordPlan.record_eq_map {p : RecordPlan} (h : p.keys.Nodup)
    (text? : String → Option String) (whole : String) :
    p.record text? whole = p.entries.map fun e => (e.1, e.2.value text? whole) := by
  obtain ⟨containers, entries⟩ := p
  simp only [keys, record] at h ⊢
  induction entries using List.reverseRecOn with
  | nil => rfl
  | append_singleton front e ih =>
    rw [List.map_append, List.nodup_append] at h
    have new : e.1 ∉ (front.map fun e => (e.1, e.2.value text? whole)).map Prod.fst := by
      intro hm
      rw [List.map_map] at hm
      exact h.2.2 e.1 hm e.1 (by simp) rfl
    rw [List.foldl_append, ih h.1, List.foldl_cons, List.foldl_nil, assign_of_not_mem new,
      List.map_append, List.map_singleton]

end PageHarvest.Python
