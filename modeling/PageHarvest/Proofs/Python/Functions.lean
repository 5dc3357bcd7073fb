import PageHarvest.Proofs.Python.Addresses
import PageHarvest.Proofs.Python.Value
import PageHarvest.Proofs.Script.Faithful

namespace PageHarvest.Python

open Script (Nest recover)

/-- The lexemes of a line of code but for its blanks, with what its literals hold. -/
def lexemesOf (line : List Char) : List Lexeme :=
  (codeLine line).code

/-- What a name stands for in a function that is running. -/
inductive Datum
  | value (v : Value)
  /-- The page of a URL. -/
  | page (url : String)
  /-- What is answered to a request for a URL. -/
  | answer (url : String)
  | path (folder file : String)
  | other
deriving DecidableEq

/-- A file with the page of a URL in it. -/
structure SavedPage where
  folder : String
  file : String
  url : String
deriving DecidableEq

/-- What a line of a function does, or a line with the only one in its block. -/
inductive Step
  /-- Makes a path of a folder and of what a formatted literal gives. -/
  | join (target folder file : List Char)
  /-- Writes a text to the file of a path, whatever stood in it. -/
  | write (path content : List Char)
  | request (target url : List Char)
  | choose (target : List Char)
  /-- Goes on just if a request was answered with a page. -/
  | check (answer : List Char)
  | print
  /-- Gives back the page of an answer. -/
  | giveText (answer : List Char)
deriving DecidableEq

structure Function where
  parameters : List (List Char)
  steps : List Step
deriving DecidableEq

/-- A function that is running: what its names stand for, and what it has done so far. -/
structure Execution where
  names : List (List Char × Datum)
  requested : List String := []
  saved : List SavedPage := []
  result : Option Datum := none

def Datum.text? : Datum → Option (List Char)
  | value (.text s) => some s.toList
  | value (.whole n) => some (toString n).toList
  | _ => none

/-- A formatted literal with texts for the names in its holes. -/
def fill? (text? : List Char → Option (List Char)) : Option (List Char) → List Char →
    Option (List Char)
  | none, [] => some []
  | some _, [] => none
  | none, '\x7b' :: s => fill? text? (some []) s
  | none, c :: s =>
    -- no escape is read, and no hole ends that has not been opened
    if c = '\\' ∨ c = '\x7d' then none else (fill? text? none s).map (c :: ·)
  | some name, '\x7d' :: s => do
    let text ← text? name.reverse
    return text ++ (← fill? text? none s)
  | some name, c :: s => fill? text? (some (c :: name)) s

namespace Execution

def bind (x : Execution) (name : List Char) (d : Datum) : Execution :=
  { x with names := (name, d) :: x.names }

def run? (x : Execution) : Step → Option Execution
  | .join target folder file => do
    let name ← fill? (fun w => (x.names.lookup w).bind Datum.text?) none file
    -- the folder is a constant of the program, which no name of the function hides
    if (x.names.lookup folder).isSome then none
    else return x.bind target (.path (String.ofList folder) (String.ofList name))
  | .write path content =>
    match x.names.lookup path, x.names.lookup content with
    | some (.path folder file), some (.page url) =>
      some { x with saved := x.saved ++ [⟨folder, file, url⟩] }
    | _, _ => none
  | .request target url =>
    match x.names.lookup url with
    | some (.value (.text url)) =>
      some { x.bind target (.answer url) with requested := x.requested ++ [url] }
    | _ => none
  | .choose target => some (x.bind target .other)
  | .check answer =>
    match x.names.lookup answer with
    | some (.answer _) => some x
    | _ => none
  | .print => some x
  | .giveText answer =>
    match x.names.lookup answer with
    | some (.answer url) => some { x with result := some (.page url) }
    | _ => none

/-- Nothing is run behind a step that gives back a result. -/
def step? (x : Execution) (s : Step) : Option Execution :=
  if x.result.isSome then none else x.run? s

end Execution

def Function.call? (f : Function) (arguments : List Datum) : Option Execution :=
  if f.parameters.length = arguments.length then
    f.steps.foldlM Execution.step? { names := f.parameters.zip arguments }
  else none

end PageHarvest.Python
