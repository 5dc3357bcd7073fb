import PageHarvest.Proofs.Python.Functions
import PageHarvest.Proofs.Script.Constants

namespace PageHarvest.Python

open Script (Nest recover)

abbrev Env := List Char → Option Value

/-- A name, or what `str` makes of its value. -/
inductive Term
  | name (word : List Char)
  | str (word : List Char)
deriving DecidableEq

def Value.str? : Value → Option Value
  | text s => some (text s)
  | whole n => some (text (toString n))
  | _ => none

def Term.value? (env : Env) : Term → Option Value
  | name w => env w
  | str w => (env w).bind Value.str?

namespace Browser

variable {save : Function} {b : Browser} {value : List Term}

end Browser

mutual

def nestShows (words : List (List Char)) : Nest → Bool
  | .line text => showsAny words text
  | .block header body => showsAny words header || anyShows words body

def anyShows (words : List (List Char)) : List Nest → Bool
  | [] => false
  | n :: rest => nestShows words n || anyShows words rest

end

def startsWith (word : String) (line : List Char) : Bool :=
  (lexemesOf line).head? == some (.word word.toList)

/-- Whether the block of a line is always run, and once. -/
def runsOnce (header : List Char) : Bool :=
  startsWith "with" header || startsWith "try" header || startsWith "finally" header

mutual

/-- What is run one after the other in place of a nest. -/
def once : Nest → List Nest
  | .line text => [.line text]
  | .block header body =>
    if runsOnce header then .line header :: onceAll body else [.block header body]

def onceAll : List Nest → List Nest
  | [] => []
  | n :: rest => once n ++ onceAll rest

end

/-- The words without which a program neither opens pages nor saves them. -/
def workWords : List (List Char) :=
  ["save_page", "fetch", "get", "goto", "page_urls"].map String.toList

/-- Whether a nest has to do with opening pages and saving them. A definition runs nothing. -/
def concernsPages : Nest → Bool
  | .line text => showsAny workWords text
  | .block header body =>
    showsAny workWords header || (!startsWith "def" header && anyShows workWords body)

/-- What a program does to open pages and save them, with the definitions for it. -/
def work (nests : List Nest) : List Nest :=
  (onceAll nests).filter concernsPages

theorem anyShows_append (words : List (List Char)) (a b : List Nest) :
    anyShows words (a ++ b) = (anyShows words a || anyShows words b) := by
  induction a with
  | nil => rfl
  | cons n a ih => simp only [List.cons_append, anyShows, ih, Bool.or_assoc]

mutual

theorem anyShows_once (words : List (List Char)) (n : Nest) :
    anyShows words (once n) = nestShows words n := by
  cases n with
  | line text => simp [once, anyShows]
  | block header body =>
    rw [once]
    split_ifs
    · rw [anyShows, anyShows_onceAll words body, nestShows, nestShows]
    · rw [anyShows, anyShows, Bool.or_false]

theorem anyShows_onceAll (words : List (List Char)) (nests : List Nest) :
    anyShows words (onceAll nests) = anyShows words nests := by
  cases nests with
  | nil => rfl
  | cons n rest =>
    rw [onceAll, anyShows_append, anyShows_once words n, anyShows_onceAll words rest, anyShows]

end

section blocks

variable {header : List Char} (body : List Nest)

end blocks

end PageHarvest.Python
