import PageHarvest.Proofs.Python.Addresses
import PageHarvest.Proofs.Script.Constants
import PageHarvest.Proofs.Script.Layout
import PageHarvest.Proofs.Script.Mentions

namespace PageHarvest.Python

/-- A line that gives a name what a function makes of its arguments. -/
structure Call where
  target : List Char
  function : List Char
  arguments : List (List Lexeme)
deriving DecidableEq

/-- Reads `name = function(arguments)`, where no argument is a call. -/
def call? (line : CodeLine) : Option Call :=
  match line.code with
  | .word name :: .mark '=' :: .word f :: .mark '(' :: rest =>
    if rest.getLast? = some (.mark ')') ∧ .mark '(' ∉ rest then
      some ⟨name, f, rest.dropLast.splitOn (.mark ',')⟩
    else none
  | _ => none

/-- What a value has been made of in the body of a loop. -/
inductive Provenance
  | other
  /-- What the loop is at. -/
  | item
  /-- What a function makes of its first argument. -/
  | result (function : List Char) (argument : Provenance)
deriving DecidableEq

def provenance (env : List Char → Provenance) : List Lexeme → Provenance
  | [.word name] => env name
  | _ => .other

/-- What is known of the names behind a line. A line that opens a block tells nothing. -/
def CodeLine.pass (env : List Char → Provenance) (line : CodeLine) : List Char → Provenance :=
  match call? line, assignedName? line.code with
  | some c, _ =>
    Function.update env c.target
      (.result c.function ((c.arguments.head?.map (provenance env)).getD .other))
  | none, some name => Function.update env name .other
  | none, none => env

end PageHarvest.Python
