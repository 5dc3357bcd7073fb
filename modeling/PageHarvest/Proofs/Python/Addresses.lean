import Mathlib.Logic.Function.Basic
import PageHarvest.Proofs.Script.Code

namespace PageHarvest.Python

/-- A line of code: the blanks in front, and the lexemes behind them but for blanks. -/
structure CodeLine where
  depth : Nat
  code : List Lexeme
deriving DecidableEq

def CodeLine.ofLexemes (lexemes : List Lexeme) : CodeLine where
  depth := (lexemes.takeWhile (· = .mark ' ')).length
  code := lexemes.filter fun x => x ≠ .mark ' ' ∧ x ≠ .lineEnd

/-- A line with what its literals hold. One that cannot be read has no code. -/
def codeLine (line : List Char) : CodeLine :=
  .ofLexemes (((scan (.code []) (line ++ ['\n'])).map Prod.snd).getD [])

def Lexeme.shows (word : List Char) : Lexeme → Bool
  | .word text => text == word
  | .literal formatted _ body => formatted && Text.contains word body
  | _ => false

def showsWord (word line : List Char) : Bool :=
  (Script.lineCode line).any (Lexeme.shows word)

def showsAny (words : List (List Char)) (line : List Char) : Bool :=
  (Script.lineCode line).any fun x => words.any x.shows

def mentions (name : String) : List Char → Bool :=
  showsWord name.toList

end PageHarvest.Python

