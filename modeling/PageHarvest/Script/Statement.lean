import PageHarvest.Text.Basic

namespace PageHarvest.Script

/-- A single quote only for a text with double quotes and without single ones. -/
def literalQuote (s : List Char) : Char :=
  if s.contains '"' && !s.contains '\'' then '\'' else '"'

/-- One character between two `quote`s. Control characters go by their code. -/
def literalChar (quote c : Char) : List Char :=
  if c == '\\' then ['\\', '\\']
  else if c == '\n' then ['\\', 'n']
  else if c == '\r' then ['\\', 'r']
  else if c == '\t' then ['\\', 't']
  else if c == quote then ['\\', c]
  else if Text.isControl c then
    '\\' :: 'x' :: List.replicate (2 - (Nat.toDigits 16 c.toNat).length) '0' ++
      Nat.toDigits 16 c.toNat
  else [c]

def literal (s : List Char) : List Char :=
  let quote := literalQuote s
  quote :: s.flatMap (literalChar quote) ++ [quote]

def listLiteral (items : List (List Char)) : List Char :=
  '[' :: Text.joinWith ", " (items.map literal) ++ [']']

/-- The non-blank lines of a text, trimmed and put on one line. -/
def commentText (s : String) : String :=
  let parts := (Text.fields (fun c => c == '\r' || c == '\n') s.toList).map Text.trim
  String.ofList (Text.joinWith " " (parts.filter (!·.isEmpty)))

/-- A part of an interpolated literal: text as it is, or a hole with an expression. -/
inductive Part
  | plain (text : String)
  | hole (expression : String)
deriving DecidableEq, Repr

/-- A part of a line. -/
inductive Piece
  | code (text : String)
  | quoted (value : String)
  | list (values : List String)
  | interpolated (parts : List Part)
deriving DecidableEq, Repr

def Part.chars : Part → List Char
  | plain text => text.toList
  | hole expression => '\x7b' :: expression.toList ++ ['\x7d']

def Piece.chars : Piece → List Char
  | code text => text.toList
  | quoted value => literal value.toList
  | list values => listLiteral (values.map String.toList)
  | interpolated parts => 'f' :: '"' :: parts.flatMap Part.chars ++ ['"']

def lineChars (pieces : List Piece) : List Char :=
  pieces.flatMap Piece.chars

/--
A script is a tree of lines, comments and blocks. Text that a user entered stands in a piece of its
own, apart from the code around it.
-/
inductive Statement
  | line (pieces : List Piece)
  | comment (text : String)
  /-- A blank line, unless one stands there already. -/
  | blank
  | block (header : List Piece) (body : List Statement)

def Statement.code (text : String) : Statement :=
  .line [.code text]

def Statement.under (header : String) (body : List Statement) : Statement :=
  .block [.code header] body

def Statement.assign (name value : String) : Statement :=
  .line [.code (name ++ " = "), .quoted value]

def Statement.print (parts : List Part) : Statement :=
  .line [.code "print(", .interpolated parts, .code ")"]

end PageHarvest.Script
