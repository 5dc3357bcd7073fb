import PageHarvest.Script.Plan
import PageHarvest.Text.Printable
import PageHarvest.Text.Basic

namespace PageHarvest.Script

/-- What a check objects to; lines are numbered from one. -/
inductive Objection
  | lacks (needle : String)
  | holds (needle : String)
  | codeInGuidance (line : String)
  | blankScript
  | noFinalNewline
  | tab (number : Nat) (line : String)
  | trailingBlank (number : Nat)
  | oddIndentation (number : Nat) (line : String)
  | openerAtEnd (line : String)
  | openerWithoutBody (number : Nat) (line : String)
deriving DecidableEq, Repr

open Text (quoted) in
def Objection.message : Objection → String
  | lacks needle => s!"Expected script to contain {quoted needle}, got:"
  | holds needle => s!"Expected script not to contain {quoted needle}, got:"
  | codeInGuidance line => s!"Expected only comments in a guidance script, found {quoted line}"
  | blankScript => "Expected a non-empty script"
  | noFinalNewline => "Expected a trailing newline"
  | tab number line => s!"Tab on line {number}: {quoted line}"
  | trailingBlank number => s!"Trailing whitespace on line {number}"
  | oddIndentation number line => s!"Odd indentation on line {number}: {quoted line}"
  | openerAtEnd line => s!"Block opener on last line: {quoted line}"
  | openerWithoutBody number line => s!"Block opener on line {number} has no body: {quoted line}"

def checkContains (script needle : String) : Except Objection Unit :=
  if Text.contains needle.toList script.toList then .ok () else .error (.lacks needle)

def checkLacks (script needle : String) : Except Objection Unit :=
  if Text.contains needle.toList script.toList then .error (.holds needle) else .ok ()

def isBlankLine (line : List Char) : Bool :=
  line.all Text.isBlank

def checkGuidance (script : String) : Except Objection Unit := do
  checkContains script guidanceNotice
  let isCode (line : List Char) : Bool := !isBlankLine line && line.head? != some '#'
  match (Text.lines script.toList).find? isCode with
  | some line => throw (.codeInGuidance (String.ofList line))
  | none => return

/-- The number of bytes before the first character that is not blank. -/
def indentOf (line : List Char) : Nat :=
  Text.byteLength (line.takeWhile Text.isBlank)

/-- A block opener ends in a colon and is no comment. -/
def opensBlock (line : List Char) : Bool :=
  line.getLast? == some ':' && (line.dropWhile Text.isBlank).head? != some '#'

/-- A block opener needs a deeper line next, blank lines aside. -/
def checkBody (number : Nat) (line : List Char) (rest : List (List Char)) :
    Except Objection Unit :=
  if !opensBlock line then .ok ()
  else
    match rest.find? (!isBlankLine ·) with
    | none => .error (.openerAtEnd (String.ofList line))
    | some next =>
      if indentOf line < indentOf next then .ok ()
      else .error (.openerWithoutBody number (String.ofList line))

def checkLine (number : Nat) (line : List Char) (rest : List (List Char)) :
    Except Objection Unit :=
  if line.contains '\t' then .error (.tab number (String.ofList line))
  else if Text.dropTrailing Text.isBlank line ≠ line then .error (.trailingBlank number)
  else if indentOf line % 4 ≠ 0 then .error (.oddIndentation number (String.ofList line))
  else checkBody number line rest

def checkLines (number : Nat) : List (List Char) → Except Objection Unit
  | [] => .ok ()
  | line :: rest => do
    checkLine number line rest
    checkLines (number + 1) rest

def checkLayout (script : String) : Except Objection Unit :=
  if Text.allBlank script then .error .blankScript
  else if script.toList.getLast? ≠ some '\n' then .error .noFinalNewline
  else checkLines 1 (Text.lines script.toList)

end PageHarvest.Script
