import PageHarvest.Script.Statement
import PageHarvest.Text.Basic

namespace PageHarvest.Script

/-- The characters written so far, the latest first, and the number of open blocks. -/
structure Writer where
  written : List Char := []
  depth : Nat := 0
deriving DecidableEq, Repr

namespace Writer

def text (w : Writer) : List Char :=
  w.written.reverse

def put (w : Writer) (s : List Char) : Writer :=
  { w with written := s.reverse ++ w.written }

@[simp] theorem text_put (w : Writer) (s : List Char) : (w.put s).text = w.text ++ s := by
  simp [text, put]

def indentation (depth : Nat) : List Char :=
  List.replicate (4 * depth) ' '

def line (w : Writer) (s : List Char) : Writer :=
  let indent := if s.isEmpty then [] else indentation w.depth
  w.put (indent ++ s ++ ['\n'])

/-- Writes a blank line, but not as the first line and not as the second blank line in a row. -/
def blank (w : Writer) : Writer :=
  if w.written.isEmpty || ['\n', '\n'].isPrefixOf w.written then w else w.put ['\n']

def comment (w : Writer) (text : List Char) : Writer :=
  let commentLine : List Char → List Char
    | [] => ['#']
    | part => '#' :: ' ' :: part
  if text.isEmpty then w.line ['#']
  else ((Text.lines text).map commentLine).foldl line w

/-- Writes a header and then, one level deeper, what `body` writes, or `pass` if that is nothing. -/
def block (w : Writer) (header : List Char) (body : Writer → Writer) : Writer :=
  let opened := { w.line header with depth := w.depth + 1 }
  let inside := body opened
  let filled :=
    if inside.written.length = opened.written.length then inside.line "pass".toList else inside
  { filled with depth := filled.depth - 1 }

/-- The text with exactly one line feed at its end. -/
def finish (w : Writer) : String :=
  String.ofList ('\n' :: w.written.dropWhile (· == '\n')).reverse

mutual

def write (w : Writer) : Statement → Writer
  | .line pieces => w.line (lineChars pieces)
  | .comment text => w.comment text.toList
  | .blank => w.blank
  | .block header body => w.block (lineChars header) fun w => w.writeAll body

def writeAll (w : Writer) : List Statement → Writer
  | [] => w
  | s :: rest => (w.write s).writeAll rest

end

end Writer

def render (script : List Statement) : String :=
  (({} : Writer).writeAll script).finish

end PageHarvest.Script
