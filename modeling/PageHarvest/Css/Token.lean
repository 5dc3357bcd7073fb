import PageHarvest.Decimal.Text

namespace PageHarvest.Css

/-- A number as it is written. -/
structure Numeral where
  /-- Whether a sign stands before it. -/
  signed : Bool
  /-- The bits of its value in single precision. -/
  bits : UInt32
  /-- Its value in the range of a signed word of 32 bits, if it has no fraction and no exponent. -/
  whole : Option Int
deriving DecidableEq, Repr, Inhabited

inductive Token
  | ident (name : String)
  | atWord (name : String)
  /-- A hash whose name cannot be an identifier. -/
  | hash (name : String)
  | idHash (name : String)
  | quoted (text : String)
  | url (text : String)
  | delim (c : Char)
  | number (n : Numeral)
  /-- The value is a hundredth of the number written. -/
  | percentage (n : Numeral)
  | dimension (n : Numeral) (unit : String)
  | blank (text : String)
  | colon
  | semicolon
  | comma
  | includes
  | dashes
  | begins
  | ends
  | holds
  | commentOpen
  | commentClose
  | function (name : String)
  | openParen
  | openSquare
  | openCurly
  | badUrl (text : String)
  | badQuoted (text : String)
  | closeParen
  | closeSquare
  | closeCurly
deriving DecidableEq, Repr, Inhabited

namespace Token

def closer? : Token → Option Token
  | function _ | openParen => some closeParen
  | openSquare => some closeSquare
  | openCurly => some closeCurly
  | _ => none

/-- A token that no style sheet may hold: unfinished text, or a bracket that closes nothing. -/
def isFaulty : Token → Bool
  | badUrl _ | badQuoted _ | closeParen | closeSquare | closeCurly => true
  | _ => false

def isBlank : Token → Bool
  | blank _ => true
  | _ => false

end Token

namespace Numeral

def isPositive (n : Numeral) : Bool :=
  0 < n.bits.toNat && n.bits.toNat ≤ 0x7F800000

/-- The number in a message. A sign is written again, also before a number that has one already. -/
def text (n : Numeral) : String :=
  let digits := Decimal.text32 .plain n.bits
  if !n.signed then digits
  else if n.isPositive then "+" ++ digits
  else "-" ++ digits

end Numeral
end PageHarvest.Css
