import PageHarvest.Text.Basic

namespace PageHarvest

/-- One `key=value` occurrence, the value without its quotes. -/
structure AttrPair where
  key : String
  value : String
deriving DecidableEq, Repr, Inhabited

/-- Offsets count UTF-8 bytes from the start of the attribute text. -/
inductive AttrFault
  | missingEquals (key : String) (offset : Nat)
  | unterminatedQuote (quote : Char) (offset : Nat)
  | unexpectedChar (found : Char) (offset : Nat)
  | emptyKey (offset : Nat)
  | emptyValue (key : String)
deriving DecidableEq, Repr

namespace AttrFault

def message : AttrFault → String
  | missingEquals key offset => s!"expected '=' after key '{key}' at offset {offset}"
  | unterminatedQuote quote offset => s!"unterminated {quote} quote starting at offset {offset}"
  | unexpectedChar found offset => s!"unexpected character '{found}' at offset {offset}"
  | emptyKey offset => s!"missing key before '=' at offset {offset}"
  | emptyValue key => s!"empty value for key '{key}'"

/-- The same fault in a text that stands `n` bytes further on. -/
def shift (n : Nat) : AttrFault → AttrFault
  | missingEquals key offset => missingEquals key (n + offset)
  | unterminatedQuote quote offset => unterminatedQuote quote (n + offset)
  | unexpectedChar found offset => unexpectedChar found (n + offset)
  | emptyKey offset => emptyKey (n + offset)
  | emptyValue key => emptyValue key

end AttrFault

namespace Attrs

def isKeyChar (c : Char) : Bool :=
  c.isAlphanum || c == '-' || c == '_'

def isSeparator (c : Char) : Bool :=
  Text.isBlank c || c == ','

def isQuote (c : Char) : Bool :=
  c == '"' || c == '\''

end Attrs
end PageHarvest
