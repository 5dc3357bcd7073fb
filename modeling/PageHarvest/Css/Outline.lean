import PageHarvest.Css.Token
import PageHarvest.Text.Printable

namespace PageHarvest.Css

inductive Outline
  | plain (text : String)
  | tuple (name : String) (parts : List Outline)
  | record (name : String) (members : List Outline)
  | member (label : String) (value : Outline)

namespace Outline

def partLines (ls : List String) : List String :=
  (ls.dropLast ++ (ls.getLast?.map (· ++ ",")).toList).map ("    " ++ ·)

def labelled (label : String) : List String → List String
  | [] => []
  | l :: ls => (label ++ ": " ++ l) :: ls

mutual

def lines : Outline → List String
  | plain text => [text]
  | tuple name parts => (name ++ "(") :: allLines parts ++ [")"]
  | record name members => (name ++ " \x7b") :: allLines members ++ ["\x7d"]
  | member label value => labelled label value.lines

def allLines : List Outline → List String
  | [] => []
  | o :: os => partLines o.lines ++ allLines os

end

def text (o : Outline) : String :=
  "\n".intercalate o.lines

def quoted (s : String) : Outline :=
  plain (Text.quoted s)

end Outline

namespace Numeral

def outlineParts (valueLabel : String) (n : Numeral) : List Outline :=
  [.member "has_sign" (.plain (if n.signed then "true" else "false")),
   .member valueLabel (.plain (Decimal.text32 .value n.bits)),
   .member "int_value" (match n.whole with
      | some w => .tuple "Some" [.plain (toString w)]
      | none => .plain "None")]

end Numeral

namespace Token

/-- The short text of a token. A mark that has no meaning of its own and an address have none. -/
def text? : Token → Option String
  | ident name => some name
  | atWord name => some ("@" ++ name)
  | hash name | idHash name => some ("#" ++ name)
  | quoted text => some ("\"" ++ text ++ "\"")
  | url _ => none
  | delim _ => none
  | number n => some n.text
  | percentage n => some (n.text ++ "%")
  | dimension n unit => some (n.text ++ unit)
  | blank _ => some " "
  | colon => some ":"
  | semicolon => some ";"
  | comma => some ","
  | includes => some "~="
  | dashes => some "|="
  | begins => some "^="
  | ends => some "$="
  | holds => some "*="
  | commentOpen => some "<!--"
  | commentClose => some "-->"
  | function name => some (name ++ "()")
  | openParen => some "<("
  | openSquare => some "<["
  | openCurly => some "<\x7b"
  | badUrl text => some ("<Bad URL " ++ Text.quoted text ++ ">")
  | badQuoted text => some ("<Bad String " ++ Text.quoted text ++ ">")
  | closeParen => some "<)"
  | closeSquare => some "<]"
  | closeCurly => some "<\x7d"

def outline : Token → Outline
  | ident name => .tuple "Ident" [.quoted name]
  | atWord name => .tuple "AtKeyword" [.quoted name]
  | hash name => .tuple "Hash" [.quoted name]
  | idHash name => .tuple "IDHash" [.quoted name]
  | quoted text => .tuple "QuotedString" [.quoted text]
  | url text => .tuple "UnquotedUrl" [.quoted text]
  | delim c => .tuple "Delim" [.plain (Text.quotedChar c)]
  | number n => .record "Number" (n.outlineParts "value")
  | percentage n => .record "Percentage" (n.outlineParts "unit_value")
  | dimension n unit =>
    .record "Dimension" (n.outlineParts "value" ++ [.member "unit" (.quoted unit)])
  | blank text => .tuple "WhiteSpace" [.quoted text]
  | colon => .plain "Colon"
  | semicolon => .plain "Semicolon"
  | comma => .plain "Comma"
  | includes => .plain "IncludeMatch"
  | dashes => .plain "DashMatch"
  | begins => .plain "PrefixMatch"
  | ends => .plain "SuffixMatch"
  | holds => .plain "SubstringMatch"
  | commentOpen => .plain "CDO"
  | commentClose => .plain "CDC"
  | function name => .tuple "Function" [.quoted name]
  | openParen => .plain "ParenthesisBlock"
  | openSquare => .plain "SquareBracketBlock"
  | openCurly => .plain "CurlyBracketBlock"
  | badUrl text => .tuple "BadUrl" [.quoted text]
  | badQuoted text => .tuple "BadString" [.quoted text]
  | closeParen => .plain "CloseParenthesis"
  | closeSquare => .plain "CloseSquareBracket"
  | closeCurly => .plain "CloseCurlyBracket"

end Token
end PageHarvest.Css
