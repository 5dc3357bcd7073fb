import PageHarvest.FieldId
import PageHarvest.Text.Printable
import PageHarvest.Decimal.Text

namespace PageHarvest.Json

inductive Fault
  | endInList
  | endInObject
  | endInString
  | endInValue
  | expectedColon
  | expectedListEnd
  | expectedObjectEnd
  | expectedWord
  | expectedValue
  | invalidEscape
  | invalidNumber
  | numberOutOfRange
  | controlCharacter
  | keyNotString
  | loneSurrogate
  | trailingComma
  | trailingCharacters
  | endOfHexEscape
  | tooDeep
deriving DecidableEq, Repr

def Fault.message : Fault → String
  | endInList => "EOF while parsing a list"
  | endInObject => "EOF while parsing an object"
  | endInString => "EOF while parsing a string"
  | endInValue => "EOF while parsing a value"
  | expectedColon => "expected `:`"
  | expectedListEnd => "expected `,` or `]`"
  | expectedObjectEnd => "expected `,` or `\x7d`"
  | expectedWord => "expected ident"
  | expectedValue => "expected value"
  | invalidEscape => "invalid escape"
  | invalidNumber => "invalid number"
  | numberOutOfRange => "number out of range"
  | controlCharacter => "control character (\\u0000-\\u001F) found while parsing a string"
  | keyNotString => "key must be a string"
  | loneSurrogate => "lone leading surrogate in hex escape"
  | trailingComma => "trailing comma"
  | trailingCharacters => "trailing characters"
  | endOfHexEscape => "unexpected end of hex escape"
  | tooDeep => "recursion limit exceeded"

/-- A number: a natural number of 64 bits, the negative of one, or a float by its 64 bits. -/
inductive Number
  | natural (n : UInt64)
  | negative (magnitude : UInt64)
  | float (bits : UInt64)
deriving DecidableEq, Repr

def Number.text : Number → String
  | natural n => toString n.toNat
  | negative n => "-" ++ toString n.toNat
  | float bits => Decimal.text64 .json bits

/-- What stands where something else was expected. -/
inductive Found
  | null
  | bool (b : Bool)
  | number (n : Number)
  | string (s : String)
  | sequence
  | map
deriving DecidableEq, Repr

def Found.describe : Found → String
  | null => "null"
  | bool b => "boolean `" ++ (if b then "true" else "false") ++ "`"
  | number (.float bits) => "floating point `" ++ (Number.float bits).text ++ "`"
  | number n => "integer `" ++ n.text ++ "`"
  | string s => "string " ++ Text.quoted s
  | sequence => "sequence"
  | map => "map"

/-- A fault of reading a JSON text as something. -/
inductive ReadFault
  | malformed (fault : Fault)
  | wrongType (found : Found) (expected : String)
  | wrongValue (found : Found) (expected : String)
  | wrongLength (found : Nat) (expected : String)
  | unknownVariant (found : String) (options : List String)
  | missingMember (name : String)
  | repeatedMember (name : String)
  | fieldId (fault : FieldIdFault)
deriving DecidableEq, Repr

def optionsText : List String → String
  | [] => "there are no variants"
  | [a] => "expected `" ++ a ++ "`"
  | [a, b] => "expected `" ++ a ++ "` or `" ++ b ++ "`"
  | names => "expected one of " ++ ", ".intercalate (names.map fun n => "`" ++ n ++ "`")

def ReadFault.message : ReadFault → String
  | malformed fault => fault.message
  | wrongType found expected => "invalid type: " ++ found.describe ++ ", expected " ++ expected
  | wrongValue found expected => "invalid value: " ++ found.describe ++ ", expected " ++ expected
  | wrongLength found expected => s!"invalid length {found}, expected {expected}"
  | unknownVariant found options => "unknown variant `" ++ found ++ "`, " ++ optionsText options
  | missingMember name => "missing field `" ++ name ++ "`"
  | repeatedMember name => "duplicate field `" ++ name ++ "`"
  | fieldId fault => "UUID parsing failed: " ++ fault.message

end PageHarvest.Json
