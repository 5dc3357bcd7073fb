import PageHarvest.Json.Fault

namespace PageHarvest.Json

/-- A JSON value; an object keeps its members in order, also those that share a key. -/
inductive Value
  | null
  | bool (b : Bool)
  | number (n : Number)
  | string (s : String)
  | array (items : List Value)
  | object (members : List (String × Value))
deriving Repr, Inhabited

namespace Value

def natural (n : Nat) : Value :=
  number (.natural (UInt64.ofNat n))

def ofOption : Option String → Value
  | some s => string s
  | none => null

def strings (items : List String) : Value :=
  array (items.map string)

def found : Value → Found
  | null => .null
  | bool b => .bool b
  | number n => .number n
  | string s => .string s
  | array _ => .sequence
  | object _ => .map

def member? (key : String) : Value → Option Value
  | object members => (members.reverse.find? (·.1 == key)).map (·.2)
  | _ => none

def insertMember (key : String) (value : Value) :
    List (String × Value) → List (String × Value)
  | [] => [(key, value)]
  | (k, v) :: rest =>
    if key == k then (k, value) :: rest
    else if key < k then (key, value) :: (k, v) :: rest
    else (k, v) :: insertMember key value rest

/-- Members in the order of their keys; of those that share a key the last one counts. -/
def sortMembers (members : List (String × Value)) : List (String × Value) :=
  members.foldl (fun sorted (key, value) => insertMember key value sorted) []

mutual

def sorted : Value → Value
  | array items => array (sortedItems items)
  | object members => object (sortMembers (sortedMembers members))
  | v => v

def sortedItems : List Value → List Value
  | [] => []
  | v :: rest => v.sorted :: sortedItems rest

def sortedMembers : List (String × Value) → List (String × Value)
  | [] => []
  | (key, v) :: rest => (key, v.sorted) :: sortedMembers rest

end

end Value

def hexByte (n : Nat) : List Char :=
  [hexDigit ⟨n / 16 % 16, by omega⟩, hexDigit ⟨n % 16, by omega⟩]

/-- A character inside a written string. -/
def escapeChar (c : Char) : List Char :=
  if c == '"' || c == '\\' then ['\\', c]
  else if c == '\x08' then ['\\', 'b']
  else if c == '\t' then ['\\', 't']
  else if c == '\n' then ['\\', 'n']
  else if c == '\x0c' then ['\\', 'f']
  else if c == '\r' then ['\\', 'r']
  else if c.toNat < 0x20 then ['\\', 'u', '0', '0'] ++ hexByte c.toNat
  else [c]

def writeString (s : String) : List Char :=
  '"' :: s.toList.flatMap escapeChar ++ ['"']

def Number.chars (n : Number) : List Char :=
  n.text.toList

namespace Value

mutual

def compact : Value → List Char
  | null => "null".toList
  | bool b => (if b then "true" else "false").toList
  | number n => n.chars
  | string s => writeString s
  | array items => '[' :: compactItems items ++ [']']
  | object members => '\x7b' :: compactMembers members ++ ['\x7d']

def compactItems : List Value → List Char
  | [] => []
  | [v] => v.compact
  | v :: rest => v.compact ++ ',' :: compactItems rest

def compactMembers : List (String × Value) → List Char
  | [] => []
  | [(key, v)] => writeString key ++ ':' :: v.compact
  | (key, v) :: rest => writeString key ++ ':' :: v.compact ++ ',' :: compactMembers rest

end

def newline (depth : Nat) : List Char :=
  '\n' :: List.replicate (2 * depth) ' '

mutual

/-- The value with one item or member on a line, two blanks deeper than its container. -/
def pretty (depth : Nat) : Value → List Char
  | null => "null".toList
  | bool b => (if b then "true" else "false").toList
  | number n => n.chars
  | string s => writeString s
  | array [] => ['[', ']']
  | object [] => ['\x7b', '\x7d']
  | array items => '[' :: prettyItems (depth + 1) items ++ newline depth ++ [']']
  | object members => '\x7b' :: prettyMembers (depth + 1) members ++ newline depth ++ ['\x7d']

def prettyItems (depth : Nat) : List Value → List Char
  | [] => []
  | [v] => newline depth ++ v.pretty depth
  | v :: rest => newline depth ++ v.pretty depth ++ ',' :: prettyItems depth rest

def prettyMembers (depth : Nat) : List (String × Value) → List Char
  | [] => []
  | [(key, v)] => newline depth ++ writeString key ++ ':' :: ' ' :: v.pretty depth
  | (key, v) :: rest =>
    newline depth ++ writeString key ++ ':' :: ' ' :: v.pretty depth ++
      ',' :: prettyMembers depth rest

end

def compactText (v : Value) : String :=
  String.ofList v.compact

def prettyText (v : Value) : String :=
  String.ofList (v.pretty 0)

end Value
end PageHarvest.Json
