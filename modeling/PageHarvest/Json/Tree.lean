import PageHarvest.Json.Scalar
import PageHarvest.Json.Value

namespace PageHarvest.Json

/-- What stands behind the last item or member of a container. -/
inductive Ending
  | closed
  | endOfText
  | endAfterComma
  | trailingComma
  | missingComma
deriving DecidableEq, Repr

mutual

/--
A JSON text as far as it can be followed. What is wrong stays in the tree at its place, because who
reads the tree decides what is met first: a member that nobody asks for is skipped, and skipping
forgives more than reading.
-/
inductive Tree
  | null
  | bool (b : Bool)
  | number (n : Except Fault Number)
  | string (s : Except Fault String)
  | array (items : Items)
  | object (members : Members)
  /-- The text ends where a value should start. -/
  | missing
  /-- The text cannot be followed further. -/
  | broken (reading skipping : Fault)

inductive Items
  | ended (ending : Ending)
  | item (value : Tree) (rest : Items)

inductive Members
  | ended (ending : Ending)
  /-- The key cannot be followed to its end. -/
  | brokenKey (reading skipping : Fault)
  /-- Something else stands where a key should. -/
  | otherKey (found : Tree)
  | member (key : Except Fault String) (value : Tree) (rest : Members)

end

instance : Inhabited Tree := ⟨.missing⟩

namespace Ending

def listFault? : Ending → Option Fault
  | closed => none
  | endOfText => some .endInList
  | endAfterComma => some .endInValue
  | trailingComma => some .trailingComma
  | missingComma => some .expectedListEnd

def objectFault? : Ending → Option Fault
  | closed => none
  | endOfText => some .endInObject
  | endAfterComma => some .endInValue
  | trailingComma => some .trailingComma
  | missingComma => some .expectedObjectEnd

def skippedListFault? : Ending → Option Fault
  | trailingComma => some .expectedValue
  | e => e.listFault?

def skippedObjectFault? : Ending → Option Fault
  | trailingComma => some .keyNotString
  | endAfterComma => some .endInObject
  | e => e.objectFault?

end Ending

def followWord (word : String) (value : Tree) (s : List Char) : Tree × List Char :=
  match skipWord word.toList s with
  | .ok rest => (value, rest)
  | .error e => (.broken e e, [])

def followNumber (s : List Char) : Tree × List Char :=
  match scanNumber false s with
  | .ok (l, rest) => (.number l.number, rest)
  | .error skipping =>
    match scanNumber true s with
    | .ok _ => (.broken skipping skipping, [])
    | .error reading => (.broken reading skipping, [])

/-- The content of a string read and the text behind it, or what stops reading and skipping. -/
def followString (s : List Char) : Except (Fault × Fault) (Except Fault String × List Char) :=
  let content := (readString s).map fun (cs, _) => String.ofList cs
  match skipString s with
  | .ok rest => .ok (content, rest)
  | .error skipping =>
    match content with
    | .ok _ => .error (skipping, skipping)
    | .error reading => .error (reading, skipping)

mutual

/-- The value at the start of a text and the text behind it. `fuel` bounds nesting and length. -/
def followValue : Nat → List Char → Tree × List Char
  | 0, _ => (.missing, [])
  | fuel + 1, s =>
    match skipBlanks s with
    | [] => (.missing, [])
    | 'n' :: r => followWord "ull" .null r
    | 't' :: r => followWord "rue" (.bool true) r
    | 'f' :: r => followWord "alse" (.bool false) r
    | '"' :: r =>
      match followString r with
      | .ok (content, rest) => (.string content, rest)
      | .error (reading, skipping) => (.broken reading skipping, [])
    | '[' :: r =>
      let (items, rest) := followItems fuel true r
      (.array items, rest)
    | '\x7b' :: r =>
      let (members, rest) := followMembers fuel true r
      (.object members, rest)
    | c :: r =>
      if c == '-' || c.isDigit then followNumber (c :: r)
      else (.broken .expectedValue .expectedValue, [])

def followItems : Nat → Bool → List Char → Items × List Char
  | 0, _, _ => (.ended .endOfText, [])
  | fuel + 1, first, s =>
    match skipBlanks s with
    | [] => (.ended .endOfText, [])
    | ']' :: r => (.ended .closed, r)
    | c :: r =>
      if first then followItem fuel (c :: r)
      else if c != ',' then (.ended .missingComma, [])
      else
        match skipBlanks r with
        | [] => (.ended .endAfterComma, [])
        | ']' :: _ => (.ended .trailingComma, [])
        | next => followItem fuel next

def followItem : Nat → List Char → Items × List Char
  | 0, _ => (.ended .endOfText, [])
  | fuel + 1, s =>
    let (value, rest) := followValue fuel s
    let (items, rest) := followItems fuel false rest
    (.item value items, rest)

def followMembers : Nat → Bool → List Char → Members × List Char
  | 0, _, _ => (.ended .endOfText, [])
  | fuel + 1, first, s =>
    match skipBlanks s with
    | [] => (.ended .endOfText, [])
    | '\x7d' :: r => (.ended .closed, r)
    | c :: r =>
      if first then followMember fuel (c :: r)
      else if c != ',' then (.ended .missingComma, [])
      else
        match skipBlanks r with
        | [] => (.ended .endAfterComma, [])
        | '\x7d' :: _ => (.ended .trailingComma, [])
        | next => followMember fuel next

def followMember : Nat → List Char → Members × List Char
  | 0, _ => (.ended .endOfText, [])
  | fuel + 1, s =>
    match s with
    | '"' :: r =>
      match followString r with
      | .error (reading, skipping) => (.brokenKey reading skipping, [])
      | .ok (key, rest) =>
        match skipBlanks rest with
        | ':' :: rest =>
          let (value, rest) := followValue fuel rest
          let (members, rest) := followMembers fuel false rest
          (.member key value members, rest)
        | [] => (.member key (.broken .endInObject .endInObject) (.ended .endOfText), [])
        | _ => (.member key (.broken .expectedColon .expectedColon) (.ended .endOfText), [])
    | _ =>
      let (found, _) := followValue fuel s
      (.otherKey found, [])

end

def follow (text : String) : Tree × Bool :=
  let s := text.toList
  let (value, rest) := followValue (3 * s.length + 4) s
  (value, !(skipBlanks rest).isEmpty)

mutual

def Tree.skipFault? : Tree → Option Fault
  | .array items => items.skipFault?
  | .object members => members.skipFault?
  | .missing => some .endInValue
  | .broken _ skipping => some skipping
  | _ => none

def Items.skipFault? : Items → Option Fault
  | .ended ending => ending.skippedListFault?
  | .item value rest =>
    match value.skipFault? with
    | some e => some e
    | none => rest.skipFault?

def Members.skipFault? : Members → Option Fault
  | .ended ending => ending.skippedObjectFault?
  | .brokenKey _ skipping => some skipping
  | .otherKey _ => some .keyNotString
  | .member _ value rest =>
    match value.skipFault? with
    | some e => some e
    | none => rest.skipFault?

end

/-- The deepest nesting of containers that is read, plus one. -/
def depthLimit : Nat := 128

mutual

/-- The value of a tree in which containers may nest less than `depth` deep. -/
def Tree.value? (depth : Nat) : Tree → Except Fault Value
  | .null => .ok .null
  | .bool b => .ok (.bool b)
  | .number n => n.map .number
  | .string s => s.map .string
  | .missing => .error .endInValue
  | .broken reading _ => .error reading
  | .array items =>
    if depth ≤ 1 then .error .tooDeep
    else (items.values? (depth - 1)).map .array
  | .object members =>
    if depth ≤ 1 then .error .tooDeep
    else (members.values? (depth - 1)).map .object

def Items.values? (depth : Nat) : Items → Except Fault (List Value)
  | .ended ending =>
    match ending.listFault? with
    | some e => .error e
    | none => .ok []
  | .item value rest => do
    let v ← value.value? depth
    let vs ← rest.values? depth
    return v :: vs

def Members.values? (depth : Nat) : Members → Except Fault (List (String × Value))
  | .ended ending =>
    match ending.objectFault? with
    | some e => .error e
    | none => .ok []
  | .brokenKey reading _ => .error reading
  | .otherKey _ => .error .keyNotString
  | .member key value rest => do
    let k ← key
    let v ← value.value? depth
    let vs ← rest.values? depth
    return (k, v) :: vs

end

def Value.parse (text : String) : Except Fault Value := do
  let (tree, more) := follow text
  let v ← tree.value? depthLimit
  if more then .error .trailingCharacters else .ok v

end PageHarvest.Json
