import PageHarvest.Json.Tree

namespace PageHarvest.Json

abbrev Decoder (α : Type) := Tree → Except ReadFault α

def malformed {α : Type} (e : Fault) : Except ReadFault α :=
  .error (.malformed e)

def ofFault {α : Type} : Except Fault α → Except ReadFault α
  | .ok a => .ok a
  | .error e => malformed e

/-- What a tree shows of itself; a container is not looked into. -/
def Tree.found : Tree → Except Fault Found
  | .null => .ok .null
  | .bool b => .ok (.bool b)
  | .number n => n.map .number
  | .string s => s.map .string
  | .array _ => .ok .sequence
  | .object _ => .ok .map
  | .missing => .error .endInValue
  | .broken reading _ => .error reading

def Tree.mismatch {α : Type} (t : Tree) (expected : String) : Except ReadFault α :=
  match t.found with
  | .ok found => .error (.wrongType found expected)
  | .error e => malformed e

def readText : Decoder String
  | .string s => ofFault s
  | t => t.mismatch "a string"

def readUnit : Decoder Unit
  | .null => .ok ()
  | t => t.mismatch "unit"

def readOptional {α : Type} (read : Decoder α) : Decoder (Option α)
  | .null => .ok none
  | t => some <$> read t

/-- A natural number below `bound`, which the message calls `name`. -/
def naturalOf (name : String) (bound : Nat) : Found → Except ReadFault Nat
  | .number (.natural n) =>
    if n.toNat < bound then .ok n.toNat else .error (.wrongValue (.number (.natural n)) name)
  | .number (.negative n) => .error (.wrongValue (.number (.negative n)) name)
  | found => .error (.wrongType found name)

def readNatural (name : String) (bound : Nat) : Decoder Nat := fun t =>
  match t.found with
  | .ok found => naturalOf name bound found
  | .error e => malformed e

def readU32 : Decoder UInt32 := fun t =>
  UInt32.ofNat <$> readNatural "u32" UInt32.size t

def readU64 : Decoder UInt64 := fun t =>
  UInt64.ofNat <$> readNatural "u64" UInt64.size t

def readFieldId : Decoder FieldId
  | .string s => do
    let text ← ofFault s
    match FieldId.parse text with
    | .ok id => .ok id
    | .error e => .error (.fieldId e)
  | t => t.mismatch "a formatted UUID string"

def readItems {α : Type} (read : Decoder α) : Items → Except ReadFault (List α)
  | .ended ending =>
    match ending.listFault? with
    | some e => malformed e
    | none => .ok []
  | .item t rest => do
    let a ← read t
    let as ← readItems read rest
    return a :: as

def readList {α : Type} (read : Decoder α) : Decoder (List α)
  | .array items => readItems read items
  | t => t.mismatch "a sequence"

def pick {α : Type} (all : List α) (label : α → String) (name : String) : Except ReadFault α :=
  match all.find? fun a => label a == name with
  | some a => .ok a
  | none => .error (.unknownVariant name (all.map label))

def endSingle : Members → Except ReadFault Unit
  | .ended .closed => .ok ()
  | .ended .endOfText => malformed .endInObject
  | _ => malformed .expectedValue

/-- A choice without content: its label, or an object with the label as key and null as value. -/
def readChoice {α : Type} (all : List α) (label : α → String) : Decoder α
  | .string s => do
    let name ← ofFault s
    pick all label name
  | .object (.member key value rest) => do
    let name ← ofFault key
    let a ← pick all label name
    readUnit value
    endSingle rest
    return a
  | .object (.brokenKey reading _) => malformed reading
  | .object (.otherKey found) => found.mismatch "variant identifier"
  | .object (.ended .endOfText) => malformed .endInValue
  | .missing => malformed .endInValue
  | _ => malformed .expectedValue

/-- The label of a choice, as the value of a member that tells which one it is. -/
def readLabel {α : Type} (all : List α) (label : α → String) : Decoder α
  | .string s => do
    let name ← ofFault s
    pick all label name
  | t => t.mismatch "variant identifier"

/-- A member of a record: how its value changes the record, and whether it has to be there. -/
structure Member (σ : Type) where
  name : String
  required : Bool := false
  put : σ → Decoder σ

def Member.of {σ α : Type} (name : String) (read : Decoder α) (set : σ → α → σ) : Member σ where
  name := name
  put record t := set record <$> read t

/-- A record as it is read: its name in messages and its members in order. -/
structure RecordShape (σ : Type) where
  name : String
  members : List (Member σ)

namespace RecordShape

variable {σ : Type}

def absent? (shape : RecordShape σ) (given : List String) : Option String :=
  (shape.members.find? fun m => m.required && !given.contains m.name).map (·.name)

/-- Reads the members of an object in the order in which they stand. -/
def readMembers (shape : RecordShape σ) (given : List String) (record : σ) :
    Members → Except ReadFault σ
  | .ended ending =>
    match ending.objectFault? with
    | some e => malformed e
    | none =>
      match shape.absent? given with
      | some name => .error (.missingMember name)
      | none => .ok record
  | .brokenKey reading _ => malformed reading
  | .otherKey _ => malformed .keyNotString
  | .member key value rest => do
    let name ← ofFault key
    match shape.members.find? fun m => m.name == name with
    | some m =>
      if given.contains name then .error (.repeatedMember name)
      else
        let record ← m.put record value
        readMembers shape (name :: given) record rest
    | none =>
      match value.skipFault? with
      | some e => malformed e
      | none => readMembers shape given record rest

/-- What has to stand behind the last item of a record in list form. -/
def endItems : Items → Except ReadFault Unit
  | .ended .closed => .ok ()
  | .ended .endOfText => malformed .endInList
  | .ended .trailingComma => malformed .trailingComma
  | _ => malformed .trailingCharacters

/-- The name of a record and its size, as a message gives them for a list of the wrong length. -/
def lengthText (shape : RecordShape σ) : String :=
  let n := shape.members.length
  "struct " ++ shape.name ++ " with " ++ toString n ++ (if n == 1 then " element" else " elements")

def readPositions (shape : RecordShape σ) (index : Nat) (record : σ) :
    List (Member σ) → Items → Except ReadFault σ
  | [], items => do
    endItems items
    return record
  | m :: ms, .item t rest => do
    let record ← m.put record t
    readPositions shape (index + 1) record ms rest
  | m :: ms, .ended ending =>
    match ending.listFault? with
    | some e => malformed e
    | none =>
      if m.required then .error (.wrongLength index shape.lengthText)
      else readPositions shape (index + 1) record ms (.ended ending)

/-- A record from an object or from a list of its members, starting from `record`. -/
def read (shape : RecordShape σ) (record : σ) : Decoder σ
  | .object members => shape.readMembers [] record members
  | .array items => shape.readPositions 0 record shape.members items
  | t => t.mismatch ("struct " ++ shape.name)

end RecordShape

def decode {α : Type} (read : Decoder α) (text : String) : Except ReadFault α := do
  let (tree, more) := follow text
  let a ← read tree
  if more then malformed .trailingCharacters else .ok a

end PageHarvest.Json
