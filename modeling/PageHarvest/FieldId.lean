import PageHarvest.Text.Basic

namespace PageHarvest

def hexValue? (c : Char) : Option (Fin 16) :=
  if '0' ≤ c ∧ c ≤ '9' then some (Fin.ofNat 16 (c.toNat - 48))
  else if 'a' ≤ c ∧ c ≤ 'f' then some (Fin.ofNat 16 (c.toNat - 87))
  else if 'A' ≤ c ∧ c ≤ 'F' then some (Fin.ofNat 16 (c.toNat - 55))
  else none

/-- The lower-case digit of a value below 16. -/
def hexDigit (d : Fin 16) : Char :=
  Char.ofNat (if d.val < 10 then 48 + d.val else 87 + d.val)

theorem hexValue?_hexDigit (d : Fin 16) : hexValue? (hexDigit d) = some d := by
  revert d; decide

/-- A field keeps its id through every edit of its name, tag and attributes. -/
structure FieldId where
  digits : List (Fin 16)
  length_digits : digits.length = 32 := by decide
deriving DecidableEq, Repr

/-- Why a text is no field id. Indexes count from 0. -/
inductive FieldIdFault
  | character (found : Char) (index : Nat)
  | length (found : Nat)
  | groupCount (found : Nat)
  | groupLength (group expected found : Nat)
deriving DecidableEq, Repr

def FieldIdFault.message : FieldIdFault → String
  | character found index => s!"invalid character: found `{found}` at {index}"
  | length found => s!"invalid length: found {found}"
  | groupCount found => s!"invalid group count: expected 5, found {found}"
  | groupLength group expected found =>
    s!"invalid group length in group {group}: expected {expected}, found {found}"

namespace FieldId

def groupLengths : List Nat := [8, 4, 4, 4, 12]

def zero : FieldId where
  digits := List.replicate 32 0

instance : Inhabited FieldId := ⟨zero⟩

def cutPieces {α : Type} : List Nat → List α → List (List α)
  | [], _ => []
  | n :: ns, s => s.take n :: cutPieces ns (s.drop n)

def toChars (id : FieldId) : List Char :=
  Text.joinWith "-" (cutPieces groupLengths (id.digits.map hexDigit))

def toText (id : FieldId) : String :=
  String.ofList id.toChars

/-- How a text holds an id: what its wrapper holds, where that starts, and whether it is bare. -/
structure Wrapped where
  inside : List Char
  start : Nat
  bare : Bool

/-- Braces around the id or the scheme of a uniform resource name before it are taken off. -/
def unwrap (s : List Char) : Wrapped :=
  let scheme := "urn:uuid:".toList
  match s with
  | '\x7b' :: r =>
    match r.getLast? with
    | some '\x7d' => ⟨r.dropLast, 1, false⟩
    | _ => ⟨s, 0, true⟩
  | _ => if scheme.isPrefixOf s then ⟨s.drop scheme.length, scheme.length, false⟩ else ⟨s, 0, true⟩

/-- The digits of a text in one of the accepted forms: bare digits, or five groups. -/
def digits? (s : List Char) : Option (List (Fin 16)) :=
  let w := unwrap s
  let groups := Text.fields (· == '-') w.inside
  if w.bare && w.inside.length == 32 || groups.map List.length == groupLengths then
    groups.flatten.mapM hexValue?
  else none

def diagnose (s : List Char) : FieldIdFault :=
  let w := unwrap s
  let groups := Text.fields (· == '-') w.inside
  match w.inside.findIdx? fun c => c != '-' && (hexValue? c).isNone with
  | some i => .character (w.inside[i]?.getD '-') (w.start + i)
  | none =>
    if groups.length == 1 && w.bare then .length s.length
    else if groups.length != 5 then .groupCount groups.length
    else
      let lengths := groups.map List.length
      let wrong : Nat × Nat → Bool := fun (found, expected) => found != expected
      match (lengths.zip groupLengths).dropLast.findIdx? wrong with
      | some i => .groupLength i (groupLengths[i]?.getD 0) (lengths[i]?.getD 0)
      | none => .groupLength 4 12 (s.length - 24)

def parse (s : String) : Except FieldIdFault FieldId :=
  match digits? s.toList with
  | some ds => if h : ds.length = 32 then .ok ⟨ds, h⟩ else .error (diagnose s.toList)
  | none => .error (diagnose s.toList)

/-- Ids are ordered as numbers, the first digit counting most. -/
def le (a b : FieldId) : Bool :=
  !decide (b.digits.map Fin.val < a.digits.map Fin.val)

end FieldId
end PageHarvest
