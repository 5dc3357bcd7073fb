import PageHarvest.FieldId
import PageHarvest.Job.Target
import PageHarvest.Probe.Run

namespace PageHarvest.Probe

/-- The description that a result belongs to. -/
inductive Slot
  | container
  | linkContainer
  | linkField
  | field (id : FieldId)
deriving DecidableEq, Repr

namespace Slot

def kind : Slot → Kind
  | container => .container
  | linkContainer => .linkContainer
  | linkField => .linkField
  | field _ => .field

def isField : Slot → Bool
  | field _ => true
  | _ => false

end Slot

structure Store where
  /-- One entry for each slot that has a result. -/
  results : List (Slot × Result) := []
  containerReady : Bool := false
  linkContainerReady : Bool := false
  /-- Where the user wants the pages from. -/
  originChoice : Option Origin := none
deriving DecidableEq, Repr, Inhabited

namespace Store

def empty : Store := {}

def get? (s : Store) (slot : Slot) : Option Result :=
  (s.results.find? (·.1 == slot)).map (·.2)

def size (s : Store) : Nat :=
  s.results.length

def isEmpty (s : Store) : Bool :=
  s.results.isEmpty

def dropWhere (s : Store) (p : Slot → Bool) : Store :=
  { s with results := s.results.filter (!p ·.1) }

def drop (s : Store) (slot : Slot) : Store :=
  s.dropWhere (· == slot)

def put (s : Store) (slot : Slot) (r : Result) : Store :=
  { s with results := (slot, r) :: (s.drop slot).results }

/-- A container that cannot be looked for takes the choice of origin with it. -/
def reviewChoice (s : Store) (r : Result) : Store :=
  if r.status.isSelectorInvalid then { s with originChoice := none } else s

def record (s : Store) (slot : Slot) (r : Result) : Store :=
  match slot with
  | .container => ({ s with containerReady := !r.isError }.reviewChoice r).put slot r
  | .linkContainer => ({ s with linkContainerReady := !r.isError }.reviewChoice r).put slot r
  | .linkField | .field _ => s.put slot r

def run (s : Store) (page : Html.Document) (slot : Slot) (d : ElementDescriptor) (scope : Scope) :
    Except Css.Unreportable (Store × Result) :=
  match Probe.run page slot.kind d scope with
  | .ok r => .ok (s.record slot r, r)
  | .error e => .error e

/-- A description has changed: its result goes, and so do those found with its help. -/
def edited (s : Store) (slot : Slot) : Store :=
  let s := s.drop slot
  match slot with
  | .container =>
    { s with containerReady := false, originChoice := none }.dropWhere Slot.isField
  | .linkContainer =>
    { s with linkContainerReady := false, originChoice := none }.drop .linkField
  | .linkField | .field _ => s

def removeField (s : Store) (id : FieldId) : Store :=
  s.drop (.field id)

def clearFields (s : Store) : Store :=
  s.dropWhere Slot.isField

def chooseOrigin (s : Store) (origin : Origin) : Store :=
  { s with originChoice := some origin }

end Store
end PageHarvest.Probe
