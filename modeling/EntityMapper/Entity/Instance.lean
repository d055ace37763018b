import EntityMapper.Assoc
import EntityMapper.Entity.Type
/-! Instances: entities in memory, and access to their fields by name. -/

namespace EntityMapper

/-- What a field of an instance holds; `ι` stands for the instances that references hold. -/
inductive Slot (ι : Type) where
  | value (v : Value)
  | reference (target : Option ι)
  /-- A lazy list, by its number, or else the empty list. -/
  | collection (list : Option Nat)
  | transient (text : String)

/-- An entity in memory: its type with what each field holds, in the order of declaration. -/
structure Instance where
  type : EntityType
  slots : List (String × Slot Instance)
  deriving Inhabited

namespace Slot

variable {ι : Type}

def value? : Slot ι → Option Value
  | value v => some v
  | _ => none

def initial : FieldRole → Slot ι
  | .column type => .value type.initial
  | .reference .. => .reference none
  | .collection .. => .collection none
  | .transient => .transient ""

end Slot

namespace Instance

/-- An instance whose fields hold what they hold at first. -/
def initial (t : EntityType) : Instance where
  type := t
  slots := t.fields.map fun f => (f.name, .initial f.role)

def slot? (i : Instance) (name : String) : Option (Slot Instance) :=
  i.slots.lookup name

def idValue (i : Instance) : Value :=
  ((i.type.idField?.bind fun f => i.slot? f.name).bind Slot.value?).getD .null

/-- The value of a stored field; an owning field has the identifier of its target. -/
def fieldValue (i : Instance) (name : String) : Option Value :=
  match i.slot? name with
  | some (.value v) => some v
  | some (.reference target) => some ((target.map idValue).getD .null)
  | _ => none

/-- The instance with something else in a field that it has. -/
def setSlot (i : Instance) (name : String) (s : Slot Instance) : Instance :=
  { i with slots := i.slots.map fun p => if p.1 == name then (p.1, s) else p }

/-- Puts a value into the column of a field. A field without a column keeps what it holds. -/
def setValue (i : Instance) (name : String) (v : Value) : Except Error Instance :=
  match (i.type.field? name).map EntityField.role with
  | some (.column type) => (type.read v).map fun v => i.setSlot name (.value v)
  | _ => .ok i

def setReference (i : Instance) (name : String) (target : Option Instance) : Instance :=
  match i.slot? name with
  | some (.reference _) => i.setSlot name (.reference target)
  | _ => i

/-- Puts text into a field that is not stored. -/
def setTransient (i : Instance) (name text : String) : Instance :=
  match i.slot? name with
  | some (.transient _) => i.setSlot name (.transient text)
  | _ => i

def isA (i : Instance) (t : EntityType) : Bool :=
  i.type.path == t.path

end Instance

end EntityMapper
