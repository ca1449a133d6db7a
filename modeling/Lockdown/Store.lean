import Lockdown.Store.BaseOrder
/-!
The definition store of one chipset: layers merged into one table, checked once. A store holds
the order in which its bases resolve, so that whoever walks a chain of bases can show that the
walk ends.
-/
namespace Lockdown

structure Store where
  chipset : String
  table : Table
  order : List String
  settled : Settled table order
  complete : ∀ n ∈ table.names, n ∈ order

namespace Table

def firstRepeat (seen : List String) : List String → Option String
  | [] => none
  | n :: rest => if n ∈ seen then some n else firstRepeat (n :: seen) rest

def ofLayers (layers : List (List Register)) : Table :=
  layers.flatten.foldl (fun t r => t.insert r.name r) ∅

/-- Every field has bits and ends in the register. -/
def checkRange (r : Register) : Except DefinitionError Unit :=
  match r.fields.toList.find? fun (_, f) => f.size = 0 || r.width.bits < f.stop.toNat with
  | some (name, f) => .error (.fieldOutOfRange r.name name f.bit f.size r.width.bits)
  | none => .ok ()

/-- Neighbours by lowest bit share no bit; then no two fields do. -/
def checkOverlap (r : Register) : List (String × Field) → Except DefinitionError Unit
  | (first, f) :: (second, g) :: rest =>
    if f.overlaps g then .error (.overlappingFields r.name first second)
    else checkOverlap r ((second, g) :: rest)
  | _ => .ok ()

def checkBase (t : Table) (r : Register) : Except DefinitionError Unit :=
  match r.location with
  | .mmio base _ =>
    match t.get? base.register with
    | none => .error (.unknownBaseRegister r.name base.register)
    | some b =>
      match base.field.filter fun field => (b.field? field).isNone with
      | some field => .error (.unknownBaseField r.name base.register field)
      | none =>
        match base.upper.filter fun upper => !t.contains upper with
        | some upper => .error (.unknownBaseRegister r.name upper)
        | none => .ok ()
  | _ => .ok ()

def check (t : Table) (r : Register) : Except DefinitionError Unit := do
  checkRange r
  checkOverlap r r.fieldsByBit
  checkBase t r

end Table

namespace Store

def checkLayer (chipset : String) (layer : List Register) : Except DefinitionError Unit :=
  match Table.firstRepeat [] (layer.map (·.name)) with
  | some name => .error (.duplicateRegister chipset name)
  | none => .ok ()

/-- Later layers replace definitions of earlier ones; what is replaced is never checked. Registers
are checked in order of name, and so are the fields of each. Only acceptance is common to every
order: where several definitions are wrong, a hashed table reports any of them. -/
def build (chipset : String) (layers : List (List Register)) : Except DefinitionError Store := do
  layers.forM (checkLayer chipset)
  let table := Table.ofLayers layers
  table.values.forM table.check
  let ⟨order, settled, complete⟩ ← BaseOrder.ofTable table
  return ⟨chipset, table, order, settled, complete⟩

def get? (s : Store) (name : String) : Option Register := s.table.get? name

def contains (s : Store) (name : String) : Bool := s.table.contains name

def field? (s : Store) (name field : String) : Option Field :=
  (s.get? name).bind fun r => r.field? field

def hasField (s : Store) (name field : String) : Bool := (s.field? name field).isSome

def names (s : Store) : List String := s.table.names

def registers (s : Store) : List Register := s.table.values

def size (s : Store) : Nat := s.table.size

/-- Falls along every chain of bases. -/
def depth (s : Store) (name : String) : Nat := Settled.depth s.order name

theorem depth_lt (s : Store) {name d : String} {r : Register} (h : s.get? name = some r)
    (hd : d ∈ r.baseDependencies) : s.depth d < s.depth name := by
  have h' : s.table.get? name = some r := h
  exact s.settled.depth_lt (s.complete _ (NameMap.mem_names_of_get? h'))
    (by simpa [Table.dependencies, h'] using hd)

end Store

end Lockdown
