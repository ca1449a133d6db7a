import Lockdown.Register
import Lockdown.Json.Decode
/-!
Register definitions as JSON. Writing puts fields in the order of their declaration and keeps
absent options as `null`; reading accepts every form that names the same definition.
-/
namespace Lockdown

open Json (ofString ofOption record)

namespace AccessWidth

def toJson (w : AccessWidth) : Json := Json.ofNat w.bytes

def ofJson? (j : Json) : Option AccessWidth :=
  (Json.below? UInt8.size j).bind fun n => (ofBytes n).toOption

end AccessWidth

namespace Field

def toJson (f : Field) : Json :=
  record [("bit", Json.ofNat f.bit.toNat), ("size", Json.ofNat f.size.toNat),
    ("desc", ofString f.desc)]

def ofJson? (j : Json) : Option Field := do
  let fs ← Json.fields? ["bit", "size", "desc"] j
  some ⟨← fs.need? "bit" Json.uint32?, ← fs.need? "size" Json.uint32?,
    ← fs.orElse? "desc" "" Json.string?⟩

end Field

namespace BaseAddress

def toJson (b : BaseAddress) : Json :=
  record [("register", ofString b.register), ("field", ofOption b.field),
    ("upper", ofOption b.upper)]

def ofJson? (j : Json) : Option BaseAddress := do
  let fs ← Json.fields? ["register", "field", "upper"] j
  some ⟨← fs.need? "register" Json.string?, ← fs.orElse? "field" none (Json.nullable? Json.string?),
    ← fs.orElse? "upper" none (Json.nullable? Json.string?)⟩

end BaseAddress

namespace PciLocation

def members (l : PciLocation) : List (String × Json) :=
  [("bus", Json.ofNat l.bus.toNat), ("device", Json.ofNat l.device.toNat),
    ("function", Json.ofNat l.function.toNat), ("offset", Json.ofNat l.offset.toNat)]

def ofFields? (fs : Json.Fields) : Option PciLocation := do
  some ⟨← fs.need? "bus" Json.uint32?, ← fs.need? "device" Json.uint32?,
    ← fs.need? "function" Json.uint32?, ← fs.need? "offset" Json.uint32?⟩

end PciLocation

namespace Location

def tag : Location → String
  | pci _ => "pci"
  | mmio .. => "mmio"
  | memory _ => "memory_mapped"
  | msr _ => "msr"
  | port _ => "io"
  | csr _ => "csr"

def members : Location → List (String × Json)
  | pci l => l.members
  | mmio base offset => [("base", base.toJson), ("offset", Json.ofNat offset.toNat)]
  | memory address => [("address", Json.ofNat address.toNat)]
  | msr address => [("address", Json.ofNat address.toNat)]
  | port p => [("port", Json.ofNat p.toNat)]
  | csr address => [("address", Json.ofNat address.toNat)]

def toJson (l : Location) : Json := record (("type", ofString l.tag) :: l.members)

def ofTagged? (tag : String) (j : Json) : Option Location :=
  if tag = "pci" then do
    let fs ← Json.fields? ["bus", "device", "function", "offset"] j
    some (pci (← PciLocation.ofFields? fs))
  else if tag = "mmio" then do
    let fs ← Json.fields? ["base", "offset"] j
    some (mmio (← fs.need? "base" BaseAddress.ofJson?) (← fs.need? "offset" Json.uint64?))
  else if tag = "memory_mapped" then do
    let fs ← Json.fields? ["address"] j
    some (memory (← fs.need? "address" Json.uint64?))
  else if tag = "msr" then do
    let fs ← Json.fields? ["address"] j
    some (msr (← fs.need? "address" Json.uint32?))
  else if tag = "io" then do
    let fs ← Json.fields? ["port"] j
    some (port (← fs.need? "port" Json.uint16?))
  else if tag = "csr" then do
    let fs ← Json.fields? ["address"] j
    some (csr (← fs.need? "address" Json.uint32?))
  else none

/-- Split the tag off: the member `type`, which must come once, or the first item. -/
def splitTag? : Json → Option (String × Json)
  | .object members =>
    match members.filter fun (k, _) => k = some "type" with
    | [(_, tag)] => do
      some (← tag.string?, .object (members.filter fun (k, _) => k ≠ some "type"))
    | _ => none
  | .array (tag :: items) => do some (← tag.string?, .array items)
  | _ => none

def depthLimit : Nat := 127

/-- A tagged value is held whole before its tag is known, so also its unknown members must be
sound and must not nest too deep; `outer` containers stand around it. -/
def ofJson? (outer : Nat) (j : Json) : Option Location := do
  if j.sound && j.depth + outer ≤ depthLimit then
    let (tag, rest) ← splitTag? j
    ofTagged? tag rest
  else none

end Location

namespace Register

def fieldsJson (fields : NameMap Field) : Json :=
  record (fields.toList.map fun (name, f) => (name, f.toJson))

def toJson (r : Register) : Json :=
  record [("name", ofString r.name), ("class", r.location.toJson), ("width", r.width.toJson),
    ("desc", ofString r.desc), ("fields", fieldsJson r.fields)]

/-- A map of fields is an object; of two members with one name the last counts. -/
def fieldsOfJson? : Json → Option (NameMap Field)
  | .object members => do
    let fs ← Json.keyed? members
    some (.ofList (← fs.mapM fun (name, j) => (Field.ofJson? j).map (name, ·)))
  | _ => none

def ofJson? (outer : Nat) (j : Json) : Option Register := do
  let fs ← Json.fields? ["name", "class", "width", "desc", "fields"] j
  some {
    name := ← fs.need? "name" Json.string?
    location := ← fs.need? "class" (Location.ofJson? (outer + 1))
    width := ← fs.need? "width" AccessWidth.ofJson?
    desc := ← fs.orElse? "desc" "" Json.string?
    fields := ← fs.orElse? "fields" ∅ fieldsOfJson? }

def text (r : Register) : String := r.toJson.text

def read? (s : String) : Option Register := (Json.read? s).bind (ofJson? 0)

def readList? (s : String) : Option (List Register) :=
  (Json.read? s).bind (Json.list? (ofJson? 1))

end Register

end Lockdown
