import Lockdown.Files.Error
import Lockdown.Store.Error
/-! Everything that can end an access, a scan or a run, as causes; `message` has the wording. -/
namespace Lockdown

open Text

inductive SizedAccess where
  | port
  | mmio
  deriving DecidableEq, Repr

def SizedAccess.name : SizedAccess → String
  | port => "I/O port"
  | mmio => "MMIO"

inductive Document where
  | settings
  | definitions
  deriving DecidableEq, Repr

def Document.name : Document → String
  | settings => "config file"
  | definitions => "register definitions"

inductive AccessError where
  | undefinedRegister (name : String)
  | undefinedField (register field : String)
  | noBaseAddress (register : String)
  | invalidSize (access : SizedAccess) (size : UInt64)
  | addressOverflow (address : UInt64) (length : Nat)
  | unsupportedControlRegister (cr : UInt32)
  | unsupported (what : String)
  | unknownHostBridge (vendor device : UInt16)
  | unknownChipset (code : String)
  | definition (e : DefinitionError)
  | device (e : DeviceError)
  | invalidCpu (cpu : UInt32)
  | unreadableDocument (document : Document) (path : String) (cause : OsError)
  | malformedDocument (document : Document) (path : String)
  | unknownModule (name : String)
  deriving DecidableEq, Repr

namespace AccessError

def message : AccessError → String
  | undefinedRegister name => s!"Register {name} is not defined for this platform"
  | undefinedField register field => s!"Register {register} has no field {field}"
  | noBaseAddress register => s!"Register {register} is not located through a base address"
  | invalidSize access size => s!"{size} is not a valid {access.name} size"
  | addressOverflow address length =>
    s!"{length} bytes at 0x{hex address.toNat} run past the end of the address space"
  | unsupportedControlRegister cr => s!"CR{cr} is not supported"
  | unsupported what => s!"{what} is not supported by this backend"
  | unknownHostBridge v d =>
    s!"Unknown chipset: VID {hexPadded 4 v.toNat} DID {hexPadded 4 d.toNat}"
  | unknownChipset code => s!"Unknown chipset: {code}"
  | definition e => s!"Invalid register definitions: {e.message}"
  | device e => s!"Device access failed: {e.message}"
  | invalidCpu cpu => s!"Affinity operation failed: Invalid CPU ID: {cpu}"
  | unreadableDocument document path cause =>
    s!"Configuration error: Cannot read {document.name} {path}: {cause.message}"
  | malformedDocument document path =>
    s!"Configuration error: Invalid {document.name} {path}: unexpected content"
  | unknownModule name => s!"Configuration error: Unknown module: {name}"

def causes : AccessError → List String
  | definition e => [e.message]
  | device e => [e.message, e.cause.message]
  | _ => []

end AccessError

end Lockdown
