import Lockdown.Error
import Lockdown.Store
/-! Register values by name of register and field. -/
namespace Lockdown.Store

def require (s : Store) (name : String) : Except AccessError Register :=
  match s.get? name with
  | some r => .ok r
  | none => .error (.undefinedRegister name)

def requireField (s : Store) (name field : String) : Except AccessError Field := do
  match (← s.require name).field? field with
  | some f => .ok f
  | none => .error (.undefinedField name field)

def getField (s : Store) (name : String) (value : UInt64) (field : String) (inPlace : Bool) :
    Except AccessError UInt64 := do
  let f ← s.requireField name field
  return if inPlace then f.extractInPlace value else f.extract value

def setField (s : Store) (name : String) (value : UInt64) (field : String) (new : UInt64) :
    Except AccessError UInt64 := do
  return (← s.requireField name field).insert value new

end Lockdown.Store
