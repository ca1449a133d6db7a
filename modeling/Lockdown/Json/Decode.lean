import Lockdown.Json.Reader
/-!
Reading records out of JSON values. A record is an object, in which unknown keys are skipped and
known keys come once, or an array of its fields in order, which may end early. What a key maps to
is then the same for both forms.
-/
namespace Lockdown.Json

abbrev Fields := List (String × Json)

def string? : Json → Option String
  | .string s => s
  | _ => none

def below? (bound : Nat) : Json → Option Nat
  | .number n => n.natural?.bind fun k => if k < bound then some k else none
  | _ => none

def uint16? (j : Json) : Option UInt16 := (below? UInt16.size j).map UInt16.ofNat

def uint32? (j : Json) : Option UInt32 := (below? UInt32.size j).map UInt32.ofNat

def uint64? (j : Json) : Option UInt64 := (below? UInt64.size j).map UInt64.ofNat

def nullable? {α : Type} (f : Json → Option α) : Json → Option (Option α)
  | .null => some none
  | j => (f j).map some

def list? {α : Type} (f : Json → Option α) : Json → Option (List α)
  | .array items => items.mapM f
  | _ => none

/-- Every key of an object must be a text, known or not. -/
def keyed? (members : List (Text × Json)) : Option Fields :=
  members.mapM fun (k, v) => k.map (·, v)

/-- Members with known keys, each of which may come once. -/
def known? (keys : List String) (fields : Fields) : Option Fields :=
  let fields := fields.filter fun (k, _) => keys.contains k
  if (fields.map (·.1)).Nodup then some fields else none

def fields? (keys : List String) : Json → Option Fields
  | .object members => (keyed? members).bind (known? keys)
  | .array items => if items.length ≤ keys.length then some (keys.zip items) else none
  | _ => none

def exactFields? (keys : List String) : Json → Option Fields
  | .object members => do
    let fields ← keyed? members
    if fields.all fun (k, _) => keys.contains k then known? keys fields else none
  | j => fields? keys j

namespace Fields

def need? {α : Type} (fields : Fields) (key : String) (f : Json → Option α) : Option α :=
  (fields.lookup key).bind f

/-- An absent field has its default; a present one must be readable. -/
def orElse? {α : Type} (fields : Fields) (key : String) (default : α) (f : Json → Option α) :
    Option α :=
  match fields.lookup key with
  | none => some default
  | some j => f j

end Fields

end Lockdown.Json
