import Lockdown.Engine
/-! What a check is and what it can find. -/
namespace Lockdown

inductive Verdict where
  | passed
  | notApplicable
  | skipped
  | warning
  | error
  | failed
  deriving DecidableEq, Repr

namespace Verdict

def all : List Verdict := [passed, notApplicable, skipped, warning, error, failed]

def name : Verdict → String
  | passed => "PASSED"
  | notApplicable => "NOT APPLICABLE"
  | skipped => "SKIPPED"
  | warning => "WARNING"
  | error => "ERROR"
  | failed => "FAILED"

/-- Also the status that a run exits with. -/
def severity : Verdict → Nat
  | passed | notApplicable | skipped => 0
  | warning => 1
  | error => 2
  | failed => 3

end Verdict

/-- One thing to look at. A check is run only where it is supported. -/
structure Check (σ : Type) where
  name : String
  description : String
  /-- Are the registers that it needs there? -/
  supported : Engine → Act σ Bool
  run : Engine → Access σ Verdict

def Store.hasFields (s : Store) (name : String) (fields : List String) : Bool :=
  s.contains name && fields.all fun field => s.hasField name field

namespace Check

variable {σ : Type}

def defined (name : String) (fields : List String) : Engine → Act σ Bool :=
  fun e => return e.store.hasFields name fields

def report (name : String) (level : Level) (text : String) (verdict : Verdict) :
    Access σ Verdict := do
  MonadJournal.append ⟨level, .check name, text⟩
  return verdict

variable [Bus σ]

def inspect (e : Engine) (name : String) :
    Access σ (String → Access σ UInt64) := do
  let value ← e.read name
  let _ ← e.print name value
  return fun field => Access.ofExcept (e.store.getField name value field false)

end Check

end Lockdown
