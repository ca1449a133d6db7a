import Lockdown.Error
import Lockdown.Log
/-!
Actions on a platform. An action changes the platform and writes log lines; an access may also
fail, and then what it changed before stays changed.
-/
namespace Lockdown

structure Session (σ : Type) where
  platform : σ
  journal : Array LogLine

abbrev Act (σ : Type) := StateM (Session σ)

/-- Ends with a value or an error, and in both cases with a session. -/
abbrev Access (σ : Type) := ExceptT AccessError (Act σ)

variable {σ α : Type}

class MonadJournal (m : Type → Type) where
  append : LogLine → m Unit

instance : MonadJournal (Act σ) where
  append line := modify fun s => { s with journal := s.journal.push line }

instance {ε : Type} : MonadJournal (ExceptT ε (Act σ)) where
  append line := ExceptT.lift (MonadJournal.append line)

namespace Journal

variable {m : Type → Type} [MonadJournal m]

def error (part : Part) (text : String) : m Unit := MonadJournal.append ⟨.error, part, text⟩
def warn (part : Part) (text : String) : m Unit := MonadJournal.append ⟨.warn, part, text⟩
def info (part : Part) (text : String) : m Unit := MonadJournal.append ⟨.info, part, text⟩
def debug (part : Part) (text : String) : m Unit := MonadJournal.append ⟨.debug, part, text⟩

end Journal

def Act.observe (f : σ → α) : Act σ α := do return f (← get).platform

namespace Access

def step (f : σ → α × σ) : Access σ α :=
  ExceptT.lift (modifyGet fun s => ((f s.platform).1, { s with platform := (f s.platform).2 }))

def observe (f : σ → α) : Access σ α := step fun s => (f s, s)

def update (f : σ → σ) : Access σ Unit := step fun s => ((), f s)

def ofExcept : Except AccessError α → Access σ α
  | .ok a => pure a
  | .error e => throw e

def attempt (x : Access σ α) : Act σ (Except AccessError α) := x.run

end Access

end Lockdown
