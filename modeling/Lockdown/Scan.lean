import Lockdown.Check
import Lockdown.Scan.Report
/-!
Running checks one after another. A check that fails to run is reported with its error and never
keeps the others from running.
-/
namespace Lockdown.Scan

variable {σ : Type}

def select (names : List String) (checks : List (Check σ)) : Except AccessError (List (Check σ)) :=
  match names.find? fun name => !checks.any (·.name = name) with
  | some name => .error (.unknownModule name)
  | none => .ok (if names.isEmpty then checks else checks.filter fun c => names.contains c.name)

/-- The verdict on a check that ended by an error. A service that the environment lacks is no
fault of the platform. -/
def errorReport (name : String) : AccessError → LogLine × Verdict × String
  | .unsupported what =>
    (⟨.warn, .scanner, s!"{name}: {what} is not available on this backend"⟩, .skipped,
      s!"{what} not supported")
  | e => (⟨.error, .scanner, s!"{name}: {e.message}"⟩, .error, e.message)

def verdict (e : Engine) (c : Check σ) : Act σ (Verdict × Option String) := do
  if ← c.supported e then
    match ← (c.run e).attempt with
    | .ok v => return (v, none)
    | .error err =>
      let (line, v, text) := errorReport c.name err
      MonadJournal.append line
      return (v, some text)
  else
    Journal.info .scanner s!"Skipping module {c.name} since it is not supported"
    return (.notApplicable, none)

def runCheck (e : Engine) (c : Check σ) : Act σ ModuleReport := do
  Journal.info .scanner s!"[+] {c.name}: {c.description}"
  let (v, error) ← verdict e c
  Journal.info .scanner s!"[-] {c.name}: {v.name}"
  return ⟨c.name, c.description, v, error⟩

/-- Run all of the checks. On a platform held as a value this takes no time. -/
def run (e : Engine) (checks : List (Check σ)) : Act σ ScanReport := do
  Journal.info .scanner s!"Running {checks.length} module(s) on {e.store.chipset}"
  return ⟨e.store.chipset, ← checks.mapM (runCheck e), 0⟩

end Lockdown.Scan
