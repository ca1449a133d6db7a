import Lockdown.Check.Basic
import Lockdown.Text.Elapsed
/-! What a scan found, and the summary of it. -/
namespace Lockdown

structure ModuleReport where
  name : String
  description : String
  verdict : Verdict
  /-- What ended the check, when it ended by an error. -/
  error : Option String
  deriving DecidableEq, Repr

structure ScanReport where
  chipset : String
  modules : List ModuleReport
  nanoseconds : Nat
  deriving DecidableEq, Repr

namespace ScanReport

/-- The more severe of two verdicts, the later one if they are alike. -/
def worse (a b : Verdict) : Verdict := if a.severity ≤ b.severity then b else a

/-- Checks that did not run say nothing about the platform. -/
def counted (v : Verdict) : Bool := v ≠ .notApplicable && v ≠ .skipped

def overall (r : ScanReport) : Verdict :=
  match (r.modules.map (·.verdict)).filter counted with
  | [] => .notApplicable
  | v :: vs => vs.foldl worse v

def count (r : ScanReport) (v : Verdict) : Nat := (r.modules.filter (·.verdict = v)).length

def verdictLine? (r : ScanReport) (v : Verdict) : Option String :=
  let names := (r.modules.filter (·.verdict = v)).map (·.name)
  if names.isEmpty then none
  else
    let list := ", ".intercalate names
    some s!"[*] {v.name}: {names.length} [{list}]"

def summary (r : ScanReport) : List String :=
  let head := s!"[*] SUMMARY ({r.chipset} on {Text.elapsed r.nanoseconds})"
  head :: Verdict.all.filterMap r.verdictLine? ++ [s!"[*] Overall: {r.overall.name}"]

def logSummary {m : Type → Type} [Monad m] [MonadJournal m] (r : ScanReport) : m Unit :=
  r.summary.forM (Journal.info .scanner)

end ScanReport

end Lockdown
