import Lockdown.Scan.Report
import Lockdown.Text.Binary64
/-!
Verdicts as metrics in the text format that monitoring systems scrape: a gauge for each check and
verdict, a counter for each verdict, and the time of the last scan.
-/
namespace Lockdown

structure Metrics where
  /-- By check and verdict: one for the verdict of the last scan, zero for the others. -/
  results : NameMap (NameMap Nat)
  /-- By verdict, how often it was reported. -/
  totals : NameMap Nat
  /-- Nanoseconds. -/
  duration : Nat

namespace Metrics

def empty : Metrics := ⟨∅, ∅, 0⟩

def setGauge (m : Metrics) (name verdict : String) (n : Nat) : Metrics :=
  { m with results := m.results.alter name fun shown => (shown.getD ∅).insert verdict n }

def count (m : Metrics) (verdict : String) : Metrics :=
  { m with totals := m.totals.alter verdict fun n => n.getD 0 + 1 }

/-- Every verdict has its gauge set, which takes back that of an earlier report. -/
def setGauges (m : Metrics) (r : ModuleReport) : Metrics :=
  Verdict.all.foldl (fun m v => m.setGauge r.name v.name (if v = r.verdict then 1 else 0)) m

def recordModule (m : Metrics) (r : ModuleReport) : Metrics :=
  (m.setGauges r).count r.verdict.name

/-- A check of this scan replaces what an earlier one said of it. -/
def record (m : Metrics) (r : ScanReport) : Metrics :=
  { r.modules.foldl recordModule m with duration := r.nanoseconds }

def logRecord {m : Type → Type} [MonadJournal m] (r : ScanReport) : m Unit :=
  Journal.debug .metrics s!"Recorded {r.modules.length} module verdicts"

def escapeLabel (s : String) : String :=
  String.ofList (s.toList.flatMap fun c =>
    if c = '\\' then ['\\', '\\']
    else if c = '"' then ['\\', '"']
    else if c = '\n' then ['\\', 'n']
    else [c])

structure Family where
  name : String
  help : String
  kind : String

def resultFamily : Family :=
  ⟨"lockprobe_module_result", "Latest verdict of each check module (1 for the reported result)",
    "gauge"⟩

def totalFamily : Family :=
  ⟨"lockprobe_module_results_total", "Module verdicts reported since start, by result", "counter"⟩

def durationFamily : Family :=
  ⟨"lockprobe_scan_duration_seconds", "Wall time of the last scan", "gauge"⟩

def families : List Family := [resultFamily, totalFamily, durationFamily]

/-- A family without samples is not shown. -/
def Family.lines (f : Family) (samples : List String) : List String :=
  if samples.isEmpty then []
  else s!"# HELP {f.name} {f.help}" :: s!"# TYPE {f.name} {f.kind}" ::
    samples.map fun sample => f.name ++ sample

def label (name value : String) : String := name ++ "=\"" ++ escapeLabel value ++ "\""

def labels (pairs : List (String × String)) : String :=
  "\x7b" ++ ",".intercalate (pairs.map fun (name, value) => label name value) ++ "\x7d"

def resultSamples (m : Metrics) : List String :=
  m.results.toList.flatMap fun (module, verdicts) =>
    verdicts.toList.map fun (verdict, n) =>
      labels [("module", module), ("result", verdict)] ++ s!" {n}"

def totalSamples (m : Metrics) : List String :=
  m.totals.toList.map fun (verdict, n) => labels [("result", verdict)] ++ s!" {n}"

def exposition (m : Metrics) : List String :=
  resultFamily.lines m.resultSamples ++ totalFamily.lines m.totalSamples ++
    durationFamily.lines [" " ++ (Text.Binary64.ofNanoseconds m.duration).text]

end Metrics

end Lockdown
