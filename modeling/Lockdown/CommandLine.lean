import Lockdown.CommandLine.Options
import Lockdown.Identify
import Lockdown.Log.Filter
import Lockdown.Metrics
import Lockdown.Native
import Lockdown.Scan
import Lockdown.Simulator.Reference
/-!
A whole run as a function: from the words of the command line and what surrounds the program to
what it prints and exits with.
-/
namespace Lockdown.CommandLine

open Text

structure Environment where
  /-- Values of the variables that move the root and choose log lines. -/
  root : Option String
  filter : Option String
  files : Filesystem
  processor : UInt32 → UInt32 → CpuidRegisters

structure Outcome where
  log : List LogLine
  printed : List String
  /-- What goes to the error stream. -/
  complaint : List String
  exit : Nat
  /-- The files as the run leaves them. -/
  files : Filesystem

inductive Failure where
  | access (e : AccessError)
  | undetected (e : AccessError)
  | noMsrDevice (path : String)
  deriving DecidableEq, Repr

namespace Failure

def messages : Failure → List String
  | access e => e.message :: e.causes
  | undetected e =>
    "Chipset detection failed, pass --chipset to force one" :: e.message :: e.causes
  | noMsrDevice path =>
    [s!"Cannot access {path}. The MSR kernel module may not be loaded (sudo modprobe msr)"]

def indented (first others text : String) : List String :=
  match (splitAtChar '\n' text.toList).map String.ofList with
  | [] => []
  | line :: lines => (first ++ line) :: lines.map (others ++ ·)

/-- Several causes are numbered from zero. -/
def causeLines : List String → List String
  | [] => []
  | [cause] => "" :: "Caused by:" :: indented "    " "    " cause
  | causes => "" :: "Caused by:" :: causes.zipIdx.flatMap fun (cause, i) =>
      indented (s!"{rightIn 5 (decimal i)}: ") "       " cause

def complaint (f : Failure) : List String :=
  match f.messages with
  | [] => []
  | top :: causes => indented "Error: " "" top ++ causeLines causes

end Failure

inductive Ending where
  | listing (lines : List String)
  | scanned (report : ScanReport)

abbrev Run (σ : Type) := ExceptT Failure (Act σ)

section

variable {σ : Type}

def Run.access {α : Type} (x : Access σ α) : Run σ α := ExceptT.adapt .access x

def Options.settings (o : Options) (env : Environment) : Access σ Settings := do
  return o.over (← match o.config with
    | some path => Settings.load env.files env.root path
    | none => Settings.byDefault env.root)

variable [Bus σ]

def identify (chipset : Option String) : Run σ Identity :=
  match chipset with
  | some code => Run.access (Identify.force code)
  | none => ExceptT.adapt .undetected Identify.detect

def listing (s : Store) : List String :=
  s.registers.map fun r => s!"{leftIn 24 r.name} {r.location.text} {r.desc}"

def perform (settings : Settings) (list : Bool) (files : Filesystem) : Run σ Ending := do
  Journal.info .program s!"Using {@Bus.name σ _} backend"
  let found ← identify settings.chipset
  let store ← Run.access do found.loadStore (← settings.loadDefinitions files)
  if list then return .listing (listing store)
  let checks ← Run.access (Access.ofExcept (Scan.select settings.modules (Check.all settings.poll)))
  let report ← (Scan.run ⟨store, settings.thread⟩ checks : Act σ ScanReport)
  report.logSummary
  Metrics.logRecord report
  return .scanned report

end

def outcome (filter : List Log.Directive) (journal : Array LogLine) (files : Filesystem)
    (ending : Except Failure Ending) : Outcome :=
  let log := (Log.select filter journal).map LogLine.shown
  match ending with
  | .error f => ⟨log, [], f.complaint, 1, files⟩
  | .ok (.listing lines) => ⟨log, lines, [], 0, files⟩
  | .ok (.scanned report) => ⟨log, [], [], report.overall.severity, files⟩

def scan (env : Environment) (o : Options) (filter : List Log.Directive) : Outcome :=
  let (settings, s) := (o.settings env : Access Unit Settings).run ⟨(), #[]⟩
  match settings with
  | .error e => outcome filter s.journal env.files (.error (.access e))
  | .ok settings =>
    match settings.backend with
    | .simulator =>
      let (ending, s) := (perform settings o.listRegisters env.files : Run Simulator Ending).run
        ⟨Simulator.reference, s.journal⟩
      outcome filter s.journal env.files ending
    | .native =>
      if env.files.hasPath settings.msrDevice then
        let n := Native.attach env.files settings.root env.processor
        let (ending, s) := (perform settings o.listRegisters env.files : Run Native Ending).run
          { n with journal := s.journal ++ n.journal }
        outcome filter s.journal s.platform.files ending
      else outcome filter s.journal env.files (.error (.noMsrDevice settings.msrDevice))

def run (env : Environment) (words : List String) : Outcome :=
  match read words with
  | .ok (.scan o) =>
    match Log.directives env.filter o.verbose with
    | .ok filter => scan env o filter
    | .error _ => ⟨[], [], ["error: the log filter cuts a character in two"], 101, env.files⟩
  | .ok .help => ⟨[], help, [], 0, env.files⟩
  | .error e =>
    ⟨[], [], ["error: " ++ e.message, "", "For more information, try '--help'."], 2, env.files⟩

end Lockdown.CommandLine
