import Lockdown.Text.Radix
/-!
Log lines, the parts of the program that write them, and the severity that lets a reader keep
some of them.
-/
namespace Lockdown

open Text

/-- From the most severe down. -/
inductive Level where
  | error
  | warn
  | info
  | debug
  deriving DecidableEq, Repr

namespace Level

def name : Level → String
  | error => "ERROR"
  | warn => "WARN"
  | info => "INFO"
  | debug => "DEBUG"

def rank : Level → Nat
  | error => 1
  | warn => 2
  | info => 3
  | debug => 4

end Level

inductive Part where
  | program
  | settings
  | chipset
  | backend
  | native
  | engine
  | poll
  | scanner
  | metrics
  | check (name : String)
  deriving DecidableEq, Repr

/-- The name that filters know a part by. The program's own begins all of them. -/
def Part.path : Part → String
  | program => "lockprobe"
  | settings => "lockprobe::config"
  | chipset => "lockprobe::common::chipset"
  | backend => "lockprobe::backend"
  | native => "lockprobe::backend::native"
  | engine => "lockprobe::engine"
  | poll => "lockprobe::common::poll"
  | scanner => "lockprobe::orchestrator::scanner"
  | metrics => "lockprobe::prom::scan"
  | check name => "lockprobe::checks::" ++ name

structure LogLine where
  level : Level
  part : Part
  text : String
  deriving DecidableEq, Repr

namespace LogLine

def render (l : LogLine) : String := l.level.name ++ " " ++ l.text

def visible (c : Char) : List Char :=
  if c ∈ ['\x07', '\x08', '\x0c', '\x1b', '\x7f'] then '\\' :: 'x' :: (hexLower 2 c.toNat).toList
  else if 0x80 ≤ c.toNat ∧ c.toNat < 0xA0 then
    '\\' :: 'u' :: '\x7b' :: (hexLower 2 c.toNat).toList ++ ['\x7d']
  else [c]

def shown (l : LogLine) : LogLine :=
  { l with text := String.ofList (l.text.toList.flatMap visible) }

end LogLine

abbrev Verbosity := Nat

def LogLine.passes (l : LogLine) (v : Verbosity) : Bool := l.level.rank ≤ v

def keep (v : Verbosity) (lines : Array LogLine) : List LogLine :=
  lines.toList.filter fun l => l.passes v

end Lockdown
