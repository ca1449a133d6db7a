import Lockdown.Log.Directive
import Lockdown.Text.Lines
/-!
Which log lines a user wants, as directives between commas. Of the directives that apply to a
line the most specific one decides, and a line to which none applies is not wanted.
-/
namespace Lockdown.Log

open Text

def parseDirectives (text : String) : Except FilterError (List Directive) :=
  ((splitAtChar ',' text.toList).filter (!·.isEmpty)).mapM Directive.parse

/-- One of two directives, the second unless it is the less specific. -/
def preferred (a : Option Directive) (b : Directive) : Option Directive :=
  match a with
  | none => some b
  | some a =>
    if a.rank.1 < b.rank.1 ∨ (a.rank.1 = b.rank.1 ∧ a.rank.2 ≤ b.rank.2) then some b else some a

/-- The most specific directive for a part; of two alike the later one. -/
def deciding? (directives : List Directive) (part : String) : Option Directive :=
  (directives.filter (·.applies part)).foldl preferred none

def wanted (directives : List Directive) (l : LogLine) : Bool :=
  match deciding? directives l.part.path with
  | some d => l.passes d.verbosity
  | none => false

def general (v : Verbosity) : List Directive := [{ Directive.blank with verbosity := v }]

/-- What the variable asks for. If it is missing or malformed, more or less, as `verbose` says;
but a torn directive is an error. -/
def directives (variable_ : Option String) (verbose : Bool) :
    Except FilterError (List Directive) :=
  let otherwise := general (if verbose then Level.debug.rank else Level.info.rank)
  match variable_.map parseDirectives with
  | some (.ok ds) => .ok ds
  | some (.error .torn) => .error .torn
  | some (.error .malformed) | none => .ok otherwise

def select (directives : List Directive) (lines : Array LogLine) : List LogLine :=
  lines.toList.filter (wanted directives)

end Lockdown.Log
