import Lockdown.Log
import Lockdown.Log.Pattern
import Lockdown.Text.Alphanumeric
import Lockdown.Text.Blank
import Lockdown.Text.Floating
import Lockdown.Text.Lines
import Lockdown.Text.Unsigned
import Lockdown.Text.Utf8
/-!
One directive of a log filter: `part[span{field=value}]=level`, where any of the pieces may be
missing. Its marks are looked for in the text without the blanks around it, and yet its pieces
are cut by these positions from the text with them, so a blank in front shifts every cut. A blank
of several bytes, or a cut shifted into a character of several bytes, makes a directive torn.
-/
namespace Lockdown.Log

open Text

inductive FilterError where
  | malformed
  /-- A cut falls inside a character. -/
  | torn
  deriving DecidableEq, Repr

structure FieldMatch where
  name : String
  value : Option String
  deriving DecidableEq, Repr

structure Directive where
  /-- How the part's name begins; `none` stands for everything. -/
  part : Option String
  span : Option String
  fields : List FieldMatch
  verbosity : Verbosity
  deriving DecidableEq, Repr

/-- The verbosity of a directive without a level. -/
def everything : Verbosity := 5

def levelWords : List (String × Verbosity) :=
  [("off", 0), ("error", 1), ("warn", 2), ("info", 3), ("debug", 4), ("trace", 5)]

def level? (word : String) : Option Verbosity :=
  match unsigned? word.toList with
  | some n => if n ≤ everything then some n else none
  | none => levelWords.lookup word.toLower

def levelOrEverything? (word : String) : Option Verbosity :=
  if word.isEmpty then some everything else level? word

/-- A number or a search pattern. The sign in front of a number would repeat nothing in a
pattern, so being a pattern is not enough. -/
def isFieldValue (text : String) : Bool := isFloating text.toList || Pattern.isPattern text.toList

/-- What stands after a second equals sign does not count. -/
def FieldMatch.parse? (text : String) : Option FieldMatch :=
  match (splitAtChar '=' text.toList).map String.ofList with
  | name :: value :: _ => if isFieldValue value then some ⟨name, some value⟩ else none
  | [name] => if name.isEmpty then none else some ⟨name, none⟩
  | [] => none

namespace Directive

def blank : Directive := ⟨none, none, [], everything⟩

inductive Stage where
  | start
  | name (origin : Nat)
  | span (origin : Nat)
  | field (origin : Nat)
  | fieldsClosed
  | spanClosed
  | level (origin : Nat)
  deriving DecidableEq, Repr

def startsName (c : Char) : Bool := c = '-' || c = ':' || c = '_' || isAlphanumeric c

def cut (text : List Char) (first last : Nat) : Except FilterError String :=
  match (dropBytes? first text).bind (takeBytes? (last - first)) with
  | some piece => .ok (String.ofList piece)
  | none => .error .torn

def rest (text : List Char) (first : Nat) : Except FilterError String :=
  match dropBytes? first text with
  | some piece => .ok (String.ofList piece)
  | none => .error .torn

def orMalformed {α : Type} (x : Option α) : Except FilterError α :=
  match x with
  | some a => .ok a
  | none => .error .malformed

def advance (text : List Char) (stage : Stage) (d : Directive) (i : Nat) (c : Char) :
    Except FilterError (Stage × Directive) :=
  match stage with
  | .start =>
    if c = '[' then .ok (.span (i + 1), d)
    else if startsName c then .ok (.name i, d)
    else .error .malformed
  | .name origin =>
    if c = '=' then do return (.level (i + 1), { d with part := some (← cut text origin i) })
    else if c = '[' then do return (.span (i + 1), { d with part := some (← cut text origin i) })
    else .ok (stage, d)
  | .span origin =>
    if c = ']' then do return (.spanClosed, { d with span := some (← cut text origin i) })
    else if c = '\x7b' then do
      let name ← cut text origin i
      return (.field (i + 1), { d with span := if name.isEmpty then none else some name })
    else .ok (stage, d)
  | .field origin =>
    if c = '\x7d' then do
      let field ← orMalformed (FieldMatch.parse? (← cut text origin i))
      return (.fieldsClosed, { d with fields := d.fields ++ [field] })
    else .ok (stage, d)
  | .fieldsClosed => if c = ']' then .ok (.spanClosed, d) else .error .malformed
  | .spanClosed => if c = '=' then .ok (.level (i + 1), d) else .error .malformed
  | .level _ => .ok (stage, d)

/-- At the end of the text. A name alone is a level, if there is such a level. -/
def finish (text : List Char) : Stage → Directive → Except FilterError Directive
  | .name origin, d => do
    let word ← rest text origin
    match level? word with
    | some v => return { d with verbosity := v }
    | none => return { d with part := some word }
  | .level origin, d => do
    return { d with verbosity := ← orMalformed (levelOrEverything? (← rest text origin)) }
  | .spanClosed, d => .ok d
  | _, _ => .error .malformed

/-- Positions count bytes. -/
def positions (s : List Char) : List (Nat × Char) :=
  (s.foldl (fun (i, acc) c => (i + c.utf8Size, (i, c) :: acc)) (0, [])).2.reverse

def parse (text : List Char) : Except FilterError Directive := do
  let (stage, d) ← (positions (trimmed isBlank text)).foldlM
    (fun (stage, d) (i, c) => advance text stage d i c) (.start, blank)
  finish text stage d

/-- Lines stand in no span, and no field of theirs is compared with a value. -/
def concernsLines (d : Directive) : Bool := d.span.isNone && d.fields.all (·.value.isNone)

def textField : String := "message"

def applies (d : Directive) (part : String) : Bool :=
  d.concernsLines && d.part.all (part.startsWith ·) && d.fields.all (·.name = textField)

/-- Directives apply in order of rank: by the length of the part's name, then by fields. -/
def rank (d : Directive) : Nat × Nat :=
  ((d.part.map fun p => p.utf8ByteSize + 1).getD 0, d.fields.length)

end Directive

end Lockdown.Log
