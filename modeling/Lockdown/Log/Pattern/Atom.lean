import Lockdown.Text.Blank
import Lockdown.Text.Radix
/-!
What search patterns are made of: characters, escapes, and the blanks between them. There is no
table of classes and of letter cases beyond ASCII, so a pattern that asks for one is refused; so
is one that could match a part of a character.
-/
namespace Lockdown.Log.Pattern

open Text

structure Flags where
  ignoreCase : Bool
  /-- Whether characters are matched, or bytes. -/
  unicode : Bool
  ignoreBlanks : Bool
  deriving DecidableEq, Repr

def Flags.start : Flags := ⟨false, true, false⟩

/-- Past blanks and comments; a comment goes from a hash sign to the end of the line. -/
def dropComments (inComment : Bool) : List Char → List Char
  | [] => []
  | c :: s =>
    if inComment then dropComments (c ≠ '\n') s
    else if isBlank c then dropComments false s
    else if c = '#' then dropComments true s
    else c :: s

def skipBlanks (fl : Flags) (s : List Char) : List Char :=
  if fl.ignoreBlanks then dropComments false s else s

inductive Atom where
  /-- By its number, which may have been written as that of a byte. -/
  | character (code : Nat) (byte : Bool)
  /-- One of the classes that have a letter. -/
  | shorthand (negated : Bool)
  /-- A place at the edge of a word or away from it. -/
  | wordEdge
  /-- A place at the edge of the text or of a line. -/
  | edge
  | any
  deriving DecidableEq, Repr

namespace Atom

def standsAlone (fl : Flags) : Atom → Bool
  | character code byte => if fl.unicode then !fl.ignoreCase else !byte || code < 0x80
  | shorthand negated => !fl.unicode && !negated
  | wordEdge => !fl.unicode
  | edge => true
  | any => fl.unicode

def isMember (fl : Flags) : Atom → Bool
  | character code _ => if fl.unicode then !fl.ignoreCase else code < 0x80
  | shorthand negated => !fl.unicode && !negated
  | _ => false

end Atom

def controlLetters : List (Char × Nat) :=
  [('a', 0x07), ('t', 0x09), ('n', 0x0A), ('v', 0x0B), ('f', 0x0C), ('r', 0x0D)]

def numberLetters : List (Char × Nat) := [('x', 2), ('u', 4), ('U', 8)]

def hexNumber? (fl : Flags) : Nat → Nat → List Char → Option (Nat × List Char)
  | 0, acc, s => some (acc, s)
  | _ + 1, _, [] => none
  | n + 1, acc, c :: s => do hexNumber? fl n (acc * 16 + (← hexDigit? c)) (skipBlanks fl s)

/-- Every other sign of ASCII stands for itself after a backslash. Classes by property are among
the escapes that are refused. -/
def signEscape? (c : Char) : Option Atom :=
  if ['d', 's', 'w'].contains c then some (.shorthand false)
  else if ['D', 'S', 'W'].contains c then some (.shorthand true)
  else if ['b', 'B', '<', '>'].contains c then some .wordEdge
  else if ['A', 'z'].contains c then some .edge
  else if c.toNat < 0x80 && !c.isAlphanum then some (.character c.toNat false)
  else none

def escape? (fl : Flags) : List Char → Option (Atom × List Char)
  | [] => none
  | c :: s =>
    match numberLetters.lookup c, controlLetters.lookup c with
    | some n, _ => do
      let (code, s) ← hexNumber? fl n 0 (skipBlanks fl s)
      if code.isValidChar then some (.character code (c = 'x'), s) else none
    | none, some code => some (.character code false, s)
    | none, none => do some (← signEscape? c, s)

/-- The depth of things in a row, which is one more than that of the deepest unless there is only
one of them. -/
def rowDepth : List Nat → Nat
  | [] => 0
  | [d] => d
  | ds => 1 + ds.foldl max 0

end Lockdown.Log.Pattern
