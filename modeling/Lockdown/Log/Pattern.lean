import Lockdown.Log.Pattern.Bracket
import Lockdown.Text.Alphanumeric
/-!
Search patterns, as far as to tell whether a text is one. Groups may be named and may switch
flags; what is repeated must be there; and a pattern may not be too deep.

A text that is looked at here has no closing brace in it, because a field of a directive ends at
the first one. So no opening brace outside brackets can be closed, and all of them are refused.
-/
namespace Lockdown.Log.Pattern

open Text

/-- A part of a sequence. Switched flags are a part that cannot be repeated. -/
structure Piece where
  depth : Nat
  repeatable : Bool
  deriving DecidableEq, Repr

structure Surroundings where
  flags : Flags
  branches : List Nat
  pieces : List Piece
  deriving DecidableEq, Repr

/-- What has been read: the innermost group, and what is around it. -/
structure Reading where
  flags : Flags
  /-- The depths of the branches that are complete. -/
  branches : List Nat
  /-- The branch that is being read, newest first. -/
  pieces : List Piece
  groups : List Surroundings
  names : List (List Char)
  deriving DecidableEq, Repr

namespace Reading

def empty : Reading := ⟨.start, [], [], [], []⟩

def branchDepth (r : Reading) : Nat := rowDepth (r.pieces.map (·.depth))

def depth (r : Reading) : Nat := rowDepth (r.branchDepth :: r.branches)

def add (r : Reading) (p : Piece) : Reading := { r with pieces := p :: r.pieces }

def branch (r : Reading) : Reading :=
  { r with branches := r.branchDepth :: r.branches, pieces := [] }

def enter (r : Reading) (fl : Flags) : Reading :=
  { r with flags := fl, branches := [], pieces := []
           groups := ⟨r.flags, r.branches, r.pieces⟩ :: r.groups }

def leave? (r : Reading) : Option Reading :=
  match r.groups with
  | [] => none
  | g :: groups =>
    some { r with flags := g.flags, branches := g.branches, groups
                  pieces := ⟨1 + r.depth, true⟩ :: g.pieces }

def repeated? (r : Reading) : Option Reading :=
  match r.pieces with
  | p :: pieces =>
    if p.repeatable then some { r with pieces := ⟨1 + p.depth, true⟩ :: pieces } else none
  | [] => none

end Reading

def flagLetters : List Char := ['i', 'm', 's', 'U', 'u', 'R', 'x']

/-- Only three of the flags matter for what a pattern may hold. -/
def Flags.set (fl : Flags) (letter : Char) (on : Bool) : Flags :=
  if letter = 'i' then { fl with ignoreCase := on }
  else if letter = 'u' then { fl with unicode := on }
  else if letter = 'x' then { fl with ignoreBlanks := on }
  else fl

/-- Letters up to a colon or a parenthesis, after a dash those to switch off. Nothing may be
written twice, newest first in `written`, and a dash not at the end. -/
def flags? (fl : Flags) (written : List Char) : List Char → Option (Flags × List Char × List Char)
  | [] => none
  | c :: s =>
    if c = ':' ∨ c = ')' then
      if written.head? = some '-' then none else some (fl, written, c :: s)
    else if written.contains c then none
    else if c = '-' then flags? fl (c :: written) s
    else if flagLetters.contains c then
      flags? (fl.set c (!written.contains '-')) (c :: written) s
    else none

def continuesName (c : Char) : Bool := ['_', '.', '[', ']'].contains c || isAlphanumeric c

def isName : List Char → Bool
  | [] => false
  | c :: s => (c = '_' || isAlphabetic c) && s.all continuesName

def named? (r : Reading) (s : List Char) : Option (Reading × List Char) :=
  let name := s.takeWhile (· ≠ '>')
  match s.dropWhile (· ≠ '>') with
  | '>' :: s =>
    if isName name ∧ !r.names.contains name then
      some ({ r with names := name :: r.names }.enter r.flags, s)
    else none
  | _ => none

/-- After an opening parenthesis: a group, or flags for the rest of the group that this is in. -/
def group? (r : Reading) (s : List Char) : Option (Reading × List Char) :=
  match skipBlanks r.flags s with
  | '?' :: 'P' :: '<' :: s => named? r s
  | '?' :: '<' :: s => named? r s
  | '?' :: s =>
    match flags? r.flags [] s with
    | some (fl, _, ':' :: s) => some (r.enter fl, s)
    | some (fl, _ :: _, ')' :: s) => some ({ r with flags := fl }.add ⟨0, false⟩, s)
    | _ => none
  | s => some (r.enter r.flags, s)

def dropLazy : List Char → List Char
  | '?' :: s => s
  | s => s

def plainAtom? (fl : Flags) : List Char → Option (Atom × List Char)
  | [] => none
  | '.' :: s => some (.any, s)
  | '^' :: s | '$' :: s => some (.edge, s)
  | s => atom? fl s

def step? (r : Reading) (c : Char) (s : List Char) : Option (Reading × List Char) :=
  if c = '(' then group? r s
  else if c = ')' then do some (← r.leave?, s)
  else if c = '|' then some (r.branch, s)
  else if c = '[' then do
    let (d, s) ← brackets? r.flags s
    some (r.add ⟨d, true⟩, s)
  else if c = '?' ∨ c = '*' ∨ c = '+' then do some (← r.repeated?, dropLazy s)
  else if c = '\x7b' then none
  else do
    let (a, s) ← plainAtom? r.flags (c :: s)
    if a.standsAlone r.flags then some (r.add ⟨0, true⟩, s) else none

/-- Every step takes a character. -/
def scan : Nat → Reading → List Char → Option Reading
  | 0, _, _ => none
  | n + 1, r, s =>
    match skipBlanks r.flags s with
    | [] => if r.groups.isEmpty then some r else none
    | c :: s =>
      match step? r c s with
      | some (r, s) => scan n r s
      | none => none

def maxDepth : Nat := 250

def isPattern (s : List Char) : Bool :=
  match scan (s.length + 1) .empty s with
  | some r => r.depth ≤ maxDepth
  | none => false

end Lockdown.Log.Pattern
