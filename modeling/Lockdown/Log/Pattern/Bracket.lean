import Lockdown.Log.Pattern.Atom
/-!
Classes in brackets: members and ranges of them, named classes, brackets in brackets, and
operators between what stands on their two sides. Only the depth of a class is kept.
-/
namespace Lockdown.Log.Pattern

def classNames : List String :=
  ["alnum", "alpha", "ascii", "blank", "cntrl", "digit", "graph", "lower", "print", "punct",
    "space", "upper", "word", "xdigit"]

def namedClass? : List Char → Option (Bool × List Char)
  | ':' :: s =>
    let (negated, s) := match s with
      | '^' :: s => (true, s)
      | s => (false, s)
    match s.dropWhile (· ≠ ':') with
    | ':' :: ']' :: rest =>
      if classNames.contains (String.ofList (s.takeWhile (· ≠ ':'))) then some (negated, rest)
      else none
    | _ => none
  | _ => none

/-- A negated class of bytes holds parts of characters. -/
def allowsNegation (fl : Flags) (negated : Bool) : Bool := fl.unicode || !negated

def allowsNamed (fl : Flags) (negated : Bool) : Bool :=
  allowsNegation fl negated && !(fl.unicode && fl.ignoreCase)

/-- The next character that is no blank, where blanks do not count. Unlike a comment elsewhere,
one that is looked at from here hides nothing but its hash sign. -/
def ahead (inComment : Bool) : List Char → Option Char
  | [] => none
  | c :: s =>
    if Text.isBlank c then ahead inComment s
    else if c = '#' && !inComment then ahead true s
    else some c

def peek (fl : Flags) (s : List Char) : Option Char :=
  if fl.ignoreBlanks then ahead false s else s.head?

def atom? (fl : Flags) : List Char → Option (Atom × List Char)
  | [] => none
  | '\\' :: s => escape? fl s
  | c :: s => some (.character c.toNat false, s)

/-- Past one member, or past a range from one character to another. A dash before the end or
before another dash makes no range. -/
def member? (fl : Flags) (s : List Char) : Option (List Char) := do
  let (a, s) ← atom? fl s
  let single := if a.isMember fl then some s else none
  match skipBlanks fl s with
  | '-' :: t =>
    if peek fl t = some ']' ∨ peek fl t = some '-' then single
    else
      let (b, t) ← atom? fl (skipBlanks fl t)
      match a, b with
      | .character lo _, .character hi _ =>
        if lo ≤ hi ∧ a.isMember fl ∧ b.isMember fl then some t else none
      | _, _ => none
  | _ => single

inductive Frame where
  /-- Brackets, with the depths of what stands before them in the brackets around. -/
  | brackets (before : List Nat)
  /-- An operator, with the depth of its left side. -/
  | operator (left : Nat)
  deriving DecidableEq, Repr

def settle (d : Nat) : List Frame → Nat × List Frame
  | .operator left :: frames => (1 + max left d, frames)
  | frames => (d, frames)

/-- Dashes at the beginning of brackets stand for themselves, and so does a closing bracket as
the very first character. -/
inductive Place where
  | first
  | dashes
  | inside
  deriving DecidableEq, Repr

def Place.takesLiterally : Place → Char → Bool
  | first, c => c = ']' || c = '-'
  | dashes, c => c = '-'
  | inside, _ => false

def operatorSigns : List Char := ['&', '-', '~']

def opened? (fl : Flags) (s : List Char) : Option (List Char) :=
  match skipBlanks fl s with
  | '^' :: s => if allowsNegation fl true then some s else none
  | s => some s

/-- Inside brackets, with the depths of what has been read since the last frame, newest first.
Every step takes a character. -/
def scanBrackets (fl : Flags) : Nat → Place → List Frame → List Nat → List Char →
    Option (Nat × List Char)
  | 0, _, _, _, _ => none
  | n + 1, place, frames, ds, s =>
    match skipBlanks fl s with
    | [] => none
    | c :: s =>
      if place.takesLiterally c then
        if (Atom.character c.toNat false).isMember fl then
          scanBrackets fl n (if c = '-' then .dashes else .inside) frames (0 :: ds) s
        else none
      else if c = ']' then
        match settle (rowDepth ds) frames with
        | (d, .brackets before :: frames) =>
          if frames.isEmpty then some (1 + d, s)
          else scanBrackets fl n .inside frames ((1 + d) :: before) s
        | _ => none
      else if c = '[' then
        match namedClass? s with
        | some (negated, s) =>
          if allowsNamed fl negated then scanBrackets fl n .inside frames (0 :: ds) s else none
        | none =>
          match opened? fl s with
          | some s => scanBrackets fl n .first (.brackets ds :: frames) [] s
          | none => none
      else if operatorSigns.contains c ∧ s.head? = some c then
        let (d, frames) := settle (rowDepth ds) frames
        scanBrackets fl n .inside (.operator d :: frames) [] s.tail
      else
        match member? fl (c :: s) with
        | some s => scanBrackets fl n .inside frames (0 :: ds) s
        | none => none

def brackets? (fl : Flags) (s : List Char) : Option (Nat × List Char) := do
  scanBrackets fl (s.length + 1) .first [.brackets []] [] (← opened? fl s)

end Lockdown.Log.Pattern
