/-!
Numbers with a fraction and an exponent as people write them. Of the digits before and after the
point one side may be missing, and words stand for what has no digits.
-/
namespace Lockdown.Text

def floatingWords : List String := ["inf", "infinity", "nan"]

def isExponent : List Char → Bool
  | '+' :: s | '-' :: s | s => !s.isEmpty && s.all Char.isDigit

def isMagnitude (s : List Char) : Bool :=
  let whole := s.takeWhile Char.isDigit
  let s := s.dropWhile Char.isDigit
  let (fraction, s) := match s with
    | '.' :: s => (s.takeWhile Char.isDigit, s.dropWhile Char.isDigit)
    | s => ([], s)
  !(whole ++ fraction).isEmpty && match s with
    | [] => true
    | c :: s => (c = 'e' || c = 'E') && isExponent s

def isFloating (s : List Char) : Bool :=
  let s := match s with
    | '+' :: s | '-' :: s => s
    | s => s
  floatingWords.contains (String.ofList s).toLower || isMagnitude s

end Lockdown.Text
