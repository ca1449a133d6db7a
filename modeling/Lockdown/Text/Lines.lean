/-! Cutting a text at separators and into lines. -/
namespace Lockdown.Text

/-- The parts between separators; there is always one more than separators. -/
def splitAtChar (sep : Char) : List Char → List (List Char)
  | [] => [[]]
  | c :: s =>
    if c = sep then [] :: splitAtChar sep s
    else match splitAtChar sep s with
      | part :: parts => (c :: part) :: parts
      | [] => [[c]]

def dropReturn (line : List Char) : List Char :=
  if line.getLast? = some '\r' then line.dropLast else line

def lines (s : String) : List String :=
  let parts := splitAtChar '\n' s.toList
  let ended := parts.dropLast.map dropReturn
  match parts.getLast? with
  | some last@(_ :: _) => (ended ++ [last]).map String.ofList
  | _ => ended.map String.ofList

end Lockdown.Text
