import ContractClient.Text.Search

namespace ContractClient

/-! Paths of files. A path is followed from the left, one part after the other, through
directories to a place. Different paths may lead to one place. -/

/-- The names on the way from the root to a file or a directory. -/
abbrev Place := List (List Char)

namespace Path

/-- The path of a name in a directory; a name that begins at the root is its own path. -/
def join (directory name : String) : String :=
  if name.toList.head? = some '/' then name else directory ++ "/" ++ name

def parts (path : String) : List (List Char) :=
  Text.splitOn '/' path.toList

/-- Follow parts from a place. The way goes on from directories only. A dot stays where
it is, and two dots lead back. -/
def follow (isDirectory : Place → Bool) (place : Place) : List (List Char) → Option Place
  | [] => some place
  | part :: rest =>
      if !isDirectory place then none
      else if part = [] ∨ part = ['.'] then follow isDirectory place rest
      else if part = ['.', '.'] then follow isDirectory place.dropLast rest
      else follow isDirectory (place ++ [part]) rest

def place (path : String) : Option Place :=
  follow (fun _ => true) [] (parts path)

example : place "a/./b/../c" = some [['a'], ['c']] := by decide

end Path

end ContractClient
