namespace ContractClient.Text

/-! ## Searching and replacing -/

def occursIn (pattern : List Char) : List Char → Bool
  | [] => pattern.isEmpty
  | character :: rest => pattern.isPrefixOf (character :: rest) || occursIn pattern rest

/-- Replace the occurrences of a pattern from left to right, none overlapping
the one before it. The number counts the characters of the last occurrence that
are still to be passed over. -/
def replaceFrom (pattern substitute : List Char) : Nat → List Char → List Char
  | _, [] => []
  | skip + 1, _ :: rest => replaceFrom pattern substitute skip rest
  | 0, character :: rest =>
      if pattern.isPrefixOf (character :: rest) then
        substitute ++ replaceFrom pattern substitute (pattern.length - 1) rest
      else character :: replaceFrom pattern substitute 0 rest

/-- Replace every occurrence of a pattern that is not empty. -/
def replaceAll (pattern substitute text : List Char) : List Char :=
  replaceFrom pattern substitute 0 text

example : replaceAll ['a', 'b'] ['x'] ['a', 'b', 'a', 'a', 'b'] = ['x', 'a', 'x'] := by decide

def contains (text pattern : String) : Bool :=
  occursIn pattern.toList text.toList

def replace (text pattern substitute : String) : String :=
  String.ofList (replaceAll pattern.toList substitute.toList text.toList)

/-- Cut a list of characters at each separator; there is one more piece than
separators. -/
def splitOn (separator : Char) : List Char → List (List Char)
  | [] => [[]]
  | character :: rest =>
      if character = separator then [] :: splitOn separator rest
      else
        match splitOn separator rest with
        | [] => [[character]]
        | piece :: pieces => (character :: piece) :: pieces

example : splitOn ',' ['a', ',', 'b'] = [['a'], ['b']] := by decide

end ContractClient.Text
