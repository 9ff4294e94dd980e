namespace ContractClient.Text

/-! ## Blank characters

Blank characters are those of the Unicode property White_Space. Every reader of
a user-supplied text trims blanks from both of its ends before looking at it. -/

/-- A character of the Unicode property White_Space. -/
def isBlank (character : Char) : Bool :=
  let code := character.toNat
  (9 ≤ code && code ≤ 13) || code == 0x20 || code == 0x85 || code == 0xA0 ||
    code == 0x1680 || (0x2000 ≤ code && code ≤ 0x200A) || code == 0x2028 ||
    code == 0x2029 || code == 0x202F || code == 0x205F || code == 0x3000

example : isBlank ' ' = true := by decide
example : isBlank '\t' = true := by decide
example : isBlank 'x' = false := by decide

def dropBlanks (characters : List Char) : List Char :=
  characters.dropWhile isBlank

def trimBlanks (characters : List Char) : List Char :=
  (dropBlanks (dropBlanks characters).reverse).reverse

def trim (text : String) : String :=
  String.ofList (trimBlanks text.toList)

example : trimBlanks [' ', 'a', ' ', 'b', '\n'] = ['a', ' ', 'b'] := by decide

end ContractClient.Text
