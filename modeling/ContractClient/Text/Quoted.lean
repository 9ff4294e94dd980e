namespace ContractClient.Text.Quoted

/-! Quoted texts of messages. A quoted text stands between double quotes, with a
backslash before a quote or a backslash, the usual letters for line breaks and
tabs, and the hexadecimal code of every other character that has no shape. -/

def apostrophe : Char := Char.ofNat 39

/-- Ranges of characters without a shape of their own: controls, blanks other
than the space, invisible marks and private use. -/
def shapeless : List (Nat × Nat) :=
  [(0x00, 0x1F), (0x7F, 0xA0), (0xAD, 0xAD), (0x600, 0x605), (0x61C, 0x61C), (0x6DD, 0x6DD),
   (0x70F, 0x70F), (0x1680, 0x1680), (0x180E, 0x180E), (0x2000, 0x200F), (0x2028, 0x202F),
   (0x205F, 0x206F), (0x3000, 0x3000), (0xE000, 0xF8FF), (0xFEFF, 0xFEFF), (0xFFF0, 0xFFFB),
   (0xFFFE, 0xFFFF), (0xE0000, 0xE0FFF), (0xF0000, 0x10FFFF)]

def hasShape (character : Char) : Bool :=
  !shapeless.any fun (first, last) => first ≤ character.toNat && character.toNat ≤ last

/-- A character as it stands between quotes; `quote` is the quote it must not
be mistaken for. -/
def escape (quote character : Char) : List Char :=
  if character.toNat = 0 then ['\\', '0']
  else if character = '\t' then ['\\', 't']
  else if character = '\n' then ['\\', 'n']
  else if character = '\r' then ['\\', 'r']
  else if character = '\\' then ['\\', '\\']
  else if character = quote then ['\\', quote]
  else if hasShape character then [character]
  else ['\\', 'u', '{'] ++ Nat.toDigits 16 character.toNat ++ ['}']

def character (shown : Char) : String :=
  String.ofList ([apostrophe] ++ escape apostrophe shown ++ [apostrophe])

def text (shown : String) : String :=
  String.ofList (['"'] ++ shown.toList.flatMap (escape '"') ++ ['"'])

example : escape '"' '"' = ['\\', '"'] := by decide

end ContractClient.Text.Quoted
