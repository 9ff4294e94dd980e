import ContractClient.Json.Basic

namespace ContractClient.Json

/-! ## Writing JSON texts

Strings escape quotes, backslashes and controls only. A value is written on one
line without blanks, or with one member or item a line, indented by two. -/

def hexDigit (value : Nat) : Char :=
  if value < 10 then Char.ofNat (48 + value) else Char.ofNat (87 + value)

def writeCharacter (character : Char) : List Char :=
  if character = '"' then ['\\', '"']
  else if character = '\\' then ['\\', '\\']
  else if character = '\n' then ['\\', 'n']
  else if character = '\r' then ['\\', 'r']
  else if character = '\t' then ['\\', 't']
  else if character.toNat = 8 then ['\\', 'b']
  else if character.toNat = 12 then ['\\', 'f']
  else if character.toNat < 0x20 then
    ['\\', 'u', '0', '0', hexDigit (character.toNat / 16), hexDigit (character.toNat % 16)]
  else [character]

def writeString (text : String) : List Char :=
  ['"'] ++ text.toList.flatMap writeCharacter ++ ['"']

mutual
def write : Json → List Char
  | .null => ['n', 'u', 'l', 'l']
  | .boolean true => ['t', 'r', 'u', 'e']
  | .boolean false => ['f', 'a', 'l', 's', 'e']
  | .number value => value.toText.toList
  | .string text => writeString text
  | .array items => ['['] ++ writeItems items ++ [']']
  | .object members => ['{'] ++ writeMembers members ++ ['}']

def writeItems : List Json → List Char
  | [] => []
  | [item] => write item
  | item :: rest => write item ++ [','] ++ writeItems rest

def writeMembers : List (String × Json) → List Char
  | [] => []
  | [(name, value)] => writeString name ++ [':'] ++ write value
  | (name, value) :: rest =>
      writeString name ++ [':'] ++ write value ++ [','] ++ writeMembers rest
end

def indentation (level : Nat) : List Char :=
  '\n' :: List.replicate (2 * level) ' '

mutual
/-- A value over several lines; its own lines stand at `level`. -/
def writePretty (level : Nat) : Json → List Char
  | .array (first :: rest) =>
      ['['] ++ writePrettyItems (level + 1) (first :: rest) ++ indentation level ++ [']']
  | .object (first :: rest) =>
      ['{'] ++ writePrettyMembers (level + 1) (first :: rest) ++ indentation level ++ ['}']
  | value => write value

def writePrettyItems (level : Nat) : List Json → List Char
  | [] => []
  | [item] => indentation level ++ writePretty level item
  | item :: rest =>
      indentation level ++ writePretty level item ++ [','] ++ writePrettyItems level rest

def writePrettyMembers (level : Nat) : List (String × Json) → List Char
  | [] => []
  | [(name, value)] =>
      indentation level ++ writeString name ++ [':', ' '] ++ writePretty level value
  | (name, value) :: rest =>
      indentation level ++ writeString name ++ [':', ' '] ++ writePretty level value ++
        [','] ++ writePrettyMembers level rest
end

def toText (value : Json) : String :=
  String.ofList (write value)

def toPrettyText (value : Json) : String :=
  String.ofList (writePretty 0 value)

end ContractClient.Json
