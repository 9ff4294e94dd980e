import ContractClient.Json.Writer
import ContractClient.Toml.Basic
import ContractClient.Toml.Reader

namespace ContractClient.Toml

/-! ## Writing TOML texts

Values stand on one line, and every table has a header of its own behind the
values of the table that it is in. -/

def writeCharacter (character : Char) : List Char :=
  if character.toNat = 0x7F then ['\\', 'u', '0', '0', '7', 'f'] else Json.writeCharacter character

def writeString (text : String) : List Char :=
  ['"'] ++ text.toList.flatMap writeCharacter ++ ['"']

def writeKeyPart (name : String) : List Char :=
  if !name.isEmpty && name.toList.all inBareKey then name.toList else writeString name

def writeKey (path : List String) : List Char :=
  List.intercalate ['.'] (path.map writeKeyPart)

def writeFloat (value : Number) : List Char :=
  if value = .binary 0x7FF0000000000000 then ['i', 'n', 'f']
  else if value = .binary 0xFFF0000000000000 then ['-', 'i', 'n', 'f']
  else if value = .binary 0x7FF8000000000000 then ['n', 'a', 'n']
  else value.toText.toList

mutual
def writeValue : Toml → List Char
  | .string value => writeString value
  | .integer value => (toString value).toList
  | .float value => writeFloat value
  | .boolean true => ['t', 'r', 'u', 'e']
  | .boolean false => ['f', 'a', 'l', 's', 'e']
  | .moment written => written.toList
  | .array items | .tables items => ['['] ++ writeItems items ++ [']']
  | .table _ members => ['{'] ++ writePairs members ++ ['}']

def writeItems : List Toml → List Char
  | [] => []
  | [item] => writeValue item
  | item :: rest => writeValue item ++ [',', ' '] ++ writeItems rest

def writePairs : List (String × Toml) → List Char
  | [] => []
  | [(name, value)] => writeKeyPart name ++ [' ', '=', ' '] ++ writeValue value
  | (name, value) :: rest =>
      writeKeyPart name ++ [' ', '=', ' '] ++ writeValue value ++ [',', ' '] ++ writePairs rest
end

/-- The members that are values and no tables, one a line. -/
def writeValueLines : List (String × Toml) → List Char
  | [] => []
  | (_, .table ..) :: rest => writeValueLines rest
  | (name, value) :: rest =>
      writeKeyPart name ++ [' ', '=', ' '] ++ writeValue value ++ ['\n'] ++ writeValueLines rest

def writeTables (path : List String) : List (String × Toml) → List Char
  | [] => []
  | (name, .table _ inner) :: rest =>
      ['\n', '['] ++ writeKey (path ++ [name]) ++ [']', '\n'] ++ writeValueLines inner ++
        writeTables (path ++ [name]) inner ++ writeTables path rest
  | _ :: rest => writeTables path rest

def documentText (members : List (String × Toml)) : String :=
  String.ofList (writeValueLines members ++ writeTables [] members)

end ContractClient.Toml
