import ContractClient.Json.Basic

namespace ContractClient.Json

/-! ## Reading JSON texts

A text is one value with blanks around it. Arrays and objects may be nested
127 deep. The value of a repeated name is the last one. -/

def isBlank (character : Char) : Bool :=
  character = ' ' || character = '\n' || character = '\t' || character = '\r'

def skipBlanks (text : List Char) : List Char :=
  text.dropWhile isBlank

def hexValue? (character : Char) : Option Nat :=
  let code := character.toNat
  if 48 ≤ code ∧ code ≤ 57 then some (code - 48)
  else if 97 ≤ code ∧ code ≤ 102 then some (code - 87)
  else if 65 ≤ code ∧ code ≤ 70 then some (code - 55)
  else none

def hexFour? (a b c d : Char) : Option Nat :=
  match hexValue? a, hexValue? b, hexValue? c, hexValue? d with
  | some a, some b, some c, some d => some (((a * 16 + b) * 16 + c) * 16 + d)
  | _, _, _, _ => none

def shortEscape? : Char → Option Char
  | '"' => some '"'
  | '\\' => some '\\'
  | '/' => some '/'
  | 'b' => some (Char.ofNat 8)
  | 'f' => some (Char.ofNat 12)
  | 'n' => some '\n'
  | 'r' => some '\r'
  | 't' => some '\t'
  | _ => none

/-- Read the characters of a string up to its closing quote. A character beyond
the basic plane may be written as a pair of escapes; half a pair is refused. -/
def readCharacters : List Char → Option (List Char × List Char)
  | [] => none
  | '"' :: rest => some ([], rest)
  | '\\' :: 'u' :: a :: b :: c :: d :: rest =>
      match hexFour? a b c d with
      | none => none
      | some code =>
          if 0xDC00 ≤ code ∧ code ≤ 0xDFFF then none
          else if 0xD800 ≤ code ∧ code ≤ 0xDBFF then
            match rest with
            | '\\' :: 'u' :: e :: f :: g :: h :: tail =>
                match hexFour? e f g h with
                | none => none
                | some second =>
                    if 0xDC00 ≤ second ∧ second ≤ 0xDFFF then
                      match readCharacters tail with
                      | none => none
                      | some (characters, left) =>
                          let code := 0x10000 + (code - 0xD800) * 0x400 + (second - 0xDC00)
                          some (Char.ofNat code :: characters, left)
                    else none
            | _ => none
          else
            match readCharacters rest with
            | none => none
            | some (characters, left) => some (Char.ofNat code :: characters, left)
  | '\\' :: letter :: rest =>
      match shortEscape? letter with
      | none => none
      | some character =>
          match readCharacters rest with
          | none => none
          | some (characters, left) => some (character :: characters, left)
  | character :: rest =>
      if character.toNat < 0x20 ∨ character = '\\' then none
      else
        match readCharacters rest with
        | none => none
        | some (characters, left) => some (character :: characters, left)

abbrev Take (α : Type) := List Char → Option (α × List Char)

/-- Read the items behind an opening bracket, at least one, up to the closing
one. The number bounds how many there can be. -/
def readItems (item : Take Json) : (bound : Nat) → Take (List Json)
  | 0, _ => none
  | bound + 1, text =>
      match item text with
      | none => none
      | some (value, rest) =>
          match skipBlanks rest with
          | ',' :: tail =>
              match readItems item bound tail with
              | none => none
              | some (values, left) => some (value :: values, left)
          | ']' :: tail => some ([value], tail)
          | _ => none

def readMember (item : Take Json) : Take (String × Json) := fun text =>
  match skipBlanks text with
  | '"' :: rest =>
      match readCharacters rest with
      | none => none
      | some (name, tail) =>
          match skipBlanks tail with
          | ':' :: behind =>
              match item behind with
              | none => none
              | some (value, left) => some ((String.ofList name, value), left)
          | _ => none
  | _ => none

/-- Read the members behind an opening brace, at least one, up to the closing
one. The number bounds how many there can be. -/
def readMembers (item : Take Json) : (bound : Nat) → Take (List (String × Json))
  | 0, _ => none
  | bound + 1, text =>
      match readMember item text with
      | none => none
      | some (member, rest) =>
          match skipBlanks rest with
          | ',' :: tail =>
              match readMembers item bound tail with
              | none => none
              | some (members, left) => some (member :: members, left)
          | '}' :: tail => some ([member], tail)
          | _ => none

def readValue (depth : Nat) (text : List Char) : Option (Json × List Char) :=
  match skipBlanks text with
  | 'n' :: 'u' :: 'l' :: 'l' :: rest => some (.null, rest)
  | 't' :: 'r' :: 'u' :: 'e' :: rest => some (.boolean true, rest)
  | 'f' :: 'a' :: 'l' :: 's' :: 'e' :: rest => some (.boolean false, rest)
  | '"' :: rest =>
      (readCharacters rest).map fun (characters, left) => (.string (String.ofList characters), left)
  | '[' :: rest =>
      match depth with
      | 0 => none
      | depth + 1 =>
          match skipBlanks rest with
          | ']' :: tail => some (.array [], tail)
          | tail =>
              (readItems (readValue depth) (tail.length + 1) tail).map
                fun (values, left) => (.array values, left)
  | '{' :: rest =>
      match depth with
      | 0 => none
      | depth + 1 =>
          match skipBlanks rest with
          | '}' :: tail => some (.object [], tail)
          | tail =>
              (readMembers (readValue depth) (tail.length + 1) tail).map
                fun (members, left) => (ofPairs members, left)
  | rest => (Number.read rest).map fun (value, left) => (.number value, left)

def maxDepth : Nat := 127

def parse? (text : String) : Option Json :=
  match readValue maxDepth text.toList with
  | some (value, rest) => if (skipBlanks rest).isEmpty then some value else none
  | none => none

end ContractClient.Json
