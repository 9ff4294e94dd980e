import ContractClient.Toml.Scalar
import ContractClient.Toml.Table

namespace ContractClient.Toml

/-! ## Reading TOML texts

A text is a sequence of lines, each with a header, with a key and its value, or
with nothing but blanks and a comment. -/

/-! ### Blanks and comments -/

def skipBlanks (text : List Char) : List Char :=
  text.dropWhile isBlank

def skipFiller : (inComment : Bool) → List Char → Option (List Char)
  | _, [] => some []
  | inComment, '\r' :: rest =>
      if startsWithBreak ('\r' :: rest) then skipFiller inComment rest else none
  | inComment, character :: rest =>
      if character = '\n' then skipFiller false rest
      else if inComment then
        if isPrintable character then skipFiller true rest else none
      else if isBlank character then skipFiller false rest
      else if character = '#' then skipFiller true rest
      else some (character :: rest)

/-- Skip what may stand behind a statement on its line, and the line's end. -/
def skipLine (text : List Char) : Option (List Char) :=
  let behind := match skipBlanks text with
    | '#' :: comment => comment.dropWhile isPrintable
    | rest => rest
  match behind with
  | [] => some []
  | '\n' :: rest | '\r' :: '\n' :: rest => some rest
  | _ => none

/-! ### Keys -/

def inBareKey (character : Char) : Bool :=
  character.isAlphanum || character = '_' || character = '-'

def readKeyPart : Json.Take String := fun text =>
  match text with
  | [] => none
  | first :: rest =>
      if first = '"' ∨ first = Text.Quoted.apostrophe then
        (readLine first (first = '"') 0 rest).map fun (name, left) => (String.ofList name, left)
      else
        let (name, left) := text.span inBareKey
        if name.isEmpty then none else some (String.ofList name, left)

/-- Read the parts of a key, with dots between them. The number bounds how many
there can be. -/
def readKey : (bound : Nat) → Json.Take (List String)
  | 0, _ => none
  | bound + 1, text =>
      match readKeyPart (skipBlanks text) with
      | none => none
      | some (name, rest) =>
          match skipBlanks rest with
          | '.' :: behind =>
              (readKey bound behind).map fun (names, left) => (name :: names, left)
          | left => some ([name], left)

def readPair (value : Json.Take Toml) : Json.Take (List String × Toml) := fun text =>
  match readKey (text.length + 1) text with
  | some (key, '=' :: behind) =>
      (value (skipBlanks behind)).map fun (held, left) => ((key, held), left)
  | _ => none

/-! ### Values -/

/-- Read the items of an array up to its closing bracket. A comma may stand
behind the last one. -/
def readItems (value : Json.Take Toml) : (bound : Nat) → Json.Take (List Toml)
  | 0, _ => none
  | bound + 1, text =>
      match skipFiller false text with
      | none => none
      | some (']' :: left) => some ([], left)
      | some start =>
          match value start with
          | none => none
          | some (item, rest) =>
              match skipFiller false rest with
              | some (',' :: behind) =>
                  (readItems value bound behind).map fun (items, left) => (item :: items, left)
              | some (']' :: left) => some ([item], left)
              | _ => none

def readPairs (value : Json.Take Toml) : (bound : Nat) → Json.Take (List (List String × Toml))
  | 0, _ => none
  | bound + 1, text =>
      match readPair value (skipBlanks text) with
      | none => none
      | some (pair, rest) =>
          match skipBlanks rest with
          | ',' :: behind =>
              (readPairs value bound behind).map fun (pairs, left) => (pair :: pairs, left)
          | '}' :: left => some ([pair], left)
          | _ => none

def readValue (depth : Nat) (text : List Char) : Option (Toml × List Char) :=
  match text with
  | [] => none
  | '[' :: rest =>
      match depth with
      | 0 => none
      | depth + 1 =>
          (readItems (readValue depth) (rest.length + 1) rest).map
            fun (items, left) => (.array items, left)
  | '{' :: rest =>
      match depth with
      | 0 => none
      | depth + 1 =>
          match skipBlanks rest with
          | '}' :: left => some (.table .inline [], left)
          | start => do
              let (pairs, left) ← readPairs (readValue depth) (start.length + 1) start
              let members ← ofPairs pairs
              some (.table .inline members, left)
  | first :: _ =>
      if first = '"' ∨ first = Text.Quoted.apostrophe then
        (readText text).map fun (value, left) => (.string value, left)
      else
        let (token, left) := takeToken text
        (ofToken? token).map fun value => (value, left)

def maxDepth : Nat := 80

/-! ### Documents -/

def readHeader (closing : List Char) (text : List Char) : Option (List String × List Char) :=
  match readKey (text.length + 1) text with
  | some (path, rest) =>
      if closing.isPrefixOf rest then some (path, rest.drop closing.length) else none
  | none => none

def readStatement : Json.Take Statement := fun text =>
  match text with
  | '[' :: '[' :: rest =>
      (readHeader [']', ']'] rest).map fun (path, left) => (.element path, left)
  | '[' :: rest => (readHeader [']'] rest).map fun (path, left) => (.header path, left)
  | _ => (readPair (readValue maxDepth) text).map fun ((key, value), left) => (.pair key value, left)

/-- Read the statements of a text. The number bounds how many there can be. -/
def readStatements : (bound : Nat) → List Char → Option (List Statement)
  | 0, _ => none
  | bound + 1, text =>
      match skipFiller false text with
      | none => none
      | some [] => some []
      | some start => do
          let (statement, rest) ← readStatement start
          let behind ← skipLine rest
          let statements ← readStatements bound behind
          some (statement :: statements)

def byteOrderMark : Char := Char.ofNat 0xFEFF

def parse? (text : String) : Option Toml := do
  let characters := match text.toList with
    | first :: rest => if first = byteOrderMark then rest else first :: rest
    | [] => []
  let statements ← readStatements (characters.length + 1) characters
  let document ← statements.foldlM Document.extend .empty
  some (.table .header document.members)

end ContractClient.Toml
