import ContractClient.Bytes
import ContractClient.Numeral
import ContractClient.Text.Blank

namespace ContractClient

/-! Identifiers by which a user names a function or an event. -/

inductive Identifier where
  /-- A plain name, which several entries may share. -/
  | plain (name : String)
  /-- A name with parameter types, without spaces. -/
  | signature (text : String)
  | selector (bytes : Selector)
  | topic (word : Word)
deriving DecidableEq

namespace Identifier

/-- Eight or sixty-four digits behind a marker are a selector or a topic, a text
with a parenthesis is a signature, and all else is a name. -/
def parse (input : String) : Identifier :=
  let text := Text.trim input
  let concrete : Option Identifier :=
    match stripHexMarker text.toList with
    | none => none
    | some digits =>
        let length := (Bytes.ofText (String.ofList digits)).length
        if length = 8 then
          match FixedBytes.ofHex 4 text with
          | .ok bytes => some (.selector bytes)
          | .error _ => none
        else if length = 64 then
          match FixedBytes.ofHex 32 text with
          | .ok word => some (.topic word)
          | .error _ => none
        else none
  match concrete with
  | some identifier => identifier
  | none =>
      if text.toList.contains '(' then
        .signature (String.ofList (text.toList.filter fun character => character ≠ ' '))
      else .plain text

/-- The identifier stands for one entry whatever the arguments are. -/
def isConcrete : Identifier → Bool
  | .plain _ => false
  | _ => true

def toText : Identifier → String
  | .plain name => name
  | .signature text => text
  | .selector bytes => bytes.toHex
  | .topic word => word.toHex

end Identifier

end ContractClient
