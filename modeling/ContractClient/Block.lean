import ContractClient.Json.Basic
import ContractClient.Numeral
import ContractClient.Text.Blank
import ContractClient.Text.Lowercase

namespace ContractClient

/-! Blocks that a request refers to: by a tag, by number or by hash. -/

inductive BlockTag where
  | latest
  | earliest
  | pending
  | safe
  | finalized
  | number (height : Nat)
deriving DecidableEq, Repr

inductive BlockId where
  | atTag (tag : BlockTag)
  | atHash (hash : Word)
deriving DecidableEq

inductive BlockError where
  | hash (text : String) (reason : HexError)
  | number (text : String)
  | identifier (text : String)
deriving DecidableEq, Repr

def BlockError.message : BlockError → String
  | .hash text reason => "invalid block hash '" ++ text ++ "': " ++ reason.message
  | .number text => "invalid block number '" ++ text ++ "'"
  | .identifier text => "invalid block identifier '" ++ text ++ "'"

namespace BlockTag

def toText : BlockTag → String
  | .latest => "latest"
  | .earliest => "earliest"
  | .pending => "pending"
  | .safe => "safe"
  | .finalized => "finalized"
  | .number height => Numeral.toQuantity height

def ofWord? (word : List Char) : Option BlockTag :=
  if word = "latest".toList then some .latest
  else if word = "earliest".toList then some .earliest
  else if word = "pending".toList then some .pending
  else if word = "safe".toList then some .safe
  else if word = "finalized".toList then some .finalized
  else none

end BlockTag

namespace BlockId

def latest : BlockId := .atTag .latest

/-- Read a reference to a block. A tag may be in either case; sixty-four bytes
behind the marker are a hash, all else is a 64-bit number. -/
def parse (input : String) : Except BlockError BlockId :=
  let text := Text.trim input
  match BlockTag.ofWord? (Text.lowerAscii text.toList) with
  | some tag => .ok (.atTag tag)
  | none =>
      match stripHexMarker text.toList with
      | some digits =>
          if (Bytes.ofText (String.ofList digits)).length = 64 then
            match FixedBytes.ofHex 32 text with
            | .ok hash => .ok (.atHash hash)
            | .error reason => .error (.hash text reason)
          else
            match Numeral.read64 16 digits with
            | some height => .ok (.atTag (.number height))
            | none => .error (.number text)
      | none =>
          match Numeral.read64 10 text.toList with
          | some height => .ok (.atTag (.number height))
          | none => .error (.identifier text)

/-- The form of a block in the parameters of a request; a hash is wrapped in an
object. -/
def toJson : BlockId → Json
  | .atTag tag => .string tag.toText
  | .atHash hash => Json.ofPairs [("blockHash", .string hash.toHex)]

end BlockId

end ContractClient
