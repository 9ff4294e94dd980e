import ContractClient.Abi.Value

namespace ContractClient

/-! The ABI encoding of values. In a sequence every static value stands in
place, and every dynamic one is represented by the offset of its encoding, which
follows the places of all values. -/

namespace AbiEncoding

/-- The encoding of one value of a sequence, and whether an offset stands for it. -/
structure Part where
  dynamic : Bool
  body : Bytes

def word (number : Nat) : Bytes :=
  Bytes.ofNat 32 number

def Part.headLength (part : Part) : Nat :=
  if part.dynamic then 32 else part.body.length

def heads (offset : Nat) : List Part → Bytes
  | [] => []
  | part :: rest =>
      if part.dynamic then word offset ++ heads (offset + part.body.length) rest
      else part.body ++ heads offset rest

def tails : List Part → Bytes
  | [] => []
  | part :: rest => if part.dynamic then part.body ++ tails rest else tails rest

def headsLength : List Part → Nat
  | [] => 0
  | part :: rest => part.headLength + headsLength rest

def assemble (parts : List Part) : Bytes :=
  heads (headsLength parts) parts ++ tails parts

end AbiEncoding

namespace AbiValue

open AbiEncoding

mutual
def isDynamic : AbiValue → Bool
  | .bytes _ | .string _ | .array _ => true
  | .fixedArray items | .tuple items => anyDynamic items
  | _ => false

def anyDynamic : List AbiValue → Bool
  | [] => false
  | value :: rest => value.isDynamic || anyDynamic rest
end

mutual
/-- The encoding of a value where it stands in place. Byte strings, texts and
arrays begin with their length. -/
def encodeBody : AbiValue → Bytes
  | .bytes content => word content.length ++ Bytes.padRight content
  | .string text =>
      word (Bytes.ofText text).length ++ Bytes.padRight (Bytes.ofText text)
  | .array items => word items.length ++ assemble (encodeParts items)
  | .fixedArray items => assemble (encodeParts items)
  | .tuple items => assemble (encodeParts items)
  | .address account => (Word.ofAddress account).bytes
  | .bool flag => word (if flag then 1 else 0)
  | .uint number _ => word number
  | .int number _ => (Word.ofInt number).bytes
  | .fixedBytes content _ => content.bytes
  | .function pointer => pointer.bytes ++ List.replicate 8 0

def encodeParts : List AbiValue → List Part
  | [] => []
  | value :: rest => ⟨value.isDynamic, value.encodeBody⟩ :: encodeParts rest
end

def encodeSequence (values : List AbiValue) : Bytes :=
  assemble (encodeParts values)

def encode (value : AbiValue) : Bytes :=
  encodeSequence [value]

end AbiValue

end ContractClient
