import ContractClient.Abi.Encoding

namespace ContractClient.AbiValue

/-! Topics of indexed event arguments. A value type is its own topic. A text or
byte string is represented by the hash of its content, an array or tuple by the
hash of its leaves in order, without lengths or offsets. -/

mutual
/-- The leaves of a value one after the other, texts and byte strings filled
up to whole words. -/
def encodeInPlace : AbiValue → Bytes
  | .string text => Bytes.padRight (Bytes.ofText text)
  | .bytes content => Bytes.padRight content
  | .array items | .fixedArray items | .tuple items => encodeAllInPlace items
  | value =>
      match value.word? with
      | some word => word.bytes
      | none => []

def encodeAllInPlace : List AbiValue → Bytes
  | [] => []
  | value :: rest => value.encodeInPlace ++ encodeAllInPlace rest
end

def topic (value : AbiValue) : Word :=
  match value with
  | .string text => keccak256 (Bytes.ofText text)
  | .bytes content => keccak256 content
  | .array _ | .fixedArray _ | .tuple _ => keccak256 value.encodeInPlace
  | value =>
      match value.word? with
      | some word => word
      | none => keccak256 []

end ContractClient.AbiValue
