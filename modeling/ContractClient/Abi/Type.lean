namespace ContractClient

/-! Types of the contract ABI: the value types that fit one word, byte strings
and texts, and arrays and tuples of any of them. -/

inductive AbiType where
  | address
  | bool
  | uint (width : Nat)
  | int (width : Nat)
  | fixedBytes (size : Nat)
  | bytes
  | string
  | function
  | array (item : AbiType)
  | fixedArray (item : AbiType) (length : Nat)
  | tuple (items : List AbiType)
deriving Inhabited, Repr

namespace AbiType

def isArray : AbiType → Bool
  | .array _ | .fixedArray _ _ => true
  | _ => false

def isTuple : AbiType → Bool
  | .tuple _ => true
  | _ => false

/-! ## Sizes in an encoding -/

mutual
/-- A type whose encodings differ in length stands behind an offset. -/
def isDynamic : AbiType → Bool
  | .bytes | .string | .array _ => true
  | .fixedArray item _ => item.isDynamic
  | .tuple items => anyDynamic items
  | _ => false

def anyDynamic : List AbiType → Bool
  | [] => false
  | item :: rest => item.isDynamic || anyDynamic rest
end

mutual
def minimumWords : AbiType → Nat
  | .fixedArray item length => length * item.minimumWords
  | .tuple items => totalWords items
  | _ => 1

def totalWords : List AbiType → Nat
  | [] => 0
  | item :: rest => item.minimumWords + totalWords rest
end

/-! ## Texts -/

mutual
/-- The canonical text of a type. A tuple of one item keeps a comma. -/
def toText : AbiType → String
  | .address => "address"
  | .bool => "bool"
  | .uint width => "uint" ++ toString width
  | .int width => "int" ++ toString width
  | .fixedBytes size => "bytes" ++ toString size
  | .bytes => "bytes"
  | .string => "string"
  | .function => "function"
  | .array item => item.toText ++ "[]"
  | .fixedArray item length => item.toText ++ "[" ++ toString length ++ "]"
  | .tuple [item] => "(" ++ item.toText ++ ",)"
  | .tuple items => "(" ++ joinTexts items ++ ")"

def joinTexts : List AbiType → String
  | [] => ""
  | [item] => item.toText
  | item :: rest => item.toText ++ "," ++ joinTexts rest
end

end AbiType

end ContractClient
