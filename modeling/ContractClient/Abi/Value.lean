import ContractClient.Address
import ContractClient.Json.Basic
import ContractClient.Abi.Type

namespace ContractClient

/-! Values of the contract ABI, and their form in JSON answers. -/

/-- A value of an ABI type. Integers keep the width of their type; a fixed byte
string keeps the whole word it stands in. -/
inductive AbiValue where
  | address (account : Address)
  | bool (flag : Bool)
  | uint (number : Nat) (width : Nat)
  | int (number : Int) (width : Nat)
  | fixedBytes (word : Word) (size : Nat)
  | bytes (content : Bytes)
  | string (text : String)
  | function (pointer : FixedBytes 24)
  | array (items : List AbiValue)
  | fixedArray (items : List AbiValue)
  | tuple (items : List AbiValue)
deriving Inhabited

namespace AbiValue

/-! ## Words -/

/-- The word of a value type; byte strings, texts, arrays and tuples have none.
Numbers are right-aligned, fixed byte strings and functions left-aligned. -/
def word? : AbiValue → Option Word
  | .address account => some (Word.ofAddress account)
  | .bool flag => some (FixedBytes.ofNat 32 (if flag then 1 else 0))
  | .uint number _ => some (FixedBytes.ofNat 32 number)
  | .int number _ => some (Word.ofInt number)
  | .fixedBytes word _ => some word
  | .function pointer => some ⟨pointer.bytes ++ List.replicate 8 0, by simp [pointer.length_bytes]⟩
  | _ => none

/-! ## Shape -/

mutual
/-- The value has the shape of the type at every level: the same kinds, widths,
sizes and lengths. -/
def matchesType : AbiValue → AbiType → Bool
  | .address _, .address => true
  | .bool _, .bool => true
  | .uint _ width, .uint expected => width == expected
  | .int _ width, .int expected => width == expected
  | .fixedBytes _ size, .fixedBytes expected => size == expected
  | .bytes _, .bytes => true
  | .string _, .string => true
  | .function _, .function => true
  | .array items, .array item => allMatch items item
  | .fixedArray items, .fixedArray item length => items.length == length && allMatch items item
  | .tuple items, .tuple types => eachMatches items types
  | _, _ => false

def allMatch : List AbiValue → AbiType → Bool
  | [], _ => true
  | value :: rest, item => value.matchesType item && allMatch rest item

def eachMatches : List AbiValue → List AbiType → Bool
  | [], [] => true
  | value :: values, item :: types => value.matchesType item && eachMatches values types
  | _, _ => false
end

/-! ## JSON -/

mutual
/-- The JSON form of a value: numbers in decimal and byte strings in
hexadecimal as strings, arrays and tuples as arrays. -/
def toJson : AbiValue → Json
  | .address account => .string (Address.toChecksum account)
  | .bool flag => .boolean flag
  | .uint number _ => .string (toString number)
  | .int number _ => .string (toString number)
  | .fixedBytes word size => .string (Bytes.toHex (word.bytes.take size))
  | .bytes content => .string (Bytes.toHex content)
  | .string text => .string text
  | .function pointer => .string pointer.toHex
  | .array items | .fixedArray items | .tuple items => .array (toJsonAll items)

def toJsonAll : List AbiValue → List Json
  | [] => []
  | value :: rest => value.toJson :: toJsonAll rest
end

end AbiValue

end ContractClient
