import ContractClient.Abi.Value
import ContractClient.Numeral
import ContractClient.Interface.Parameter

namespace ContractClient

/-! Coercion of JSON values to ABI values of a given type. Numbers may be given
as JSON integers or as texts in decimal or hexadecimal, byte strings as
hexadecimal texts, and tuples as arrays or, where the components are named, as
objects. -/

inductive CoercionError where
  | addressNotText
  | addressUnmarked
  | addressLength (text : String)
  | addressDigits (error : HexError)
  | boolExpected
  | uintExpected
  | uintNumber (number : Number)
  | uintText (text : String)
  | uintWidth (number width : Nat)
  | intExpected
  | intNumber (number : Number)
  | intText (text : String)
  | intWidth (number : Int) (width : Nat)
  | bytesNotText
  | bytesUnmarked
  | bytesDigits (text : String)
  | fixedBytesLength (size length : Nat)
  | functionLength
  | stringExpected
  | arrayExpected
  | arrayLength (expected length : Nat)
  | tupleExpected
  | tupleUnnamed
  | tupleUnknown (name : String)
  | tupleMissing (name : String)
  | tupleLength (expected length : Nat)
deriving DecidableEq, Repr

namespace CoercionError

def message : CoercionError → String
  | .addressNotText => "address must be a string"
  | .addressUnmarked => "address must be 0x-prefixed"
  | .addressLength text => "address must be 20 bytes: " ++ text
  | .addressDigits error => error.message
  | .boolExpected => "bool must be a boolean"
  | .uintExpected => "uint must be a number or string"
  | .uintNumber number => "invalid uint value: " ++ number.toText
  | .uintText text => "invalid uint string: " ++ text
  | .uintWidth number width =>
      toString number ++ " does not fit in uint" ++ toString width
  | .intExpected => "int must be a number or string"
  | .intNumber number => "invalid int value: " ++ number.toText
  | .intText text => "invalid int string: " ++ text
  | .intWidth number width => toString number ++ " does not fit in int" ++ toString width
  | .bytesNotText => "bytes must be a hex string"
  | .bytesUnmarked => "bytes must be 0x-prefixed"
  | .bytesDigits text => "invalid hex string: " ++ text
  | .fixedBytesLength size length =>
      "bytes" ++ toString size ++ " expects " ++ toString size ++ " bytes, got " ++
        toString length
  | .functionLength => "function must be 24 bytes"
  | .stringExpected => "string must be a string"
  | .arrayExpected => "array must be a JSON array"
  | .arrayLength expected length =>
      "expected " ++ toString expected ++ " elements, got " ++ toString length
  | .tupleExpected => "tuple must be a JSON array or object"
  | .tupleUnnamed => "tuple without component names must be a JSON array"
  | .tupleUnknown name => "unknown tuple component '" ++ name ++ "'"
  | .tupleMissing name => "missing tuple component '" ++ name ++ "'"
  | .tupleLength expected length =>
      "tuple expects " ++ toString expected ++ " components, got " ++ toString length

end CoercionError

namespace Coercion

/-! ## Numbers -/

/-- An unsigned number: a JSON integer, hexadecimal behind `0x` or `0X`, or
decimal. -/
def unsigned : Json → Except CoercionError Nat
  | .number number =>
      match number.toNat? with
      | some value => .ok value
      | none => .error (.uintNumber number)
  | .string text =>
      let read := match stripHexMarker text.toList with
        | some digits => Numeral.readUnsigned 16 digits
        | none => Numeral.readUnsigned 10 text.toList
      match read with
      | some value => .ok value
      | none => .error (.uintText text)
  | _ => .error .uintExpected

def dropMinus : List Char → List Char
  | '-' :: rest => rest
  | text => text

/-- A signed number: a JSON integer, hexadecimal where `0x` or `0X` follows an
optional minus, or decimal. -/
def signed : Json → Except CoercionError Int
  | .number number =>
      match number.toInt? with
      | some value => .ok value
      | none => .error (.intNumber number)
  | .string text =>
      let read := match stripHexMarker (dropMinus text.toList) with
        | some _ => Numeral.readSignedHex text.toList
        | none => Numeral.readSignedDecimal text.toList
      match read with
      | some value => .ok value
      | none => .error (.intText text)
  | _ => .error .intExpected

def fitsUnsigned (number width : Nat) : Bool :=
  number < Width.limit width

def fitsSigned (number : Int) (width : Nat) : Bool :=
  if number < 0 then number.natAbs ≤ Width.limit (width - 1)
  else number.natAbs < Width.limit (width - 1)

/-! ## Byte strings -/

def hexBytes : Json → Except CoercionError Bytes
  | .string text =>
      match stripHexMarker text.toList with
      | none => .error .bytesUnmarked
      | some digits =>
          match Hex.decode (Bytes.ofText (String.ofList digits)) with
          | .ok bytes => .ok bytes
          | .error _ => .error (.bytesDigits text)
  | _ => .error .bytesNotText

def account : Json → Except CoercionError Address
  | .string text =>
      match stripHexMarker text.toList with
      | none => .error .addressUnmarked
      | some digits =>
          if (Bytes.ofText (String.ofList digits)).length ≠ 40 then .error (.addressLength text)
          else
            match FixedBytes.ofHex 20 text with
            | .ok address => .ok address
            | .error reason => .error (.addressDigits reason)
  | _ => .error .addressNotText

/-! ## Tuples -/

def orderFields (fields : List (String × Json)) (components : List Parameter) (arity : Nat) :
    Except CoercionError (List Json) :=
  if components.length ≠ arity ∨ components.any fun component => component.name.isEmpty then
    .error .tupleUnnamed
  else
    let unknown := fields.find? fun field =>
      !components.any fun component => component.name == field.1
    match unknown with
    | some field => .error (.tupleUnknown field.1)
    | none =>
        components.mapM fun component =>
          match Json.lookup component.name fields with
          | some value => .ok value
          | none => .error (.tupleMissing component.name)

/-- The items of a tuple, given by position or by name. -/
def tupleItems (value : Json) (components : List Parameter) (arity : Nat) :
    Except CoercionError (List Json) :=
  match value with
  | .array items => .ok items
  | .object fields => orderFields fields components arity
  | _ => .error .tupleExpected

def each (step : Json → Except CoercionError AbiValue) :
    List Json → Except CoercionError (List AbiValue)
  | [] => .ok []
  | item :: rest =>
      match step item with
      | .error reason => .error reason
      | .ok value =>
          match each step rest with
          | .error reason => .error reason
          | .ok values => .ok (value :: values)

end Coercion

namespace AbiValue

open Coercion

mutual
/-- The value of a type that a JSON value stands for. `components` are the
components of the tuple inside the type, if there is one. -/
def ofJson : AbiType → List Parameter → Json → Except CoercionError AbiValue
  | .address, _, value => (account value).map .address
  | .bool, _, .boolean flag => .ok (.bool flag)
  | .bool, _, _ => .error .boolExpected
  | .uint width, _, value =>
      match unsigned value with
      | .error reason => .error reason
      | .ok number =>
          if fitsUnsigned number width then .ok (.uint number width)
          else .error (.uintWidth number width)
  | .int width, _, value =>
      match signed value with
      | .error reason => .error reason
      | .ok number =>
          if fitsSigned number width then .ok (.int number width)
          else .error (.intWidth number width)
  | .fixedBytes size, _, value =>
      match hexBytes value with
      | .error reason => .error reason
      | .ok content =>
          if content.length = size then
            .ok (.fixedBytes (FixedBytes.ofBytesPadded 32 content) size)
          else .error (.fixedBytesLength size content.length)
  | .bytes, _, value => (hexBytes value).map .bytes
  | .string, _, .string text => .ok (.string text)
  | .string, _, _ => .error .stringExpected
  | .function, _, value =>
      match hexBytes value with
      | .error reason => .error reason
      | .ok content =>
          match FixedBytes.ofBytes? 24 content with
          | some pointer => .ok (.function pointer)
          | none => .error .functionLength
  | .array item, components, .array items =>
      (each (ofJson item components) items).map .array
  | .array _, _, _ => .error .arrayExpected
  | .fixedArray item length, components, .array items =>
      if items.length ≠ length then .error (.arrayLength length items.length)
      else (each (ofJson item components) items).map .fixedArray
  | .fixedArray _ _, _, _ => .error .arrayExpected
  | .tuple types, components, value =>
      match tupleItems value components types.length with
      | .error reason => .error reason
      | .ok items =>
          if items.length ≠ types.length then
            .error (.tupleLength types.length items.length)
          else (ofJsonEach types components items).map .tuple

/-- The items of a tuple; each has the components of its own component. -/
def ofJsonEach :
    List AbiType → List Parameter → List Json → Except CoercionError (List AbiValue)
  | [], _, _ => .ok []
  | _ :: _, _, [] => .ok []
  | type :: types, components, item :: items =>
      let nested := match components with
        | component :: _ => component.components
        | [] => []
      match ofJson type nested item with
      | .error reason => .error reason
      | .ok value =>
          match ofJsonEach types components.tail items with
          | .error reason => .error reason
          | .ok values => .ok (value :: values)
end

end AbiValue

end ContractClient
