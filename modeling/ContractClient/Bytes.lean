import ContractClient.Text.Quoted
import ContractClient.Width

namespace ContractClient

/-! Byte strings, their hexadecimal texts and their big-endian numbers. -/

abbrev Bytes := List UInt8

/-! ## Hexadecimal digits -/

/-- Why a text is not the hexadecimal form of a byte string. Positions count
bytes of the text; a character outside ASCII is shown as its first byte. -/
inductive HexError where
  | oddLength
  | wrongLength
  | invalidCharacter (shown : Char) (position : Nat)
deriving DecidableEq, Repr

def HexError.message : HexError → String
  | .oddLength => "odd number of digits"
  | .wrongLength => "invalid string length"
  | .invalidCharacter shown position =>
      "invalid character " ++ Text.Quoted.character shown ++ " at position " ++ toString position

namespace Hex

def digit (value : Nat) : Char :=
  if value < 10 then Char.ofNat (48 + value) else Char.ofNat (87 + value)

def digitValue? (code : UInt8) : Option Nat :=
  let value := code.toNat
  if 48 ≤ value ∧ value ≤ 57 then some (value - 48)
  else if 97 ≤ value ∧ value ≤ 102 then some (value - 87)
  else if 65 ≤ value ∧ value ≤ 70 then some (value - 55)
  else none

def encode (bytes : Bytes) : List Char :=
  bytes.flatMap fun byte => [digit (byte.toNat / 16), digit (byte.toNat % 16)]

/-- Read pairs of digits. Digits are read from the left, so the first bad
character decides the error; `position` is where the list starts. -/
def decodePairs (position : Nat) : List UInt8 → Except HexError Bytes
  | [] => .ok []
  | [_] => .error .oddLength
  | high :: low :: rest =>
      match digitValue? high, digitValue? low with
      | some first, some second =>
          match decodePairs (position + 2) rest with
          | .ok bytes => .ok (UInt8.ofNat (16 * first + second) :: bytes)
          | .error reason => .error reason
      | none, _ => .error (.invalidCharacter (Char.ofNat high.toNat) position)
      | _, none => .error (.invalidCharacter (Char.ofNat low.toNat) (position + 1))

/-- Read digits without a leading marker. An odd number of them is reported
before any bad character. -/
def decode (text : List UInt8) : Except HexError Bytes :=
  if text.length % 2 = 1 then .error .oddLength else decodePairs 0 text

def dropMarker : List UInt8 → List UInt8
  | 48 :: 120 :: rest => rest
  | 48 :: 88 :: rest => rest
  | text => text

def decodeMarked (text : List UInt8) : Except HexError Bytes :=
  if text.length % 2 = 1 then .error .oddLength else decodePairs 0 (dropMarker text)

example : decode [48, 97, 70, 102] = .ok [10, 255] := rfl
example : decode [48, 120, 122, 102] = .error (.invalidCharacter 'x' 1) := rfl
example : decodeMarked [48, 120, 48, 49] = .ok [1] := rfl

end Hex

/-! ## Texts of byte strings -/

namespace Bytes

def ofText (text : String) : Bytes :=
  text.toUTF8.toList

def toHex (bytes : Bytes) : String :=
  "0x" ++ String.ofList (Hex.encode bytes)

def ofHex? (text : String) : Except HexError Bytes :=
  Hex.decodeMarked (ofText text)

/-! ## Big-endian numbers -/

/-- The number with these base-256 digits, the most significant first. -/
def toNat (bytes : Bytes) : Nat :=
  bytes.foldl (fun total byte => 256 * total + byte.toNat) 0

/-- The last `size` base-256 digits of a number, the most significant first. -/
def ofNat : (size : Nat) → Nat → Bytes
  | 0, _ => []
  | size + 1, number => ofNat size (number / 256) ++ [UInt8.ofNat number]

theorem length_ofNat (size number : Nat) : (ofNat size number).length = size := by
  induction size generalizing number with
  | zero => rfl
  | succ size induction => simp [ofNat, induction]

/-- Zeros up to the next multiple of 32 bytes. -/
def padRight (bytes : Bytes) : Bytes :=
  bytes ++ List.replicate ((32 - bytes.length % 32) % 32) 0

example : toNat [1, 0] = 256 := rfl
example : ofNat 3 258 = [0, 1, 2] := rfl

end Bytes

/-! ## Byte strings of a fixed size -/

structure FixedBytes (size : Nat) where
  bytes : Bytes
  length_bytes : bytes.length = size
deriving DecidableEq

abbrev Word := FixedBytes 32

abbrev Selector := FixedBytes 4

abbrev Address := FixedBytes 20

namespace FixedBytes

def ofBytes? (size : Nat) (bytes : Bytes) : Option (FixedBytes size) :=
  if equal : bytes.length = size then some ⟨bytes, equal⟩ else none

def ofBytesPadded (size : Nat) (bytes : Bytes) : FixedBytes size :=
  ⟨(bytes ++ List.replicate size 0).take size, by simp⟩

def ofNat (size number : Nat) : FixedBytes size :=
  ⟨Bytes.ofNat size number, Bytes.length_ofNat size number⟩

def toNat (fixed : FixedBytes size) : Nat :=
  Bytes.toNat fixed.bytes

def toHex (fixed : FixedBytes size) : String :=
  Bytes.toHex fixed.bytes

/-- Read a text of digits behind an optional `0x` or `0X`. The length is checked
before the digits are. -/
def ofHex (size : Nat) (text : String) : Except HexError (FixedBytes size) :=
  let codes := Bytes.ofText text
  if codes.length % 2 = 1 then .error .oddLength
  else
    let digits := Hex.dropMarker codes
    if digits.length / 2 = size then
      match Hex.decodePairs 0 digits with
      | .error reason => .error reason
      | .ok bytes =>
          match ofBytes? size bytes with
          | some fixed => .ok fixed
          | none => .error .wrongLength
    else .error .wrongLength

end FixedBytes

instance (size : Nat) : Inhabited (FixedBytes size) := ⟨FixedBytes.ofNat size 0⟩

namespace Word

/-- Two's complement: a negative number stands for its remainder modulo 2^256. -/
def ofInt (number : Int) : Word :=
  FixedBytes.ofNat 32 (number % (Width.limit 256 : Int)).toNat

def toInt (word : Word) : Int :=
  let number := word.toNat
  if number < Width.limit 255 then number else (number : Int) - Width.limit 256

def toAddress (word : Word) : Address :=
  ⟨word.bytes.drop 12, by simp [word.length_bytes]⟩

def ofAddress (address : Address) : Word :=
  ⟨List.replicate 12 0 ++ address.bytes, by simp [address.length_bytes]⟩

end Word

end ContractClient
