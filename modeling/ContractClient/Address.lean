import ContractClient.Keccak
import ContractClient.Numeral

namespace ContractClient.Address

/-! An address is printed with a checksum in the case of its letters: a letter
is upper-case where the hash of the lower-case digits has a digit of eight or
more at the same place. -/

def upperDigit (character : Char) : Char :=
  if 97 ≤ character.toNat ∧ character.toNat ≤ 102 then Char.ofNat (character.toNat - 32)
  else character

/-- Upper-case the letters that stand at hash digits of eight or more. -/
def markLetters (digits hashDigits : List Char) : List Char :=
  List.zipWith
    (fun character mark =>
      match Numeral.digitValue? mark with
      | some value => if 8 ≤ value then upperDigit character else character
      | none => character)
    digits hashDigits

def toChecksum (address : Address) : String :=
  let digits := Hex.encode address.bytes
  let hash := keccak256 (Bytes.ofText (String.ofList digits))
  "0x" ++ String.ofList (markLetters digits (Hex.encode hash.bytes))

end ContractClient.Address
