import ContractClient.Address
import ContractClient.Text.Blank

namespace ContractClient

/-! Addresses given by users. Blanks around an address are ignored, the marker
and the length are checked before the digits are, and the case of the digits is
not compared with the checksum. -/

inductive AddressError where
  | empty
  | unmarked (text : String)
  | length (text : String)
  | digits (text : String)
  | unreadable (text : String) (reason : HexError)
deriving DecidableEq, Repr

def AddressError.message : AddressError → String
  | .empty => "Address cannot be empty"
  | .unmarked text =>
      "Invalid address format: '" ++ text ++ "'. Addresses must start with '0x'"
  | .length text =>
      "Invalid address length: '" ++ text ++
        "'. Addresses must be exactly 42 characters (0x + 40 hex characters)"
  | .digits text =>
      "Invalid address format: '" ++ text ++ "'. Contains non-hexadecimal characters"
  | .unreadable text reason =>
      "Invalid address: '" ++ text ++ "'. Error: " ++ reason.message

namespace Address

def isHexDigit (character : Char) : Bool :=
  match Numeral.digitValue? character with
  | some value => value < 16
  | none => false

def validate (input : String) : Except AddressError Address :=
  let text := Text.trim input
  if text.isEmpty then .error .empty
  else
    match stripHexMarker text.toList with
    | none => .error (.unmarked text)
    | some digits =>
        if (Bytes.ofText (String.ofList digits)).length ≠ 40 then .error (.length text)
        else if !digits.all isHexDigit then .error (.digits text)
        else
          match FixedBytes.ofHex 20 text with
          | .ok address => .ok address
          | .error reason => .error (.unreadable text reason)

end Address

end ContractClient
