import ContractClient.Numeral
import ContractClient.Text.Blank

namespace ContractClient

/-! Creation bytecode given as a hexadecimal text, with or without a marker. -/

inductive BytecodeError where
  | empty
  | digits (head : String) (reason : HexError)
deriving DecidableEq, Repr

namespace Bytecode

def describeDigits : HexError → String
  | .oddLength => "Odd number of digits"
  | .wrongLength => "Invalid string length"
  | .invalidCharacter shown position =>
      "Invalid character " ++ Text.Quoted.character shown ++ " at position " ++ toString position

def shownCharacters : Nat := 12

/-- The bytes of a text of digits; blanks around it are ignored. -/
def ofText (input : String) : Except BytecodeError Bytes :=
  let text := (Text.trim input).toList
  let digits := match stripHexMarker text with
    | some digits => digits
    | none => text
  if digits.isEmpty then .error .empty
  else
    match Hex.decode (Bytes.ofText (String.ofList digits)) with
    | .ok bytes => .ok bytes
    | .error reason =>
        .error (.digits (String.ofList (text.take shownCharacters)) reason)

end Bytecode

def BytecodeError.message : BytecodeError → String
  | .empty => "Bytecode cannot be empty"
  | .digits head reason =>
      "Invalid bytecode '" ++ head ++ "...': " ++ Bytecode.describeDigits reason

end ContractClient
