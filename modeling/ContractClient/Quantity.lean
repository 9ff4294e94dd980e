import ContractClient.Numeral
import ContractClient.Text.Blank

namespace ContractClient

/-! Amounts given by users: values in wei and gas prices. -/

inductive QuantityError where
  | empty
  | hexadecimal (text : String)
  | number (text : String)
deriving DecidableEq, Repr

def QuantityError.message : QuantityError → String
  | .empty => "Value cannot be empty"
  | .hexadecimal text => "Invalid hexadecimal value: '" ++ text ++ "'"
  | .number text =>
      "Invalid numeric value: '" ++ text ++ "'. Use decimal format or '0x' prefixed hex"

/-- The amount of a text: hexadecimal behind `0x` or `0X`, otherwise in the base
that the text announces, or decimal. Blanks around it are ignored. -/
def Quantity.parse (input : String) : Except QuantityError Nat :=
  let text := Text.trim input
  if text.isEmpty then .error .empty
  else
    match stripHexMarker text.toList with
    | some digits =>
        match Numeral.readUnsigned 16 digits with
        | some amount => .ok amount
        | none => .error (.hexadecimal text)
    | none =>
        match Numeral.readAnnounced text.toList with
        | some amount => .ok amount
        | none => .error (.number text)

end ContractClient
