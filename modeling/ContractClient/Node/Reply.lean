import ContractClient.Json.Basic
import ContractClient.Numeral

namespace ContractClient.Json

/-! Values in the replies of nodes. A reply that cannot be read as the value that
is awaited counts as no reply at all, so these readers give no reasons. -/

/-- A number below `bound`: a number, or a text in any announced base. -/
def asQuantity? (bound : Nat) (reply : Json) : Option Nat :=
  let number := match reply with
    | .number value => value.toNat?
    | .string text => Numeral.readAnnounced text.toList
    | _ => none
  number.bind fun found => if found < bound then some found else none

/-- A quantity of 64 bits: a block number, a position, an amount of gas. -/
def asQuantity64? (reply : Json) : Option Nat :=
  asQuantity? (Width.limit 64) reply

def asByte? (value : Json) : Option UInt8 :=
  value.asNat?.bind fun number => if number < 256 then some (UInt8.ofNat number) else none

/-- A byte string: hexadecimal digits, or an array of bytes. -/
def asBytes? : Json → Option Bytes
  | .string text => (Bytes.ofHex? text).toOption
  | .array items => items.mapM asByte?
  | _ => none

def asFixedBytes? (size : Nat) : Json → Option (FixedBytes size)
  | .string text => (FixedBytes.ofHex size text).toOption
  | .array items => (items.mapM asByte?).bind (FixedBytes.ofBytes? size)
  | _ => none

end ContractClient.Json
