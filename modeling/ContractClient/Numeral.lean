import ContractClient.Bytes

namespace ContractClient

/-! Texts of numbers. A 256-bit number is read leniently: an underscore is
skipped wherever it stands, digits above nine are letters of either case, and a
text without any digit is zero. Numbers that do not fit 256 bits are refused. -/

/-- The marker that announces hexadecimal digits, `0x` or `0X`, and the text
behind it. -/
def stripHexMarker (text : List Char) : Option (List Char) :=
  match text with
  | '0' :: 'x' :: rest => some rest
  | '0' :: 'X' :: rest => some rest
  | _ => none

namespace Numeral

def digitValue? (character : Char) : Option Nat :=
  let code := character.toNat
  if 48 ≤ code ∧ code ≤ 57 then some (code - 48)
  else if 97 ≤ code ∧ code ≤ 122 then some (code - 87)
  else if 65 ≤ code ∧ code ≤ 90 then some (code - 55)
  else none

/-- Read digits of a base onto the number read so far. Underscores are skipped. -/
def readDigits (base : Nat) (total : Nat) : List Char → Option Nat
  | [] => some total
  | character :: rest =>
      if character = '_' then readDigits base total rest
      else
        match digitValue? character with
        | some value =>
            if value < base then readDigits base (base * total + value) rest else none
        | none => none

def readUnsigned (base : Nat) (text : List Char) : Option Nat :=
  match readDigits base 0 text with
  | some number => if number < Width.limit 256 then some number else none
  | none => none

/-- An unsigned 256-bit number whose base is announced by `0x`, `0o` or `0b`,
the letter in either case; without such an announcement it is decimal. -/
def readAnnounced (text : List Char) : Option Nat :=
  match text with
  | '0' :: 'x' :: rest | '0' :: 'X' :: rest => readUnsigned 16 rest
  | '0' :: 'o' :: rest | '0' :: 'O' :: rest => readUnsigned 8 rest
  | '0' :: 'b' :: rest | '0' :: 'B' :: rest => readUnsigned 2 rest
  | _ => readUnsigned 10 text

example : readUnsigned 10 ['1', '_', '0'] = some 10 := by decide
example : readUnsigned 16 [] = some 0 := by decide
example : readAnnounced ['0', 'b', '1', '1'] = some 3 := by decide

/-- Split one leading sign off a text; `true` stands for a minus. -/
def splitSign : List Char → Bool × List Char
  | '+' :: rest => (false, rest)
  | '-' :: rest => (true, rest)
  | text => (false, text)

/-- The signed number of a sign and a magnitude, if 256 bits of two's
complement hold it. -/
def applySign (negative : Bool) (magnitude : Nat) : Option Int :=
  if negative then
    if magnitude ≤ Width.limit 255 then some (-(magnitude : Int)) else none
  else
    if magnitude < Width.limit 255 then some (magnitude : Int) else none

/-- A signed 256-bit number in decimal digits, with at most one sign. -/
def readSignedDecimal (text : List Char) : Option Int :=
  let (negative, digits) := splitSign text
  (readUnsigned 10 digits).bind (applySign negative)

/-- A signed 256-bit number in hexadecimal digits. Behind the sign a lower-case
`0x` is dropped, and no more than 64 bytes may follow it. -/
def readSignedHex (text : List Char) : Option Int :=
  let (negative, marked) := splitSign text
  let digits :=
    match marked with
    | '0' :: 'x' :: rest => rest
    | rest => rest
  if (Bytes.ofText (String.ofList digits)).length ≤ 64 then
    (readUnsigned 16 digits).bind (applySign negative)
  else none

/-- A number below `bound` in a given base, with at most one leading plus and
at least one digit. Nothing is skipped. -/
def readStrict (base bound : Nat) (text : List Char) : Option Nat :=
  let digits :=
    match text with
    | '+' :: rest => rest
    | rest => rest
  if digits.isEmpty then none
  else
    let step : Option Nat → Char → Option Nat := fun total character =>
      match total, digitValue? character with
      | some number, some value =>
          if value < base then some (base * number + value) else none
      | _, _ => none
    match digits.foldl step (some 0) with
    | some number => if number < bound then some number else none
    | none => none

def read64 (base : Nat) (text : List Char) : Option Nat :=
  readStrict base (Width.limit 64) text

example : read64 10 ['+', '7'] = some 7 := by decide
example : read64 10 [] = none := by decide

def toHexDigits (number : Nat) : String :=
  String.ofList (Nat.toDigits 16 number)

def toQuantity (number : Nat) : String :=
  "0x" ++ toHexDigits number

end Numeral

end ContractClient
