import ContractClient.Decimal.Shortest

namespace ContractClient

/-! Numbers of JSON texts. An integer that fits 64 bits stays an integer; every
other number, and a negative zero, is a 64-bit binary floating-point number. -/

/-- A JSON number. A negative integer is kept by its magnitude, a binary number
by its bit pattern. -/
inductive Number where
  | natural (value : Nat)
  | negative (magnitude : Nat)
  | binary (bits : UInt64)
deriving DecidableEq, Repr

namespace Number

def toNat? : Number → Option Nat
  | .natural value => some value
  | _ => none

def toInt? : Number → Option Int
  | .natural value => some (value : Int)
  | .negative magnitude => some (-(magnitude : Int))
  | .binary _ => none

def ofInt (value : Int) : Number :=
  if 0 ≤ value then .natural value.toNat else .negative value.natAbs

def toText : Number → String
  | .natural value => toString value
  | .negative magnitude => "-" ++ toString magnitude
  | .binary bits => Decimal.textOfBits bits.toNat

/-! ## Reading

The digits of a number are gathered into a 64-bit significand. Once a digit no
longer fits, the digits before the point only raise the power of ten and the
digits behind it are dropped. The significand is then scaled by one
multiplication or division. -/

def powerOfTen (exponent : Nat) : Float :=
  Float.ofScientific 1 false exponent

/-- Scale a significand by a power of ten. Numbers beyond the largest finite
one have no value; small ones fade to zero. `fuel` bounds the divisions by
`10 ^ 308` that bring a far exponent into range. -/
def scale : (fuel : Nat) → (value : Float) → (exponent : Int) → Option Float
  | 0, _, _ => some 0
  | fuel + 1, value, exponent =>
      if exponent.natAbs ≤ 308 then
        if 0 ≤ exponent then
          let scaled := value * powerOfTen exponent.toNat
          if scaled.isInf then none else some scaled
        else some (value / powerOfTen exponent.natAbs)
      else if value == 0 then some value
      else if 0 ≤ exponent then none
      else scale fuel (value / powerOfTen 308) (exponent + 308)

def ofScaled (negative : Bool) (significand : Nat) (exponent : Int) : Option Number :=
  (scale 400 (UInt64.ofNat significand).toFloat exponent).map fun value =>
    .binary (if negative then -value else value).toBits

/-- A significand in the making: its value and the power of ten it is to be
multiplied by. -/
structure Gathered where
  significand : Nat
  exponent : Int

/-- Take the digits before the point; `full` says that one did not fit. -/
def gatherWhole : (full : Bool) → Gathered → List Char → Bool × Gathered × List Char
  | full, gathered, character :: rest =>
      if character.isDigit then
        let extended := gathered.significand * 10 + (character.toNat - 48)
        if !full && extended < Width.limit 64 then
          gatherWhole false { gathered with significand := extended } rest
        else gatherWhole true { gathered with exponent := gathered.exponent + 1 } rest
      else (full, gathered, character :: rest)
  | full, gathered, [] => (full, gathered, [])

/-- Take the digits behind the point; after one that does not fit, all others
are dropped. -/
def gatherFraction : (full : Bool) → Gathered → List Char → Gathered × List Char
  | full, gathered, character :: rest =>
      if character.isDigit then
        let extended := gathered.significand * 10 + (character.toNat - 48)
        if !full && extended < Width.limit 64 then
          gatherFraction false ⟨extended, gathered.exponent - 1⟩ rest
        else gatherFraction true gathered rest
      else (gathered, character :: rest)
  | _, gathered, [] => (gathered, [])

def takeDigits (text : List Char) : List Char × List Char :=
  (text.takeWhile Char.isDigit, text.dropWhile Char.isDigit)

def decimalValue (digits : List Char) : Nat :=
  digits.foldl (fun total character => total * 10 + (character.toNat - 48)) 0

/-- Read the exponent behind its letter and scale. An exponent of more than 31
bits leaves zero, or has no value if it is positive and the significand is not
zero. -/
def readExponent (negative : Bool) (gathered : Gathered) (text : List Char) :
    Option (Number × List Char) :=
  let (minus, unsigned) := match text with
    | '+' :: rest => (false, rest)
    | '-' :: rest => (true, rest)
    | rest => (false, rest)
  let (digits, rest) := takeDigits unsigned
  if digits.isEmpty then none
  else
    let exponent : Nat := decimalValue digits
    if Width.limit 31 ≤ exponent then
      if gathered.significand ≠ 0 ∧ !minus then none
      else (ofScaled negative 0 0).map fun number => (number, rest)
    else
      let total := if minus then gathered.exponent - exponent else gathered.exponent + exponent
      (ofScaled negative gathered.significand total).map fun number => (number, rest)

def readTail (negative full : Bool) (gathered : Gathered) (text : List Char) :
    Option (Number × List Char) :=
  match text with
  | '.' :: rest =>
      match rest with
      | first :: _ =>
          if first.isDigit then
            match gatherFraction false gathered rest with
            | (fraction, 'e' :: tail) | (fraction, 'E' :: tail) =>
                readExponent negative fraction tail
            | (fraction, tail) =>
                (ofScaled negative fraction.significand fraction.exponent).map
                  fun number => (number, tail)
          else none
      | [] => none
  | 'e' :: rest | 'E' :: rest => readExponent negative gathered rest
  | rest =>
      if full then
        (ofScaled negative gathered.significand gathered.exponent).map
          fun number => (number, rest)
      else if !negative then some (.natural gathered.significand, rest)
      else if gathered.significand = 0 ∨ Width.limit 63 < gathered.significand then
        some (.binary (-(UInt64.ofNat gathered.significand).toFloat).toBits, rest)
      else some (.negative gathered.significand, rest)

/-- Read a number at the start of a text. A zero before the point stands alone. -/
def read (text : List Char) : Option (Number × List Char) :=
  let (minus, unsigned) := match text with
    | '-' :: rest => (true, rest)
    | rest => (false, rest)
  match unsigned with
  | '0' :: next :: rest =>
      if next.isDigit then none else readTail minus false ⟨0, 0⟩ (next :: rest)
  | ['0'] => readTail minus false ⟨0, 0⟩ []
  | first :: rest =>
      if first.isDigit then
        let (full, gathered, tail) := gatherWhole false ⟨0, 0⟩ (first :: rest)
        readTail minus full gathered tail
      else none
  | [] => none

end Number

end ContractClient
