import ContractClient.Width

namespace ContractClient

/-! ## Shortest decimals

A binary floating-point number is printed with the fewest decimal digits that
still lie nearer to it than to any other such number. The digits are found in
exact natural-number arithmetic on the number's mantissa and exponent. -/

/-- Digits and a power of ten: the number `digits * 10 ^ exponent`. -/
structure Decimal where
  digits : Nat
  exponent : Int
deriving DecidableEq, Repr

namespace Decimal

/-- A finite positive binary number with its rounding interval, all three as
numerators over one denominator. The ends belong to the interval exactly when
the mantissa is even. -/
structure Interval where
  low : Nat
  value : Nat
  high : Nat
  denominator : Nat
  closed : Bool

def Interval.ofBits (bits : Nat) : Interval :=
  let exponent := bits / Width.limit 52 % Width.limit 11
  let fraction := bits % Width.limit 52
  let mantissa := if exponent = 0 then fraction else fraction + Width.limit 52
  let power : Int := ((if exponent = 0 then 1 else exponent : Nat) : Int) - 1077
  let below := if fraction = 0 ∧ 1 < exponent then 1 else 2
  let scale := if 0 ≤ power then Nat.pow 2 power.toNat else 1
  { low := (4 * mantissa - below) * scale
    value := 4 * mantissa * scale
    high := (4 * mantissa + 2) * scale
    denominator := if 0 ≤ power then 1 else Nat.pow 2 (-power).toNat
    closed := mantissa % 2 = 0 }

def leadingPower (value denominator : Nat) : Int :=
  if denominator ≤ value then ((Nat.toDigits 10 (value / denominator)).length : Int) - 1
  else
    let shift := (List.range 400).find? fun shift => denominator ≤ value * Nat.pow 10 (shift + 1)
    match shift with
    | some shift => -((shift : Int) + 1)
    | none => 0

/-- The neighbour of the value on the grid of multiples of `10 ^ exponent` that
lies inside the interval, the nearer one if both do. -/
def Interval.onGrid (interval : Interval) (exponent : Int) : Option Nat :=
  let grow := if exponent < 0 then Nat.pow 10 (-exponent).toNat else 1
  let unit := if exponent < 0 then interval.denominator
    else interval.denominator * Nat.pow 10 exponent.toNat
  let value := interval.value * grow
  let below := value / unit
  let inside (digits : Nat) : Bool :=
    let point := digits * unit
    if interval.closed then interval.low * grow ≤ point && point ≤ interval.high * grow
    else interval.low * grow < point && point < interval.high * grow
  let lower := if inside below && 0 < below then some below else none
  let upper := if inside (below + 1) then some (below + 1) else none
  match lower, upper with
  | some low, some high =>
      let toLow := value - low * unit
      let toHigh := high * unit - value
      if toLow < toHigh then some low
      else if toHigh < toLow then some high
      else if low % 2 = 0 then some low else some high
  | some low, none => some low
  | none, some high => some high
  | none, none => none

def dropZeros : (fuel : Nat) → Decimal → Decimal
  | 0, decimal => decimal
  | fuel + 1, decimal =>
      if decimal.digits % 10 = 0 ∧ decimal.digits ≠ 0 then
        dropZeros fuel ⟨decimal.digits / 10, decimal.exponent + 1⟩
      else decimal

/-- The shortest decimal of the positive number with the given bit pattern: the
coarsest grid of one to seventeen digits that has a point in the interval. -/
def shortest (bits : Nat) : Decimal :=
  let interval := Interval.ofBits bits
  let leading := leadingPower interval.value interval.denominator
  let found := (List.range 17).findSome? fun (more : Nat) =>
    let exponent := leading - (more : Int)
    (interval.onGrid exponent).map fun digits => (⟨digits, exponent⟩ : Decimal)
  match found with
  | some decimal => decimal.dropZeros 20
  | none => ⟨0, 0⟩

example : shortest 0x3FF8000000000000 = ⟨15, -1⟩ := by decide +kernel

/-! ## Texts -/

/-- How numbers are written: positionally while the decimal point falls from
four places before the first digit to sixteen places behind it, otherwise with
one digit before the point and a signed exponent. A whole number keeps one zero
behind its point. -/
def toText (decimal : Decimal) : String :=
  let digits := Nat.toDigits 10 decimal.digits
  let point := (digits.length : Int) + decimal.exponent
  if 0 ≤ decimal.exponent ∧ point ≤ 16 then
    String.ofList (digits ++ List.replicate decimal.exponent.toNat '0' ++ ['.', '0'])
  else if 0 < point ∧ point ≤ 16 then
    String.ofList (digits.take point.toNat ++ ['.'] ++ digits.drop point.toNat)
  else if -5 < point ∧ point ≤ 0 then
    String.ofList (['0', '.'] ++ List.replicate (-point).toNat '0' ++ digits)
  else
    let fraction := if digits.length = 1 then [] else '.' :: digits.drop 1
    let exponent := point - 1
    let sign := if exponent < 0 then '-' else '+'
    String.ofList (digits.take 1 ++ fraction ++ ['e', sign] ++
      Nat.toDigits 10 exponent.natAbs)

/-- The text of a finite number with the given bit pattern; a zero keeps its
sign. -/
def textOfBits (bits : Nat) : String :=
  let positive := bits % Width.limit 63
  let sign := if Width.limit 63 ≤ bits then "-" else ""
  if positive = 0 then sign ++ "0.0" else sign ++ (shortest positive).toText

end Decimal

end ContractClient
