import ContractClient.Json.Reader
import ContractClient.Numeral
import ContractClient.Text.Search
import ContractClient.Toml.Basic

namespace ContractClient.Toml

/-! Values of one piece: strings, numbers, truth values, dates and times. -/

def isPrintable (character : Char) : Bool :=
  character = '\t' || (0x20 ≤ character.toNat && character.toNat ≠ 0x7F)

def isBlank (character : Char) : Bool :=
  character = ' ' || character = '\t'

/-! ## Strings -/

def readHex? (digits : List Char) : Option Nat :=
  digits.foldlM (fun total digit => (Json.hexValue? digit).map (16 * total + ·)) 0

def characterOf? (code : Nat) : Option Char :=
  if code < 0xD800 ∨ (0xE000 ≤ code ∧ code < 0x110000) then some (Char.ofNat code) else none

/-- The character behind a backslash, and how many characters name it. -/
def readEscape? : List Char → Option (Char × Nat)
  | 'b' :: _ => some (Char.ofNat 8, 1)
  | 't' :: _ => some ('\t', 1)
  | 'n' :: _ => some ('\n', 1)
  | 'f' :: _ => some (Char.ofNat 12, 1)
  | 'r' :: _ => some ('\r', 1)
  | '"' :: _ => some ('"', 1)
  | '\\' :: _ => some ('\\', 1)
  | 'u' :: rest =>
      if rest.length < 4 then none
      else ((readHex? (rest.take 4)).bind characterOf?).map fun character => (character, 5)
  | 'U' :: rest =>
      if rest.length < 8 then none
      else ((readHex? (rest.take 8)).bind characterOf?).map fun character => (character, 9)
  | _ => none

/-- Read a string on one line up to its closing mark. Backslashes name characters
if `escapes` says so; `skip` counts characters that are read already. -/
def readLine (mark : Char) (escapes : Bool) : (skip : Nat) → Json.Take (List Char)
  | _, [] => none
  | skip + 1, _ :: rest => readLine mark escapes skip rest
  | 0, character :: rest =>
      if character = mark then some ([], rest)
      else if escapes ∧ character = '\\' then
        match readEscape? rest with
        | none => none
        | some (named, length) =>
            (readLine mark escapes length rest).map fun (read, left) => (named :: read, left)
      else if isPrintable character then
        (readLine mark escapes 0 rest).map fun (read, left) => (character :: read, left)
      else none

def startsWithBreak : List Char → Bool
  | '\n' :: _ | '\r' :: '\n' :: _ => true
  | _ => false

def isBlankLine (text : List Char) : Bool :=
  startsWithBreak (text.dropWhile isBlank)

structure LinesState where
  /-- Characters that are read already. -/
  skip : Nat
  /-- How many marks stand directly before. -/
  run : Nat
  /-- A backslash at the end of a line takes in all blanks and breaks behind it. -/
  folding : Bool

def LinesState.start : LinesState := ⟨0, 0, false⟩

/-- Read a string of several lines. Three marks close it, and one or two more
directly before them belong to it. -/
def readLines (mark : Char) (escapes : Bool) : LinesState → Json.Take (List Char)
  | state, [] =>
      if 3 ≤ state.run then some (List.replicate (state.run - 3) mark, []) else none
  | state, character :: rest =>
      let held := List.replicate state.run mark
      let next (state : LinesState) (added : List Char) : Option (List Char × List Char) :=
        (readLines mark escapes state rest).map fun (read, left) => (added ++ read, left)
      if 0 < state.skip then next { state with skip := state.skip - 1 } []
      else if character = mark then
        if state.run = 4 then some ([mark, mark], rest)
        else next ⟨0, state.run + 1, false⟩ []
      else if 3 ≤ state.run then some (List.replicate (state.run - 3) mark, character :: rest)
      else if character = '\n' then
        if state.folding then next state [] else next .start (held ++ ['\n'])
      else if character = '\r' then
        if !startsWithBreak (character :: rest) then none
        else if state.folding then next ⟨1, 0, true⟩ []
        else next ⟨1, 0, false⟩ (held ++ ['\n'])
      else if state.folding ∧ isBlank character then next state []
      else if escapes ∧ character = '\\' then
        if isBlankLine rest then next ⟨0, 0, true⟩ held
        else
          match readEscape? rest with
          | none => none
          | some (named, length) => next ⟨length, 0, false⟩ (held ++ [named])
      else if isPrintable character then next .start (held ++ [character])
      else none

/-- A line break directly behind the opening marks does not count. -/
def dropFirstBreak : List Char → List Char
  | '\n' :: rest | '\r' :: '\n' :: rest => rest
  | text => text

def readText (text : List Char) : Option (String × List Char) :=
  let apostrophe := Text.Quoted.apostrophe
  let read :=
    match text with
    | '"' :: '"' :: '"' :: rest => readLines '"' true .start (dropFirstBreak rest)
    | '"' :: rest => readLine '"' true 0 rest
    | _ =>
        if (List.replicate 3 apostrophe).isPrefixOf text then
          readLines apostrophe false .start (dropFirstBreak (text.drop 3))
        else readLine apostrophe false 0 (text.drop 1)
  read.map fun (characters, left) => (String.ofList characters, left)

/-! ## Numbers -/

/-- Digits with single underscores between them; the underscores are dropped. -/
def readDigits? (isDigit : Char → Bool) (text : List Char) : Option (List Char) :=
  let pieces := Text.splitOn '_' text
  if pieces.all fun piece => !piece.isEmpty && piece.all isDigit then some pieces.flatten else none

/-- Decimal digits without a needless zero before them. -/
def readWhole? (text : List Char) : Option (List Char) :=
  match readDigits? Char.isDigit text with
  | some ('0' :: _ :: _) => none
  | digits => digits

def inRange? (number : Int) : Option Toml :=
  if -(Width.limit 63 : Int) ≤ number ∧ number < Width.limit 63 then some (.integer number) else none

def readMarked? (base : Nat) (digits : List Char) : Option Toml := do
  let isDigit (character : Char) : Bool :=
    match Json.hexValue? character with
    | some value => value < base
    | none => false
  let digits ← readDigits? isDigit digits
  let number ← Numeral.readStrict base (Width.limit 64) digits
  inRange? number

def readInteger? (token : List Char) : Option Toml :=
  match token with
  | '0' :: 'x' :: digits => readMarked? 16 digits
  | '0' :: 'o' :: digits => readMarked? 8 digits
  | '0' :: 'b' :: digits => readMarked? 2 digits
  | _ => do
      let (negative, unsigned) := Numeral.splitSign token
      let digits ← readWhole? unsigned
      let number := Number.decimalValue digits
      inRange? (if negative then -(number : Int) else number)

def splitAt? (isMark : Char → Bool) (text : List Char) : List Char × Option (List Char) :=
  match text.dropWhile fun character => !isMark character with
  | _ :: behind => (text.takeWhile fun character => !isMark character, some behind)
  | [] => (text, none)

def readFloat? (token : List Char) : Option Toml := do
  let (negative, unsigned) := Numeral.splitSign token
  if unsigned = ['i', 'n', 'f'] then
    some (.float (.binary (if negative then 0xFFF0000000000000 else 0x7FF0000000000000)))
  else if unsigned = ['n', 'a', 'n'] then some (.float (.binary 0x7FF8000000000000))
  else
    let (mantissa, exponent) :=
      splitAt? (fun character => character = 'e' || character = 'E') unsigned
    let (whole, fraction) := splitAt? (fun character => character = '.') mantissa
    if exponent.isNone ∧ fraction.isNone then none
    let whole ← readWhole? whole
    let fraction ← match fraction with
      | none => some []
      | some digits => (readDigits? Char.isDigit digits).map fun digits => '.' :: digits
    let exponent ← match exponent with
      | none => some []
      | some power =>
          let (minus, digits) := Numeral.splitSign power
          (readDigits? Char.isDigit digits).map fun digits =>
            'e' :: (if minus then ['-'] else []) ++ digits
    let (number, _) ← Number.read
      ((if negative then ['-'] else []) ++ whole ++ fraction ++ exponent)
    some (.float number)

/-! ## Dates and times -/

def decimal? (digits : List Char) : Option Nat :=
  if !digits.isEmpty && digits.all Char.isDigit then some (Number.decimalValue digits) else none

def daysOfMonth (year month : Nat) : Nat :=
  if month = 2 then
    if year % 4 = 0 ∧ (year % 100 ≠ 0 ∨ year % 400 = 0) then 29 else 28
  else if month = 4 ∨ month = 6 ∨ month = 9 ∨ month = 11 then 30
  else 31

def isDate (token : List Char) : Bool :=
  match token with
  | [y1, y2, y3, y4, '-', m1, m2, '-', d1, d2] =>
      match decimal? [y1, y2, y3, y4], decimal? [m1, m2], decimal? [d1, d2] with
      | some year, some month, some day =>
          1 ≤ month && month ≤ 12 && 1 ≤ day && day ≤ daysOfMonth year month
      | _, _, _ => false
  | _ => false

def isTime (token : List Char) : Bool :=
  match token with
  | h1 :: h2 :: ':' :: m1 :: m2 :: ':' :: s1 :: s2 :: rest =>
      (match decimal? [h1, h2], decimal? [m1, m2], decimal? [s1, s2] with
        | some hour, some minute, some second => hour ≤ 23 && minute ≤ 59 && second ≤ 60
        | _, _, _ => false) &&
      match rest with
      | [] => true
      | '.' :: fraction => (decimal? fraction).isSome
      | _ => false
  | _ => false

/-- The distance of a time zone: `Z`, or a sign, hours and minutes. -/
def isOffset (token : List Char) : Bool :=
  match token with
  | ['Z'] | ['z'] => true
  | [sign, h1, h2, ':', m1, m2] =>
      (sign = '+' || sign = '-') &&
        match decimal? [h1, h2], decimal? [m1, m2] with
        | some hour, some minute => hour ≤ 23 && minute ≤ 59
        | _, _ => false
  | _ => false

def isZonedTime (token : List Char) : Bool :=
  let (time, offset) := token.span fun character =>
    character.isDigit || character = ':' || character = '.'
  isTime time && (offset.isEmpty || isOffset offset)

def isMoment (token : List Char) : Bool :=
  isDate token || isTime token ||
    (isDate (token.take 10) &&
      match token.drop 10 with
      | separator :: time =>
          (separator = 'T' || separator = 't' || separator = ' ') && isZonedTime time
      | [] => false)

/-! ## Tokens -/

def inToken (character : Char) : Bool :=
  character.isAlphanum || character = '_' || character = '+' || character = '-' ||
    character = '.' || character = ':'

/-- Take a token off a text. A blank between a date and a time belongs to it. -/
def takeToken (text : List Char) : List Char × List Char :=
  let (token, rest) := text.span inToken
  match rest with
  | ' ' :: behind =>
      let (time, left) := behind.span inToken
      if isDate token && isZonedTime time then (token ++ ' ' :: time, left) else (token, rest)
  | _ => (token, rest)

def ofToken? (token : List Char) : Option Toml :=
  if token = ['t', 'r', 'u', 'e'] then some (.boolean true)
  else if token = ['f', 'a', 'l', 's', 'e'] then some (.boolean false)
  else if isMoment token then some (.moment (String.ofList token))
  else (readInteger? token).or (readFloat? token)

end ContractClient.Toml
