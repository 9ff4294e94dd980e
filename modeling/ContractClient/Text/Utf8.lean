import ContractClient.Bytes

namespace ContractClient.Text

/-! ## Reading UTF-8

Bytes are read as UTF-8 in two ways. Strictly, a byte string that is not UTF-8
has no text. Leniently, each longest run of bytes that starts no character, or
starts one and breaks off, becomes one replacement character. -/

/-- A character of which only the first bytes have been read: the code so far,
how many bytes are missing, and the range of the next one. -/
structure Unfinished where
  code : Nat
  missing : Nat
  low : Nat
  high : Nat

def replacement : Char := Char.ofNat 0xFFFD

/-- What one more byte gives: characters that are complete now, and one that is
unfinished. -/
structure Progress where
  complete : List Char
  pending : Option Unfinished

/-- The first byte of a character. The range of the byte behind it keeps out
overlong forms, surrogates and codes past the last character. -/
def firstByte (byte : UInt8) : Progress :=
  let value := byte.toNat
  let unfinished (code missing low high : Nat) : Progress := ⟨[], some ⟨code, missing, low, high⟩⟩
  if value < 0x80 then ⟨[Char.ofNat value], none⟩
  else if value < 0xC2 then ⟨[replacement], none⟩
  else if value < 0xE0 then unfinished (value - 0xC0) 1 0x80 0xBF
  else if value = 0xE0 then unfinished 0 2 0xA0 0xBF
  else if value = 0xED then unfinished 13 2 0x80 0x9F
  else if value < 0xF0 then unfinished (value - 0xE0) 2 0x80 0xBF
  else if value = 0xF0 then unfinished 0 3 0x90 0xBF
  else if value < 0xF4 then unfinished (value - 0xF0) 3 0x80 0xBF
  else if value = 0xF4 then unfinished 4 3 0x80 0x8F
  else ⟨[replacement], none⟩

/-- A byte behind an unfinished character. One that does not go on with it breaks
it off and is a first byte itself. -/
def nextByte (unfinished : Unfinished) (byte : UInt8) : Progress :=
  if unfinished.low ≤ byte.toNat ∧ byte.toNat ≤ unfinished.high then
    let code := unfinished.code * 64 + (byte.toNat - 0x80)
    if unfinished.missing ≤ 1 then ⟨[Char.ofNat code], none⟩
    else ⟨[], some ⟨code, unfinished.missing - 1, 0x80, 0xBF⟩⟩
  else
    let broken := firstByte byte
    ⟨replacement :: broken.complete, broken.pending⟩

/-- Read bytes leniently behind an unfinished character, if there is one. -/
def decodeLossyFrom : Option Unfinished → Bytes → List Char
  | none, [] => []
  | some _, [] => [replacement]
  | pending, byte :: rest =>
      let progress := match pending with
        | none => firstByte byte
        | some unfinished => nextByte unfinished byte
      progress.complete ++ decodeLossyFrom progress.pending rest

/-- The text of a byte string, with replacement characters where it is not
UTF-8. -/
def decodeLossy (bytes : Bytes) : String :=
  String.ofList (decodeLossyFrom none bytes)

def decodeStrict (bytes : Bytes) : Option String :=
  String.fromUTF8? ⟨bytes.toArray⟩

end ContractClient.Text
