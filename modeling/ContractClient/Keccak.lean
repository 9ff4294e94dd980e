import ContractClient.Bytes

namespace ContractClient.Keccak

/-! Keccak-256, the hash of selectors, event topics, topic values and address
checksums. The state is a list of twenty-five 64-bit lanes, the lane at column
`x` and row `y` standing at position `x + 5 y`. -/

abbrev Lanes := List UInt64

def lane (lanes : Lanes) (position : Nat) : UInt64 :=
  lanes.getD position 0

def rotateLeft (word : UInt64) (distance : Nat) : UInt64 :=
  if distance % 64 = 0 then word
  else
    (word <<< UInt64.ofNat (distance % 64)) |||
      (word >>> UInt64.ofNat (64 - distance % 64))

def rotations : List Nat :=
  [0, 1, 62, 28, 27, 36, 44, 6, 55, 20, 3, 10, 43, 25, 39, 41, 45, 15, 21, 8, 18, 2, 61, 56, 14]

def roundConstants : List UInt64 :=
  [0x0000000000000001, 0x0000000000008082, 0x800000000000808A, 0x8000000080008000,
   0x000000000000808B, 0x0000000080000001, 0x8000000080008081, 0x8000000000008009,
   0x000000000000008A, 0x0000000000000088, 0x0000000080008009, 0x000000008000000A,
   0x000000008000808B, 0x800000000000008B, 0x8000000000008089, 0x8000000000008003,
   0x8000000000008002, 0x8000000000000080, 0x000000000000800A, 0x800000008000000A,
   0x8000000080008081, 0x8000000000008080, 0x0000000080000001, 0x8000000080008008]

/-- Add to every lane the parities of the two neighbouring columns. -/
def mixColumns (lanes : Lanes) : Lanes :=
  let parities := (List.range 5).map fun column =>
    lane lanes column ^^^ lane lanes (column + 5) ^^^ lane lanes (column + 10) ^^^
      lane lanes (column + 15) ^^^ lane lanes (column + 20)
  let effects := (List.range 5).map fun column =>
    lane parities ((column + 4) % 5) ^^^ rotateLeft (lane parities ((column + 1) % 5)) 1
  lanes.zipIdx.map fun (word, position) => word ^^^ lane effects (position % 5)

/-- Rotate every lane by its own distance, then move the lane that stood at
column `x + 3 y` and row `x` to column `x` and row `y`. -/
def moveLanes (lanes : Lanes) : Lanes :=
  let rotated := List.zipWith rotateLeft lanes rotations
  (List.range 25).map fun position =>
    let column := position % 5
    let row := position / 5
    lane rotated ((column + 3 * row) % 5 + 5 * column)

/-- Combine every lane with the next two of its row. -/
def mixRows (lanes : Lanes) : Lanes :=
  lanes.zipIdx.map fun (word, position) =>
    let column := position % 5
    let row := 5 * (position / 5)
    word ^^^ ((lane lanes (row + (column + 1) % 5) ^^^ 0xFFFFFFFFFFFFFFFF) &&&
      lane lanes (row + (column + 2) % 5))

def addConstant (constant : UInt64) : Lanes → Lanes
  | [] => []
  | first :: rest => (first ^^^ constant) :: rest

def permute (lanes : Lanes) : Lanes :=
  roundConstants.foldl
    (fun state constant => addConstant constant (mixRows (moveLanes (mixColumns state))))
    lanes

/-! ## The sponge -/

def rate : Nat := 136

def laneOfBytes (bytes : Bytes) : UInt64 :=
  UInt64.ofNat (Bytes.toNat bytes.reverse)

def bytesOfLane (word : UInt64) : Bytes :=
  (Bytes.ofNat 8 word.toNat).reverse

def lanesOfBytes : (count : Nat) → Bytes → Lanes
  | 0, _ => []
  | count + 1, bytes => laneOfBytes (bytes.take 8) :: lanesOfBytes count (bytes.drop 8)

/-- A message behind which a one bit, zeros and a last one bit fill its last
block. -/
def pad (message : Bytes) : Bytes :=
  let room := rate - message.length % rate
  if room = 1 then message ++ [0x81]
  else message ++ [0x01] ++ List.replicate (room - 2) 0 ++ [0x80]

def absorb : (count : Nat) → Bytes → Lanes → Lanes
  | 0, _, lanes => lanes
  | count + 1, bytes, lanes =>
      let block := lanesOfBytes 17 (bytes.take rate) ++ List.replicate 8 0
      absorb count (bytes.drop rate)
        (permute (List.zipWith (fun left right => left ^^^ right) lanes block))

end ContractClient.Keccak

namespace ContractClient

def keccak256 (message : Bytes) : Word :=
  let padded := Keccak.pad message
  let lanes := Keccak.absorb (padded.length / Keccak.rate) padded (List.replicate 25 0)
  FixedBytes.ofBytesPadded 32 ((lanes.take 4).flatMap Keccak.bytesOfLane)

end ContractClient
