import ContractClient.Abi.Value
import ContractClient.Text.Utf8

namespace ContractClient

/-! Decoding of ABI data. Decoding is lenient: only the low 64 bits of an offset
or length count, bytes left over are ignored, a word is taken as it is for
integers of any width, and texts that are not UTF-8 are repaired. -/

inductive DecodeError where
  | overrun
  /-- The data is nested deeper than sixteen offsets. -/
  | tooDeep
deriving DecidableEq, Repr

def DecodeError.message : DecodeError → String
  | .overrun => "ABI decoding failed: buffer overrun while deserializing"
  | .tooDeep => "ABI decoding failed: recursion limit of 16 exceeded during decoding"

namespace AbiDecoding

/-- Where a decoder stands: the bytes that offsets are counted in, how many of
them lie before it, and how many windows enclose this one. -/
structure Cursor where
  window : Bytes
  position : Nat
  depth : Nat

abbrev Step (α : Type) := Cursor → Except DecodeError (α × Cursor)

/-- How many windows may enclose another one. -/
def maxDepth : Nat := 16

def takeWord : Step Word := fun cursor =>
  match FixedBytes.ofBytes? 32 ((cursor.window.drop cursor.position).take 32) with
  | some word => .ok (word, { cursor with position := cursor.position + 32 })
  | none => .error .overrun

/-- Take a word that is an offset or a length; its high bytes are ignored. -/
def takeOffset : Step Nat := fun cursor =>
  match takeWord cursor with
  | .ok (word, next) => .ok (word.toNat % Width.limit 64, next)
  | .error reason => .error reason

def child (cursor : Cursor) (offset : Nat) : Except DecodeError Cursor :=
  if maxDepth ≤ cursor.depth then .error .tooDeep
  else if offset ≤ cursor.window.length then
    .ok ⟨cursor.window.drop offset, 0, cursor.depth + 1⟩
  else .error .overrun

/-- Take an offset and enter the window there; decoding goes on behind the
offset. -/
def takeIndirection : Step Cursor := fun cursor =>
  match takeOffset cursor with
  | .error reason => .error reason
  | .ok (offset, next) =>
      match child next offset with
      | .ok inner => .ok (inner, next)
      | .error reason => .error reason

def takeBytes (size : Nat) : Step Bytes := fun cursor =>
  if cursor.position + size ≤ cursor.window.length then
    .ok ((cursor.window.drop cursor.position).take size,
      { cursor with position := cursor.position + size })
  else .error .overrun

def takeContent : Step Bytes := fun cursor =>
  match takeIndirection cursor with
  | .error reason => .error reason
  | .ok (inner, next) =>
      match takeOffset inner with
      | .error reason => .error reason
      | .ok (size, behind) =>
          match takeBytes size behind with
          | .error reason => .error reason
          | .ok (content, _) => .ok (content, next)

def takeMany (step : Step AbiValue) : (count : Nat) → Step (List AbiValue)
  | 0, cursor => .ok ([], cursor)
  | count + 1, cursor =>
      match step cursor with
      | .error reason => .error reason
      | .ok (value, next) =>
          match takeMany step count next with
          | .error reason => .error reason
          | .ok (values, last) => .ok (value :: values, last)

/-- Take the items of a fixed array or tuple: behind an offset if the type is
dynamic, else in a window of their own that ends where decoding goes on. -/
def takeGroup (dynamic : Bool) (items : Step (List AbiValue)) : Step (List AbiValue) :=
  fun cursor =>
    if dynamic then
      match takeIndirection cursor with
      | .error reason => .error reason
      | .ok (inner, next) =>
          match items inner with
          | .error reason => .error reason
          | .ok (values, _) => .ok (values, next)
    else
      match child cursor cursor.position with
      | .error reason => .error reason
      | .ok inner =>
          match items inner with
          | .error reason => .error reason
          | .ok (values, last) =>
              .ok (values, { cursor with position := cursor.position + last.position })

/-- Take the items of an array behind an offset: their number, then the items,
whose offsets are counted from the end of that number. More items than words
are refused before any is read. -/
def takeArray (words : Nat) (item : Step AbiValue) : Step (List AbiValue) := fun cursor =>
  match takeIndirection cursor with
  | .error reason => .error reason
  | .ok (inner, next) =>
      match takeOffset inner with
      | .error reason => .error reason
      | .ok (count, behind) =>
          if count = 0 then .ok ([], next)
          else
            match child behind behind.position with
            | .error reason => .error reason
            | .ok contents =>
                if contents.window.length / 32 < words * count then .error .overrun
                else
                  match takeMany item count contents with
                  | .error reason => .error reason
                  | .ok (values, _) => .ok (values, next)

/-- The value that a word is at a value type. At any other type the word is
taken for a hash and kept as it is. -/
def ofWord (word : Word) : AbiType → AbiValue
  | .address => .address (Word.toAddress word)
  | .bool => .bool (word.toNat != 0)
  | .uint width => .uint word.toNat width
  | .int width => .int (Word.toInt word) width
  | .fixedBytes size => .fixedBytes word size
  | .function => .function ⟨word.bytes.take 24, by simp [word.length_bytes]⟩
  | _ => .fixedBytes word 32

def takeValue (read : Word → AbiValue) : Step AbiValue := fun cursor =>
  match takeWord cursor with
  | .ok (word, next) => .ok (read word, next)
  | .error reason => .error reason

def mapStep (build : α → β) (step : Step α) : Step β := fun cursor =>
  match step cursor with
  | .ok (result, next) => .ok (build result, next)
  | .error reason => .error reason

mutual
def take : AbiType → Step AbiValue
  | .bytes => mapStep .bytes takeContent
  | .string => mapStep (fun content => .string (Text.decodeLossy content)) takeContent
  | .array item => mapStep .array (takeArray item.minimumWords (take item))
  | .fixedArray item length =>
      mapStep .fixedArray (takeGroup item.isDynamic (takeMany (take item) length))
  | .tuple items =>
      mapStep .tuple (takeGroup (AbiType.anyDynamic items) (takeEach items))
  | type => takeValue fun word => ofWord word type

def takeEach : List AbiType → Step (List AbiValue)
  | [], cursor => .ok ([], cursor)
  | item :: rest, cursor =>
      match take item cursor with
      | .error reason => .error reason
      | .ok (value, next) =>
          match takeEach rest next with
          | .error reason => .error reason
          | .ok (values, last) => .ok (value :: values, last)
end

def Cursor.start (data : Bytes) : Cursor :=
  ⟨data, 0, 0⟩

end AbiDecoding

namespace AbiValue

mutual
/-- The value of a type that never takes up any bytes: empty tuples, and arrays
of them. Such a value is known without looking at any data. -/
def ofNoData? : AbiType → Option AbiValue
  | .array item => (ofNoData? item).map fun _ => .array []
  | .fixedArray item length =>
      (ofNoData? item).map fun value => .fixedArray (List.replicate length value)
  | .tuple items => (ofNoDataAll? items).map .tuple
  | _ => none

def ofNoDataAll? : List AbiType → Option (List AbiValue)
  | [] => some []
  | item :: rest =>
      match ofNoData? item, ofNoDataAll? rest with
      | some value, some values => some (value :: values)
      | _, _ => none
end

def decodeSequence (types : List AbiType) (data : Bytes) : Except DecodeError (List AbiValue) :=
  match AbiDecoding.takeEach types (AbiDecoding.Cursor.start data) with
  | .ok (values, _) => .ok values
  | .error reason => .error reason

end AbiValue

end ContractClient
