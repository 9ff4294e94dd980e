import ContractClient.Abi.Decoding
import ContractClient.Abi.Topic
import ContractClient.Proofs.Typing

/-! Words. A number, account, flag or pointer is read back from the word that it
was written to. The topic of a value is such a word wherever the type of the
value fits one, so these topics tell all values of a type apart. -/

namespace ContractClient

/-! ## Big-endian numbers -/

namespace Bytes

theorem toNat_append_singleton (bytes : Bytes) (last : UInt8) :
    toNat (bytes ++ [last]) = 256 * toNat bytes + last.toNat := by
  rw [toNat, List.foldl_append]
  rfl

theorem toNat_ofNat (size number : Nat) :
    toNat (ofNat size number) = number % Width.limit (8 * size) := by
  induction size generalizing number with
  | zero => rw [Nat.mul_zero, Width.limit_zero, Nat.mod_one]; rfl
  | succ size induction =>
      have wider : Width.limit (8 * (size + 1)) = 256 * Width.limit (8 * size) := by
        simp only [Nat.mul_add, Width.limit_succ]
        omega
      rw [ofNat, toNat_append_singleton, induction, wider, Nat.mod_mul, UInt8.toNat_ofNat']
      omega

end Bytes

theorem FixedBytes.toNat_ofNat {size number : Nat} (fits : number < Width.limit (8 * size)) :
    (FixedBytes.ofNat size number).toNat = number := by
  rw [toNat, ofNat, Bytes.toNat_ofNat, Nat.mod_eq_of_lt fits]

/-! ## Contents of words -/

namespace Word

theorem toInt_ofInt {number : Int} (low : -(Width.limit 255 : Int) ≤ number)
    (high : number < Width.limit 255) : toInt (ofInt number) = number := by
  have double : Width.limit 256 = Width.limit 255 * 2 := Width.limit_succ 255
  have residue : number % (Width.limit 256 : Int) =
      if number < 0 then number + Width.limit 256 else number := by
    split
    · rw [← Int.add_emod_right, Int.emod_eq_of_lt (by omega) (by omega)]
    · exact Int.emod_eq_of_lt (by omega) (by omega)
  rw [toInt, ofInt, residue, FixedBytes.toNat_ofNat]
  · split
    · split <;> omega
    · split <;> omega
  · change _ < Width.limit 256
    split <;> omega

theorem toAddress_ofAddress (address : Address) : toAddress (ofAddress address) = address := by
  rcases address with ⟨bytes, sized⟩
  simp [toAddress, ofAddress]

end Word

/-! ## Topics -/

def AbiType.fitsWord : AbiType → Bool
  | .bytes | .string | .array _ | .fixedArray _ _ | .tuple _ => false
  | _ => true

namespace AbiDecoding

open AbiValue

theorem ofWord_topic {value : AbiValue} {type : AbiType} (admitted : type.Admitted)
    (typed : HasType value type) (fits : type.fitsWord = true) :
    ofWord value.topic type = value := by
  cases typed with
  | @address account => simp [topic, word?, ofWord, Word.toAddress_ofAddress]
  | @bool flag => cases flag <;> rfl
  | @uint number width small =>
      cases admitted with
      | uint positive bounded whole =>
          have wide : number < Width.limit (8 * 32) :=
            Nat.lt_of_lt_of_le small (Width.limit_le_limit bounded)
          simp [topic, word?, ofWord, FixedBytes.toNat_ofNat wide]
  | @int number width low high =>
      cases admitted with
      | int positive bounded whole =>
          have wide : Width.limit (width - 1) ≤ Width.limit 255 :=
            Width.limit_le_limit (by omega)
          have read : Word.toInt (Word.ofInt number) = number :=
            Word.toInt_ofInt (by omega) (by omega)
          simp [topic, word?, ofWord, read]
  | fixedBytes => rfl
  | @function pointer =>
      rcases pointer with ⟨bytes, sized⟩
      simp [topic, word?, ofWord, sized]
  | bytes | string | array | fixedArray | tuple => cases fits

theorem ofWord_hash {type : AbiType} (word : Word) (hashed : type.fitsWord = false) :
    ofWord word type = .fixedBytes word 32 := by
  cases type with
  | bytes | string | array | fixedArray | tuple => rfl
  | address | bool | uint | int | fixedBytes | function => cases hashed

theorem ofWord_topic_eq {value : AbiValue} {type : AbiType} (admitted : type.Admitted)
    (typed : HasType value type) :
    ofWord value.topic type = if type.fitsWord then value else .fixedBytes value.topic 32 := by
  split
  · next fits => exact ofWord_topic admitted typed fits
  · next hashed => exact ofWord_hash value.topic (by simpa using hashed)

end AbiDecoding

/-- Values of a type that fits one word have the same topic only if they are the same. -/
theorem AbiValue.topic_inj {value other : AbiValue} {type : AbiType} (admitted : type.Admitted)
    (fits : type.fitsWord = true) (typed : HasType value type) (otherTyped : HasType other type) :
    value.topic = other.topic ↔ value = other := by
  constructor
  · intro equal
    rw [← AbiDecoding.ofWord_topic admitted typed fits, equal,
      AbiDecoding.ofWord_topic admitted otherTyped fits]
  · rintro rfl
    rfl

end ContractClient
