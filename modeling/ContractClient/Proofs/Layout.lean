import ContractClient.Abi.Decoding
import ContractClient.Abi.Encoding
import ContractClient.Proofs.Words

/-! How an encoding lies in a window. A part of a sequence stands in place, or its
offset stands there and the part elsewhere in the same window. Wherever an
encoded sequence begins a window, all its parts stand one behind the other. -/

namespace ContractClient

open AbiEncoding

theorem append_prefix_drop_iff {left right window : Bytes} {position : Nat} :
    left ++ right <+: window.drop position ↔
      left <+: window.drop position ∧ right <+: window.drop (position + left.length) := by
  constructor
  · rintro ⟨rest, equal⟩
    rw [List.append_assoc] at equal
    refine ⟨⟨right ++ rest, equal⟩, ⟨rest, ?_⟩⟩
    rw [← List.drop_drop, ← equal, List.drop_left]
  · rintro ⟨⟨between, first⟩, ⟨rest, second⟩⟩
    rw [← List.drop_drop, ← first, List.drop_left] at second
    exact ⟨rest, by rw [List.append_assoc, second, first]⟩

theorem length_le_of_prefix_drop {part window : Bytes} {position : Nat}
    (inside : position ≤ window.length) (found : part <+: window.drop position) :
    position + part.length ≤ window.length := by
  have short := found.length_le
  rw [List.length_drop] at short
  omega

/-! ## Parts -/

/-- A part can be found from a position of a window. -/
inductive StandsAt (window : Bytes) (position : Nat) : Part → Prop
  | inPlace {body : Bytes} (found : body <+: window.drop position) :
      StandsAt window position ⟨false, body⟩
  | behind {body : Bytes} {offset : Nat} (pointed : word offset <+: window.drop position)
      (inside : offset ≤ window.length) (found : body <+: window.drop offset) :
      StandsAt window position ⟨true, body⟩

inductive StandFrom (window : Bytes) : Nat → List Part → Prop
  | nil {position : Nat} : StandFrom window position []
  | cons {position : Nat} {part : Part} {rest : List Part}
      (first : StandsAt window position part)
      (others : StandFrom window (position + part.headLength) rest) :
      StandFrom window position (part :: rest)

theorem length_word (number : Nat) : (word number).length = 32 :=
  Bytes.length_ofNat 32 number

theorem length_heads (parts : List Part) (offset : Nat) :
    (heads offset parts).length = headsLength parts := by
  induction parts generalizing offset with
  | nil => rfl
  | cons part rest induction =>
      rw [heads, headsLength, Part.headLength]
      split
      · rw [List.length_append, length_word, induction]
      · rw [List.length_append, induction]

theorem standFrom_of_prefix {window : Bytes} {parts : List Part} {position offset : Nat}
    (inside : offset ≤ window.length) (front : heads offset parts <+: window.drop position)
    (back : tails parts <+: window.drop offset) : StandFrom window position parts := by
  induction parts generalizing position offset with
  | nil => exact .nil
  | cons part rest induction =>
      rcases part with ⟨dynamic, body⟩
      cases dynamic with
      | true =>
          have frontParts := append_prefix_drop_iff.mp front
          have backParts := append_prefix_drop_iff.mp back
          rw [length_word] at frontParts
          exact .cons (.behind frontParts.1 inside backParts.1)
            (induction (length_le_of_prefix_drop inside backParts.1) frontParts.2 backParts.2)
      | false =>
          have frontParts := append_prefix_drop_iff.mp front
          exact .cons (.inPlace frontParts.1) (induction inside frontParts.2 back)

theorem standFrom_of_assemble {window : Bytes} {parts : List Part}
    (found : assemble parts <+: window) : StandFrom window 0 parts := by
  have whole : assemble parts <+: window.drop 0 := found
  have places := append_prefix_drop_iff.mp whole
  rw [length_heads, Nat.zero_add] at places
  have inside := length_le_of_prefix_drop (Nat.zero_le _) places.1
  rw [length_heads, Nat.zero_add] at inside
  exact standFrom_of_prefix inside places.1 places.2

end ContractClient
