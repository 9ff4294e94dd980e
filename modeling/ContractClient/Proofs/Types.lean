import ContractClient.Interface.Parameter
import ContractClient.Proofs.Traversal

/-! The types of the contract language. A type text or a parameter that resolves
gives one of them, whatever the brackets and components around it. -/

namespace ContractClient

namespace AbiType

/-- Induction on a type. For a tuple the property is known of every item. -/
@[elab_as_elim]
theorem induction_on {Property : AbiType → Prop}
    (address : Property .address) (bool : Property .bool)
    (uint : ∀ width, Property (.uint width)) (int : ∀ width, Property (.int width))
    (fixedBytes : ∀ size, Property (.fixedBytes size)) (bytes : Property .bytes)
    (string : Property .string) (function : Property .function)
    (array : ∀ item, Property item → Property (.array item))
    (fixedArray : ∀ item length, Property item → Property (.fixedArray item length))
    (tuple : ∀ items, (∀ item ∈ items, Property item) → Property (.tuple items))
    (type : AbiType) : Property type := by
  refine @AbiType.rec Property (fun items => ∀ item ∈ items, Property item)
    address bool uint int fixedBytes bytes string function array fixedArray tuple ?_ ?_ type
  · simp
  · intro first rest firstHolds restHold item member
    rcases List.mem_cons.mp member with rfl | member
    · exact firstHolds
    · exact restHold item member

/-- The types of the contract language: integers of whole bytes up to 256 bits,
fixed byte strings of one to 32 bytes, and all arrays and tuples of them. -/
inductive Admitted : AbiType → Prop
  | address : Admitted .address
  | bool : Admitted .bool
  | uint {width : Nat} (positive : 0 < width) (bounded : width ≤ 256) (whole : width % 8 = 0) :
      Admitted (.uint width)
  | int {width : Nat} (positive : 0 < width) (bounded : width ≤ 256) (whole : width % 8 = 0) :
      Admitted (.int width)
  | fixedBytes {size : Nat} (positive : 0 < size) (bounded : size ≤ 32) :
      Admitted (.fixedBytes size)
  | bytes : Admitted .bytes
  | string : Admitted .string
  | function : Admitted .function
  | array {item : AbiType} (items : Admitted item) : Admitted (.array item)
  | fixedArray {item : AbiType} {length : Nat} (items : Admitted item) :
      Admitted (.fixedArray item length)
  | tuple {types : List AbiType} (items : ∀ item ∈ types, Admitted item) :
      Admitted (.tuple types)

end AbiType

/-! ## Resolved texts -/

namespace TypeText

open AbiType

theorem wrap_admitted {type : AbiType} (admitted : type.Admitted) (sizes : List (Option Nat)) :
    (wrap type sizes).Admitted := by
  induction sizes generalizing type with
  | nil => exact admitted
  | cons size rest induction =>
      rw [wrap, List.foldl_cons]
      cases size with
      | none => exact induction (.array admitted)
      | some length => exact induction (.fixedArray admitted)

theorem widthOf?_eq_some {digits : List Char} {width : Nat} (read : widthOf? digits = some width) :
    0 < width ∧ width ≤ 256 ∧ width % 8 = 0 := by
  unfold widthOf? at read
  split at read
  · split at read
    · next proper =>
        cases read
        exact ⟨Nat.pos_of_ne_zero proper.1, proper.2⟩
    · cases read
  · cases read

theorem resolveName_admitted {name : String} {type : AbiType}
    (resolved : resolveName name = .ok type) : type.Admitted := by
  unfold resolveName at resolved
  split at resolved
  · cases resolved; exact .address
  · cases resolved; exact .bool
  · cases resolved; exact .string
  · cases resolved; exact .bytes
  · cases resolved; exact .uint (by decide) (by decide) (by decide)
  · cases resolved; exact .int (by decide) (by decide) (by decide)
  · cases resolved; exact .function
  · split at resolved
    · split at resolved
      · next size _ proper =>
          cases resolved
          exact .fixedBytes (Nat.pos_of_ne_zero proper.1) proper.2
      · cases resolved
    · cases resolved
  · split at resolved
    · next width read =>
        cases resolved
        rcases widthOf?_eq_some read with ⟨positive, bounded, whole⟩
        exact .uint positive bounded whole
    · cases resolved
  · split at resolved
    · next width read =>
        cases resolved
        rcases widthOf?_eq_some read with ⟨positive, bounded, whole⟩
        exact .int positive bounded whole
    · cases resolved
  · cases resolved

theorem resolveAll_eq_mapM (parts : List TypeText) : resolveAll parts = parts.mapM resolve := by
  induction parts with
  | nil => rfl
  | cons part rest induction =>
      rw [resolveAll, List.mapM_cons, induction]
      cases part.resolve with
      | error reason => rfl
      | ok type => cases rest.mapM resolve <;> rfl

theorem resolve_admitted {parsed : TypeText} {type : AbiType}
    (resolved : parsed.resolve = .ok type) : type.Admitted := by
  cases parsed with
  | named name sizes =>
      rw [resolve] at resolved
      cases named : resolveName name with
      | error reason => simp [named, Except.map] at resolved
      | ok inner =>
          rw [named] at resolved
          cases resolved
          exact wrap_admitted (resolveName_admitted named) sizes
  | tuple parts sizes =>
      rw [resolve] at resolved
      cases each : resolveAll parts with
      | error reason => simp [each, Except.map] at resolved
      | ok types =>
          rw [each] at resolved
          cases resolved
          refine wrap_admitted (.tuple fun type member => ?_) sizes
          rw [resolveAll_eq_mapM, Traversal.mapM_eq_ok_iff] at each
          rcases Traversal.exists_of_mem_right each member with ⟨part, inside, found⟩
          exact resolve_admitted found
termination_by parsed

end TypeText

theorem AbiType.parse?_admitted {text : String} {type : AbiType}
    (parsed : AbiType.parse? text = some type) : type.Admitted := by
  unfold AbiType.parse? at parsed
  split at parsed
  · split at parsed
    · next resolved =>
        cases parsed
        exact TypeText.resolve_admitted resolved
    · cases parsed
  · cases parsed

namespace Parameter

theorem resolveAll_eq_mapM (parameters : List Parameter) :
    resolveAll parameters = parameters.mapM resolve := by
  induction parameters with
  | nil => rfl
  | cons parameter rest induction =>
      rw [resolveAll, List.mapM_cons, induction]
      cases parameter.resolve with
      | error reason => rfl
      | ok type => cases rest.mapM resolve <;> rfl

theorem resolveAll_eq_ok_iff {parameters : List Parameter} {types : List AbiType} :
    resolveAll parameters = .ok types ↔
      List.Forall₂ (fun parameter type => parameter.resolve = .ok type) parameters types := by
  rw [resolveAll_eq_mapM]
  exact Traversal.mapM_eq_ok_iff

theorem resolve_eq_ok {parameter : Parameter} {type : AbiType}
    (resolved : parameter.resolve = .ok type) :
    (∃ shape, TypeText.parse? parameter.type = some shape ∧ shape.resolve = .ok type) ∨
      (∃ types sizes, resolveAll parameter.components = .ok types ∧
        type = TypeText.wrap (.tuple types) sizes) := by
  rcases parameter with ⟨name, text, internal, components⟩
  rw [resolve] at resolved
  cases parsed : TypeText.parse? text with
  | none => simp [parsed] at resolved
  | some shape =>
      simp only [parsed] at resolved
      cases components with
      | nil =>
          cases named : shape.resolve with
          | error reason => simp [named] at resolved
          | ok inner =>
              simp only [named, Except.ok.injEq] at resolved
              subst resolved
              exact .inl ⟨shape, rfl, named⟩
      | cons first rest =>
          cases each : resolveAll (first :: rest) with
          | error reason => simp [each] at resolved
          | ok types =>
              simp only [each, Except.ok.injEq] at resolved
              exact .inr ⟨types, shape.sizes, rfl, resolved.symm⟩

theorem resolve_admitted : ∀ {parameter : Parameter} {type : AbiType},
    parameter.resolve = .ok type → type.Admitted
  | ⟨name, text, internal, components⟩, type, resolved => by
      rcases resolve_eq_ok resolved with ⟨shape, _, named⟩ | ⟨types, sizes, each, rfl⟩
      · exact TypeText.resolve_admitted named
      · refine TypeText.wrap_admitted (.tuple fun item member => ?_) sizes
        rcases Traversal.exists_of_mem_right (resolveAll_eq_ok_iff.mp each) member with
          ⟨component, inside, found⟩
        exact resolve_admitted found

end Parameter

end ContractClient
