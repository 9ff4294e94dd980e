import ContractClient.Proofs.Coercion
import ContractClient.Proofs.Members

/-! Struct arguments. A tuple may be given by position, or by name where its components are told
apart by their names. Both ways mean the same, at every level of a value and mixed in any way;
and an object that does not name exactly the components of its tuple means nothing. -/

namespace ContractClient

/-! ## Components -/

namespace Parameter

/-- The components have names that tell them apart, and so have theirs, at every level. -/
inductive Distinguished : List Parameter → Prop
  | intro {components : List Parameter}
      (named : ∀ component ∈ components, component.name ≠ "")
      (distinct : (components.map Parameter.name).Nodup)
      (nested : ∀ component ∈ components, Distinguished component.components) :
      Distinguished components

def componentsAt (components : List Parameter) (position : Nat) : List Parameter :=
  (components[position]?.map Parameter.components).getD []

theorem componentsAt_zero (components : List Parameter) :
    componentsAt components 0 = AbiValue.firstComponents components := by
  cases components <;> rfl

theorem componentsAt_succ (components : List Parameter) (position : Nat) :
    componentsAt components (position + 1) = componentsAt components.tail position := by
  cases components <;> rfl

theorem Distinguished.nil : Distinguished [] :=
  .intro nofun List.nodup_nil nofun

theorem Distinguished.componentsAt {components : List Parameter}
    (distinguished : Distinguished components) (position : Nat) :
    Distinguished (Parameter.componentsAt components position) := by
  rw [Parameter.componentsAt]
  cases found : components[position]? with
  | none => exact .nil
  | some component =>
      cases distinguished with
      | intro named distinct nested => exact nested component (List.mem_of_getElem? found)

end Parameter

namespace AbiValue

open Coercion Parameter

variable {components : List Parameter} {types : List AbiType} {json : Json}
  {items : List Json} {values : List AbiValue} {value : AbiValue}

theorem ofJsonEach_eq_ok_iff (arity : items.length = types.length) :
    ofJsonEach types components items = .ok values ↔
      values.length = types.length ∧
        ∀ position type item, types[position]? = some type → items[position]? = some item →
          ∃ value, values[position]? = some value ∧
            ofJson type (componentsAt components position) item = .ok value := by
  induction types generalizing components items values with
  | nil =>
      rw [ofJsonEach, List.length_nil, List.length_eq_zero_iff]
      simp [eq_comm]
  | cons type types induction =>
      rcases items with _ | ⟨item, items⟩
      · simp at arity
      · have arity : items.length = types.length := by simpa using arity
        rw [ofJsonEach_cons_eq_ok_iff]
        constructor
        · rintro ⟨value, rest, first, later, rfl⟩
          rcases (induction arity).mp later with ⟨count, each⟩
          refine ⟨by simp [count], ?_⟩
          rintro (_ | position) other given typed found
          · cases typed
            cases found
            exact ⟨value, rfl, componentsAt_zero components ▸ first⟩
          · rw [componentsAt_succ]
            exact each position other given typed found
        · rintro ⟨count, each⟩
          rcases values with _ | ⟨value, rest⟩
          · simp at count
          · rcases each 0 type item rfl rfl with ⟨_, same, first⟩
            cases same
            rw [componentsAt_zero] at first
            refine ⟨value, rest, first, (induction arity).mpr ⟨by simpa using count, ?_⟩, rfl⟩
            intro position other given typed found
            rw [← componentsAt_succ]
            exact each (position + 1) other given typed found

/-! ## Spellings of a tuple -/

/-- What gives the items of a tuple: the array of them, or an object with one member for each
component, under its name. -/
inductive Spells (components : List Parameter) : Json → List Json → Prop
  | byPosition {items : List Json} : Spells components (.array items) items
  | byName {fields : List (String × Json)} {items : List Json}
      (keys : (fields.map Prod.fst).Perm (components.map Parameter.name))
      (filed : List.Forall₂ (fun component item => (component.name, item) ∈ fields)
        components items) :
      Spells components (.object fields) items

theorem orderFields_eq_ok_iff {fields : List (String × Json)} {arity : Nat} :
    orderFields fields components arity = .ok items ↔
      (components.length = arity ∧ ∀ component ∈ components, component.name ≠ "") ∧
      (∀ field ∈ fields, field.1 ∈ components.map Parameter.name) ∧
      List.Forall₂ (fun component item => Json.lookup component.name fields = some item)
        components items := by
  have known : (fields.find? fun field =>
      !components.any fun component => component.name == field.1) = none ↔
        ∀ field ∈ fields, field.1 ∈ components.map Parameter.name := by
    simp [List.find?_eq_none]
  rw [orderFields]
  by_cases named : components.length = arity ∧ ∀ component ∈ components, component.name ≠ ""
  · rw [if_neg (by simpa using named), and_iff_right named, ← known]
    cases fields.find? fun field =>
        !components.any fun component => component.name == field.1 with
    | some field => simp
    | none =>
        simp only [true_and, Traversal.mapM_eq_ok_iff]
        constructor
        · refine fun each => each.imp fun component item found => ?_
          split at found
          · next value looked =>
              cases found
              exact looked
          · cases found
        · exact fun each => each.imp fun component item looked => by simp only [looked]
  · rw [if_pos (by simpa [imp_iff_not_or] using named)]
    simp [named]

theorem orderFields_of_keys {fields : List (String × Json)} {found : List Json} {arity : Nat}
    (distinguished : Distinguished components)
    (keys : (fields.map Prod.fst).Perm (components.map Parameter.name))
    (filed : List.Forall₂ (fun component item => (component.name, item) ∈ fields)
      components items) :
    orderFields fields components arity = .ok found ↔
      components.length = arity ∧ found = items := by
  cases distinguished with
  | intro named distinct nested =>
      have known : ∀ field ∈ fields, field.1 ∈ components.map Parameter.name :=
        fun field member => keys.mem_iff.mp (List.mem_map_of_mem member)
      have looked : List.Forall₂
          (fun component item => Json.lookup component.name fields = some item)
          components items :=
        filed.imp fun _ _ => (Json.lookup_eq_some_iff (keys.nodup_iff.mpr distinct)).mpr
      rw [orderFields_eq_ok_iff, and_iff_left named, and_iff_right known]
      refine and_congr_right fun _ => ⟨fun also => ?_, fun same => same ▸ looked⟩
      refine List.right_unique_forall₂' ?_ also looked
      exact fun _ _ _ first second => Option.some.inj (first.symm.trans second)

theorem tupleItems_of_spells {arity : Nat} {found : List Json}
    (distinguished : Distinguished components) (spelled : Spells components json items) :
    tupleItems json components arity = .ok found ∧ found.length = arity ↔
      found = items ∧ items.length = arity := by
  cases spelled with
  | byPosition =>
      rw [tupleItems, Except.ok.injEq, eq_comm]
      exact and_congr_right fun same => by rw [same]
  | byName keys filed =>
      rw [tupleItems, orderFields_of_keys distinguished keys filed, filed.length_eq]
      constructor
      · rintro ⟨⟨count, same⟩, _⟩
        exact ⟨same, count⟩
      · rintro ⟨rfl, count⟩
        exact ⟨⟨count, rfl⟩, count⟩

theorem ofJson_tuple_of_spells (distinguished : Distinguished components)
    (spelled : Spells components json items) :
    ofJson (.tuple types) components json = .ok value ↔
      items.length = types.length ∧
        ∃ values, ofJsonEach types components items = .ok values ∧ value = .tuple values := by
  rw [ofJson_tuple_eq_ok_iff]
  constructor
  · rintro ⟨found, values, ordered, arity, each, rfl⟩
    rcases (tupleItems_of_spells distinguished spelled).mp ⟨ordered, arity⟩ with ⟨rfl, count⟩
    exact ⟨count, values, each, rfl⟩
  · rintro ⟨count, values, each, rfl⟩
    rcases (tupleItems_of_spells distinguished spelled).mpr ⟨rfl, count⟩ with ⟨ordered, arity⟩
    exact ⟨items, values, ordered, arity, each, rfl⟩

/-! ## Respelling -/

/-- Two values differ in nothing but how the tuples in them are spelled. -/
inductive Respelled : AbiType → List Parameter → Json → Json → Prop
  | same {type : AbiType} {components : List Parameter} {json : Json} :
      Respelled type components json json
  | array {item : AbiType} {components : List Parameter} {items others : List Json}
      (count : items.length = others.length)
      (each : ∀ pair ∈ items.zip others, Respelled item components pair.1 pair.2) :
      Respelled (.array item) components (.array items) (.array others)
  | fixedArray {item : AbiType} {length : Nat} {components : List Parameter}
      {items others : List Json} (count : items.length = others.length)
      (each : ∀ pair ∈ items.zip others, Respelled item components pair.1 pair.2) :
      Respelled (.fixedArray item length) components (.array items) (.array others)
  | tuple {types : List AbiType} {components : List Parameter} {json other : Json}
      {items others : List Json} (spelled : Spells components json items)
      (otherwise : Spells components other others) (count : items.length = others.length)
      (each : ∀ position type item other, types[position]? = some type →
        items[position]? = some item → others[position]? = some other →
          Respelled type (componentsAt components position) item other) :
      Respelled (.tuple types) components json other

theorem forall₂_congr_of_zip {Reads : Json → AbiValue → Prop} {items others : List Json}
    (count : items.length = others.length)
    (alike : ∀ pair ∈ items.zip others, ∀ value, Reads pair.1 value ↔ Reads pair.2 value) :
    List.Forall₂ Reads items values ↔ List.Forall₂ Reads others values := by
  have pairs : List.Forall₂ (fun item other => ∀ value, Reads item value ↔ Reads other value)
      items others := List.forall₂_iff_zip.mpr ⟨count, fun member => alike _ member⟩
  clear alike count
  induction pairs generalizing values with
  | nil => rfl
  | cons first _ induction =>
      simp only [List.forall₂_cons_left_iff, first, induction]

theorem ofJsonEach_of_reads {others : List Json} (arity : items.length = types.length)
    (count : items.length = others.length)
    (reads : ∀ position type item other, types[position]? = some type →
      items[position]? = some item → others[position]? = some other →
        ∀ value, ofJson type (componentsAt components position) item = .ok value →
          ofJson type (componentsAt components position) other = .ok value)
    (read : ofJsonEach types components items = .ok values) :
    ofJsonEach types components others = .ok values := by
  rcases (ofJsonEach_eq_ok_iff arity).mp read with ⟨produced, each⟩
  refine (ofJsonEach_eq_ok_iff (count.symm.trans arity)).mpr ⟨produced, ?_⟩
  intro position type other typed found
  have inside : position < items.length :=
    count ▸ (List.getElem?_eq_some_iff.mp found).1
  have given := List.getElem?_eq_getElem inside
  rcases each position type _ typed given with ⟨value, same, first⟩
  exact ⟨value, same, reads position type _ other typed given found value first⟩

theorem Respelled.ofJson_eq_ok_iff {type : AbiType} {other : Json}
    (respelled : Respelled type components json other)
    (distinguished : Distinguished components) (value : AbiValue) :
    ofJson type components json = .ok value ↔ ofJson type components other = .ok value := by
  induction respelled generalizing value with
  | same => rfl
  | @array item components items others count each alike =>
      have reads : ∀ values, List.Forall₂
            (fun json value => ofJson item components json = .ok value) items values ↔
          List.Forall₂ (fun json value => ofJson item components json = .ok value) others values :=
        fun values => forall₂_congr_of_zip count fun pair member => alike pair member distinguished
      simp only [ofJson_array_eq_ok_iff, Json.array.injEq, exists_and_left, exists_eq_left', reads]
  | @fixedArray item length components items others count each alike =>
      have reads : ∀ values, List.Forall₂
            (fun json value => ofJson item components json = .ok value) items values ↔
          List.Forall₂ (fun json value => ofJson item components json = .ok value) others values :=
        fun values => forall₂_congr_of_zip count fun pair member => alike pair member distinguished
      simp only [ofJson_fixedArray_eq_ok_iff, Json.array.injEq, exists_and_left, exists_eq_left',
        reads, count]
  | @tuple types components json other items others spelled otherwise count each alike =>
      rw [ofJson_tuple_of_spells distinguished spelled,
        ofJson_tuple_of_spells distinguished otherwise, ← count]
      refine and_congr_right fun arity => exists_congr fun values => and_congr_left fun _ => ?_
      constructor
      · refine ofJsonEach_of_reads arity count fun position type item other typed given found => ?_
        exact fun value => (alike position type item other typed given found
          (distinguished.componentsAt position) value).mp
      · refine ofJsonEach_of_reads (count.symm.trans arity) count.symm
          fun position type other item typed found given => ?_
        exact fun value => (alike position type item other typed given found
          (distinguished.componentsAt position) value).mpr

/-! ## Objects that name something else -/

/-- Somewhere in the value an object is given for a tuple and lacks a component, or has a
member that is none. -/
inductive Misspelled : AbiType → List Parameter → Json → Prop
  | missing {types : List AbiType} {components : List Parameter} {component : Parameter}
      {fields : List (String × Json)} (declared : component ∈ components)
      (absent : component.name ∉ fields.map Prod.fst) :
      Misspelled (.tuple types) components (.object fields)
  | unknown {types : List AbiType} {components : List Parameter}
      {fields : List (String × Json)} {name : String} (present : name ∈ fields.map Prod.fst)
      (undeclared : name ∉ components.map Parameter.name) :
      Misspelled (.tuple types) components (.object fields)
  | array {item : AbiType} {components : List Parameter} {items : List Json} {json : Json}
      (member : json ∈ items) (inside : Misspelled item components json) :
      Misspelled (.array item) components (.array items)
  | fixedArray {item : AbiType} {length : Nat} {components : List Parameter} {items : List Json}
      {json : Json} (member : json ∈ items) (inside : Misspelled item components json) :
      Misspelled (.fixedArray item length) components (.array items)
  | tuple {types : List AbiType} {components : List Parameter} {json : Json} {items : List Json}
      {position : Nat} {type : AbiType} {item : Json} (spelled : Spells components json items)
      (typed : types[position]? = some type) (given : items[position]? = some item)
      (inside : Misspelled type (componentsAt components position) item) :
      Misspelled (.tuple types) components json

theorem Misspelled.ofJson_ne_ok {type : AbiType} (misspelled : Misspelled type components json)
    (distinguished : Distinguished components) (value : AbiValue) :
    ofJson type components json ≠ .ok value := by
  induction misspelled generalizing value with
  | missing declared absent =>
      rw [Ne, ofJson_tuple_eq_ok_iff]
      rintro ⟨items, values, ordered, _⟩
      rw [tupleItems, orderFields_eq_ok_iff] at ordered
      rcases Traversal.exists_of_mem_left ordered.2.2 declared with ⟨item, _, found⟩
      rw [Json.lookup_eq_none_iff.mpr absent] at found
      cases found
  | unknown present undeclared =>
      rw [Ne, ofJson_tuple_eq_ok_iff]
      rintro ⟨items, values, ordered, _⟩
      rw [tupleItems, orderFields_eq_ok_iff] at ordered
      rcases List.mem_map.mp present with ⟨field, member, rfl⟩
      exact undeclared (ordered.2.1 field member)
  | array member inside fails =>
      rw [Ne, ofJson_array_eq_ok_iff]
      rintro ⟨items, values, same, reads, _⟩
      cases same
      rcases Traversal.exists_of_mem_left reads member with ⟨value, _, read⟩
      exact fails distinguished value read
  | fixedArray member inside fails =>
      rw [Ne, ofJson_fixedArray_eq_ok_iff]
      rintro ⟨items, values, same, _, reads, _⟩
      cases same
      rcases Traversal.exists_of_mem_left reads member with ⟨value, _, read⟩
      exact fails distinguished value read
  | @tuple types components json items position type item spelled typed given inside fails =>
      rw [Ne, ofJson_tuple_of_spells distinguished spelled]
      rintro ⟨arity, values, each, _⟩
      rcases ((ofJsonEach_eq_ok_iff arity).mp each).2 position type item typed given with
        ⟨value, _, read⟩
      exact fails (distinguished.componentsAt position) value read

/-- Where components are told apart by their names, values that differ only in the spelling of
their tuples are coerced to the same value or not at all, and a value in which an object lacks a
component of its tuple, or names something else, is not coerced. -/
theorem spelling_indifferent (type : AbiType) (distinguished : Distinguished components) :
    (∀ json other, Respelled type components json other → ∀ value,
      ofJson type components json = .ok value ↔ ofJson type components other = .ok value) ∧
    ∀ json, Misspelled type components json →
      ∃ reason, ofJson type components json = .error reason :=
  ⟨fun _ _ respelled => respelled.ofJson_eq_ok_iff distinguished,
    fun _ misspelled => Traversal.exists_error_of_ne_ok (misspelled.ofJson_ne_ok distinguished)⟩

def delivery : Parameter :=
  ⟨"delivery", "tuple", none, [⟨"amount", "uint256", none, []⟩,
    ⟨"lots", "tuple[]", none, [⟨"sealed", "bool", none, []⟩]⟩]⟩

def deliveryType : AbiType :=
  .tuple [.uint 256, .array (.tuple [.bool])]

def deliveryByName : Json :=
  .object [("lots", .array [.object [("sealed", .boolean true)], .array [.boolean false]]),
    ("amount", .natural 7)]

def deliveryByPosition : Json :=
  .array [.natural 7, .array [.array [.boolean true], .array [.boolean false]]]

theorem spelling_indifferent_delivery :
    delivery.resolve = .ok deliveryType ∧ Distinguished delivery.components ∧
      ofJson deliveryType delivery.components deliveryByName =
        .ok (.tuple [.uint 7 256, .array [.tuple [.bool true], .tuple [.bool false]]]) ∧
      ∃ reason, ofJson deliveryType delivery.components
        (.array [.natural 7, .array [.object [("opened", .boolean true)]]]) = .error reason := by
  have lots : Distinguished [⟨"sealed", "bool", none, []⟩] :=
    .intro (by decide) (by decide) fun component member =>
      List.mem_singleton.mp member ▸ Distinguished.nil
  have distinguished : Distinguished delivery.components := by
    refine .intro (by decide) (by decide) fun component member => ?_
    rcases List.mem_cons.mp member with rfl | member
    · exact .nil
    · exact List.mem_singleton.mp member ▸ lots
  have named : Spells [⟨"sealed", "bool", none, []⟩] (.object [("sealed", .boolean true)])
      [.boolean true] := .byName (.refl _) (.cons (.head _) .nil)
  have lot : Respelled (.tuple [.bool]) [⟨"sealed", "bool", none, []⟩]
      (.object [("sealed", .boolean true)]) (.array [.boolean true]) := by
    refine .tuple named .byPosition rfl fun position type item other typed given found => ?_
    rw [given, Option.some.injEq] at found
    exact found ▸ .same
  have respelled : Respelled deliveryType delivery.components deliveryByName
      deliveryByPosition := by
    refine .tuple (.byName (.swap _ _ _) (.cons (.tail _ (.head _)) (.cons (.head _) .nil)))
      .byPosition rfl fun position type item other typed given found => ?_
    rcases position with _ | _ | position
    · cases given
      cases found
      exact .same
    · cases typed
      cases given
      cases found
      refine .array rfl fun pair member => ?_
      rcases List.mem_cons.mp member with rfl | member
      · exact lot
      · exact List.mem_singleton.mp member ▸ .same
    · simp at typed
  have misspelled : Misspelled deliveryType delivery.components
      (.array [.natural 7, .array [.object [("opened", .boolean true)]]]) :=
    @Misspelled.tuple _ _ _ _ 1 _ _ .byPosition rfl rfl
      (.array (.head _) (.missing (.head _) (by decide)))
  have indifferent := spelling_indifferent deliveryType distinguished
  exact ⟨rfl, distinguished, (indifferent.1 _ _ respelled _).mpr rfl,
    indifferent.2 _ misspelled⟩

end AbiValue

end ContractClient
