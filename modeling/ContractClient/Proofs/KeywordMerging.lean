import ContractClient.Proofs.ArgumentEncoding
import ContractClient.Proofs.Members

/-! Merging of keyword arguments. The parameters behind those that are given by position take
the values filed under their names, and every keyword must name one of them. Every value is
then passed exactly once, unless parameters that are left to the keywords share a name: such
parameters are all given the one value of that name. -/

namespace ContractClient

namespace Arguments

variable {name : String} {inputs : List Parameter} {positional merged values : List Json}
  {keywords : List (String × Json)}

def names (parameters : List Parameter) : List String :=
  parameters.map Parameter.name

def remaining (inputs : List Parameter) (positional : List Json) : List Parameter :=
  inputs.drop positional.length

/-! ## When arguments merge -/

theorem positionOf?_eq_none_iff : positionOf? name inputs = none ↔ name ∉ names inputs := by
  induction inputs with
  | nil => simp [positionOf?, names]
  | cons parameter rest induction =>
      rw [positionOf?, names, List.map_cons, List.mem_cons, not_or, ← names, ← induction]
      by_cases same : parameter.name = name
      · simp [same]
      · have different : name ≠ parameter.name := fun equal => same equal.symm
        simp [same, different]

theorem lt_iff_of_positionOf? {position taken : Nat}
    (found : positionOf? name inputs = some position) :
    position < taken ↔ name ∈ names (inputs.take taken) := by
  induction inputs generalizing position taken with
  | nil => cases found
  | cons parameter rest induction =>
      rw [positionOf?] at found
      cases taken with
      | zero => simp [names]
      | succ taken =>
          rw [List.take_succ_cons, names, List.map_cons, List.mem_cons, ← names]
          by_cases same : parameter.name = name
          · rw [if_pos same] at found
            cases found
            simp [same]
          · rw [if_neg same, Option.map_eq_some_iff] at found
            rcases found with ⟨earlier, found, rfl⟩
            rw [← induction found, Nat.succ_lt_succ_iff]
            have different : name ≠ parameter.name := fun equal => same equal.symm
            simp [different]

theorem checkKeywords_eq_ok_iff {taken : Nat} :
    checkKeywords inputs taken keywords = .ok () ↔
      ∀ name ∈ keywords.map Prod.fst,
        name ∈ names inputs ∧ name ∉ names (inputs.take taken) := by
  induction keywords with
  | nil => simp [checkKeywords]
  | cons keyword rest induction =>
      rcases keyword with ⟨name, value⟩
      rw [checkKeywords, List.map_cons, List.forall_mem_cons]
      cases found : positionOf? name inputs with
      | none => simp [positionOf?_eq_none_iff.mp found]
      | some position =>
          have known : name ∈ names inputs := by
            by_contra unknown
            rw [positionOf?_eq_none_iff.mpr unknown] at found
            cases found
          have taking : position < taken ↔ name ∈ names (inputs.take taken) :=
            lt_iff_of_positionOf? found
          rw [← induction]
          by_cases given : position < taken
          · simp [given, taking.mp given]
          · simp [given, known, mt taking.mpr given]

theorem fillIn_eq_ok_iff {parameters : List Parameter} :
    fillIn keywords parameters = .ok values ↔
      List.Forall₂ (fun parameter value => Json.lookup parameter.name keywords = some value)
        parameters values := by
  induction parameters generalizing values with
  | nil => simp [fillIn, eq_comm]
  | cons parameter rest induction =>
      rw [fillIn, List.forall₂_cons_left_iff]
      cases Json.lookup parameter.name keywords with
      | none => simp
      | some value =>
          simp only [← induction, Option.some.injEq]
          cases fillIn keywords rest with
          | error reason => simp
          | ok others => simp [eq_comm]

theorem merge_eq_ok_iff (given : keywords ≠ []) :
    merge inputs positional keywords = .ok merged ↔
      positional.length ≤ inputs.length ∧
        (∀ name ∈ keywords.map Prod.fst,
          name ∈ names inputs ∧ name ∉ names (inputs.take positional.length)) ∧
        ∃ values, merged = positional ++ values ∧
          List.Forall₂ (fun parameter value => Json.lookup parameter.name keywords = some value)
            (remaining inputs positional) values := by
  rw [merge, if_neg (by simpa using given), ← checkKeywords_eq_ok_iff]
  simp only [← fillIn_eq_ok_iff]
  by_cases room : positional.length ≤ inputs.length
  · rw [if_neg (Nat.not_lt.mpr room)]
    cases checkKeywords inputs positional.length keywords with
    | error reason => simp
    | ok checked =>
        rw [remaining]
        cases fillIn keywords (inputs.drop positional.length) with
        | error reason => simp
        | ok values => simp [room, eq_comm]
  · rw [if_pos (Nat.lt_of_not_le room)]
    simp [room]

/-! ## What becomes of the keywords -/

theorem mem_names_remaining (known : name ∈ names inputs)
    (untaken : name ∉ names (inputs.take positional.length)) :
    name ∈ names (remaining inputs positional) := by
  rw [← List.take_append_drop positional.length inputs, names, List.map_append,
    List.mem_append] at known
  exact known.resolve_left untaken

/-- The values of the parameters that are left to the keywords: each has the one filed under its
own name, and no keyword is passed over. Each keyword is used once, and there are as many
parameters as arguments, if those parameters have different names, and only then. -/
structure Uses (inputs : List Parameter) (positional : List Json)
    (keywords : List (String × Json)) (values : List Json) : Prop where
  filed : List.Forall₂ (fun parameter value => (parameter.name, value) ∈ keywords)
    (remaining inputs positional) values
  passed : ∀ keyword ∈ keywords, keyword ∈ (names (remaining inputs positional)).zip values
  once : (names (remaining inputs positional)).Nodup →
    ((names (remaining inputs positional)).zip values).Perm keywords
  count : (names (remaining inputs positional)).Nodup ↔
    inputs.length = positional.length + keywords.length

theorem uses_of_merge (distinct : (keywords.map Prod.fst).Nodup) (given : keywords ≠ [])
    (merges : merge inputs positional keywords = .ok merged) :
    merged.length = inputs.length ∧
      ∃ values, merged = positional ++ values ∧ Uses inputs positional keywords values := by
  rcases (merge_eq_ok_iff given).mp merges with ⟨room, known, values, rfl, found⟩
  have filed : List.Forall₂ (fun name value => (name, value) ∈ keywords)
      (names (remaining inputs positional)) values := by
    rw [names, List.forall₂_map_left_iff]
    exact found.imp fun _ _ => (Json.lookup_eq_some_iff distinct).mp
  have covered : ∀ keyword ∈ keywords, keyword.1 ∈ names (remaining inputs positional) := by
    intro keyword member
    have named := known keyword.1 (List.mem_map_of_mem member)
    exact mem_names_remaining named.1 named.2
  have passed := Json.mem_zip_of_covered distinct filed covered
  have listed : ((names (remaining inputs positional)).zip values).map Prod.fst =
      names (remaining inputs positional) :=
    List.map_fst_zip (Nat.le_of_eq filed.length_eq)
  have left : (names (remaining inputs positional)).length =
      inputs.length - positional.length := by
    rw [names, List.length_map, remaining, List.length_drop]
  refine ⟨?_, values, rfl, List.forall₂_map_left_iff.mp filed,
    fun keyword member => (passed keyword).mpr member, ?_, ?_⟩
  · rw [List.length_append, ← filed.length_eq]
    omega
  · intro different
    rw [← listed] at different
    have nodup := List.Nodup.of_map _ distinct
    exact (List.perm_ext_iff_of_nodup (List.Nodup.of_map _ different) nodup).mpr passed
  · have same : ∀ name, name ∈ names (remaining inputs positional) ↔
        name ∈ keywords.map Prod.fst := by
      intro name
      rw [← listed, List.mem_map, List.mem_map]
      simp only [passed]
    rw [nodup_iff_length_eq distinct same, List.length_map]
    omega

theorem length_of_coerce {arguments : List Json} {coerced : List AbiValue}
    (coerces : coerce inputs arguments = .ok coerced) : inputs.length = arguments.length := by
  rw [coerce] at coerces
  split at coerces
  · cases coerces
  · next count => exact Decidable.not_not.mp count

theorem count_of_encodeCall {entry : FunctionEntry} {data : Bytes}
    (distinct : (keywords.map Prod.fst).Nodup)
    (encoded : entry.encodeCall positional keywords = .ok data) :
    (∀ parameter ∈ remaining entry.inputs positional, parameter.name ∈ keywords.map Prod.fst) ∧
      ((names (remaining entry.inputs positional)).Nodup ↔
        entry.inputs.length = positional.length + keywords.length) := by
  rcases FunctionEntry.encodeCall_eq_ok_iff.mp encoded with ⟨_, encodes, _⟩
  rcases encode_eq_ok_iff.mp encodes with ⟨merged, _, merges, coerces, _⟩
  by_cases given : keywords = []
  · -- Without keywords the positional arguments are all there are, and coercion counts them.
    subst given
    cases merges
    have count := length_of_coerce coerces
    have none : remaining entry.inputs positional = [] :=
      List.drop_eq_nil_of_le (Nat.le_of_eq count)
    simp [none, names, count]
  · rcases uses_of_merge distinct given merges with ⟨_, values, _, uses⟩
    refine ⟨?_, uses.count⟩
    intro parameter member
    rcases Traversal.exists_of_mem_left uses.filed member with ⟨value, _, filed⟩
    exact List.mem_map_of_mem filed

/-- Merging keywords succeeds with a value for every parameter: the positional arguments as they
are, and behind them the keyword values, each parameter having the one filed under its own name.
It fails on a keyword that names no parameter or one given by position, and on a parameter that
is left without a value. Each value is used exactly once, and a call passes as many arguments as
were given, if the parameters left to the keywords have different names. -/
theorem keywords_used (distinct : (keywords.map Prod.fst).Nodup) :
    (keywords ≠ [] → ∀ merged, merge inputs positional keywords = .ok merged →
      merged.length = inputs.length ∧
        ∃ values, merged = positional ++ values ∧ Uses inputs positional keywords values) ∧
    (∀ name ∈ keywords.map Prod.fst,
      name ∉ names inputs ∨ name ∈ names (inputs.take positional.length) →
        ∃ reason, merge inputs positional keywords = .error reason) ∧
    (keywords ≠ [] → ∀ parameter ∈ remaining inputs positional,
      parameter.name ∉ keywords.map Prod.fst →
        ∃ reason, merge inputs positional keywords = .error reason) ∧
    ∀ (entry : FunctionEntry) (data : Bytes),
      entry.encodeCall positional keywords = .ok data →
        (∀ parameter ∈ remaining entry.inputs positional,
          parameter.name ∈ keywords.map Prod.fst) ∧
        ((names (remaining entry.inputs positional)).Nodup ↔
          entry.inputs.length = positional.length + keywords.length) := by
  refine ⟨fun given merged => uses_of_merge distinct given, ?_, ?_,
    fun entry data => count_of_encodeCall distinct⟩
  · intro name member misplaced
    have given : keywords ≠ [] := List.ne_nil_of_mem (List.mem_map.mp member).choose_spec.1
    apply Traversal.exists_error_of_ne_ok
    intro merged merges
    have placed := ((merge_eq_ok_iff given).mp merges).2.1 name member
    exact misplaced.elim (fun unknown => unknown placed.1) placed.2
  · intro given parameter member unnamed
    apply Traversal.exists_error_of_ne_ok
    intro merged merges
    rcases uses_of_merge distinct given merges with ⟨_, values, _, uses⟩
    rcases Traversal.exists_of_mem_left uses.filed member with ⟨value, _, filed⟩
    exact unnamed (List.mem_map_of_mem filed)

def transferInputs : List Parameter :=
  [⟨"to", "address", none, []⟩, ⟨"memo", "string", none, []⟩, ⟨"amount", "uint256", none, []⟩]

def transferKeywords : List (String × Json) :=
  [("amount", .natural 5), ("memo", .string "rent")]

theorem keywords_used_transfer :
    (transferKeywords.map Prod.fst).Nodup ∧ transferKeywords ≠ [] ∧
      merge transferInputs [.string "0x01"] transferKeywords =
        .ok [.string "0x01", .string "rent", .natural 5] ∧
      [("memo", .string "rent"), ("amount", .natural 5)].Perm transferKeywords ∧
      transferInputs.length = 1 + transferKeywords.length := by
  have distinct : (transferKeywords.map Prod.fst).Nodup := by decide
  have given : transferKeywords ≠ [] := List.cons_ne_nil _ _
  have merges : merge transferInputs [.string "0x01"] transferKeywords =
      .ok [.string "0x01", .string "rent", .natural 5] := by rfl
  have different : (names (remaining transferInputs [.string "0x01"])).Nodup := by decide
  rcases (keywords_used distinct).1 given _ merges with ⟨_, values, split, uses⟩
  cases split
  exact ⟨distinct, given, merges, uses.once different, uses.count.mp different⟩

def getter : FunctionEntry :=
  ⟨"cells", [⟨"", "uint8", none, []⟩, ⟨"", "uint8", none, []⟩], [], .view⟩

/-- One value, filed under the empty name, is passed for both keys of the getter. -/
theorem unnamed_filled_twice :
    merge getter.inputs [] [("", .natural 7)] = .ok [.natural 7, .natural 7] ∧
      (∃ data, getter.encodeCall [] [("", .natural 7)] = .ok data) ∧
      getter.inputs.length ≠ 0 + [("", Json.natural 7)].length := by
  have merges : merge getter.inputs [] [("", .natural 7)] = .ok [.natural 7, .natural 7] := by rfl
  have coerces : coerce getter.inputs [.natural 7, .natural 7] =
      .ok [.uint 7 8, .uint 7 8] := by rfl
  have encodes := encode_eq_ok_iff.mpr ⟨_, _, merges, coerces, rfl⟩
  exact ⟨merges, ⟨_, FunctionEntry.encodeCall_eq_ok_iff.mpr ⟨_, encodes, rfl⟩⟩, by decide⟩

end Arguments

end ContractClient
