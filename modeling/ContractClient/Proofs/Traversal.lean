import Mathlib.Data.List.Forall2

/-! Steps that can fail, and traversals: a step taken for every element of a list
until one fails. A traversal succeeds exactly when every step does, and its
results stand beside the elements they came from. -/

namespace ContractClient.Traversal

theorem map_eq_ok_iff {build : α → β} {found : Except ε α} {result : β} :
    found.map build = .ok result ↔ ∃ value, found = .ok value ∧ result = build value := by
  cases found with
  | error reason => simp [Except.map]
  | ok value => simp [Except.map, eq_comm]

theorem bind_eq_ok_iff {step : α → Except ε β} {found : Except ε α} {result : β} :
    found.bind step = .ok result ↔ ∃ value, found = .ok value ∧ step value = .ok result := by
  cases found with
  | error reason => simp [Except.bind]
  | ok value => simp [Except.bind]

theorem bind_eq_error_iff {step : α → Except ε β} {found : Except ε α} {reason : ε} :
    found.bind step = .error reason ↔
      found = .error reason ∨ ∃ value, found = .ok value ∧ step value = .error reason := by
  cases found with
  | error other => simp [Except.bind]
  | ok value => simp [Except.bind]

theorem map_eq_error_iff {build : α → β} {found : Except ε α} {reason : ε} :
    found.map build = .error reason ↔ found = .error reason := by
  cases found with
  | error other => simp [Except.map]
  | ok value => simp [Except.map]

theorem exists_error_of_ne_ok {found : Except ε α} (never : ∀ result, found ≠ .ok result) :
    ∃ reason, found = .error reason := by
  cases found with
  | error reason => exact ⟨reason, rfl⟩
  | ok result => exact absurd rfl (never result)

theorem guard_eq_ok_iff {test : Prop} [Decidable test] {found result : α} {reason : ε} :
    (if test then Except.ok found else .error reason) = .ok result ↔ test ∧ result = found := by
  by_cases passed : test
  · simp [passed, eq_comm]
  · simp [passed]

theorem mapM_eq_ok_iff {step : α → Except ε β} {inputs : List α} {results : List β} :
    inputs.mapM step = .ok results ↔
      List.Forall₂ (fun input result => step input = .ok result) inputs results := by
  induction inputs generalizing results with
  | nil =>
      rw [List.mapM_nil, List.forall₂_nil_left_iff]
      exact ⟨fun equal => (Except.ok.inj equal).symm, fun equal => equal ▸ rfl⟩
  | cons input rest induction =>
      rw [List.mapM_cons, List.forall₂_cons_left_iff]
      constructor
      · intro taken
        cases first : step input with
        | error reason => rw [first] at taken; cases taken
        | ok result =>
            cases others : rest.mapM step with
            | error reason => rw [first, others] at taken; cases taken
            | ok found =>
                rw [first, others] at taken
                cases taken
                exact ⟨result, found, rfl, induction.mp others, rfl⟩
      · rintro ⟨result, found, first, others, rfl⟩
        rw [first, induction.mpr others]
        rfl

theorem mapM_eq_error_iff {step : α → Except ε β} {inputs : List α} {reason : ε} :
    inputs.mapM step = .error reason ↔
      ∃ before input after results, inputs = before ++ input :: after ∧
        List.Forall₂ (fun input result => step input = .ok result) before results ∧
        step input = .error reason := by
  induction inputs with
  | nil =>
      rw [List.mapM_nil]
      constructor
      · nofun
      · rintro ⟨before, input, after, results, split, _⟩
        simp at split
  | cons input rest induction =>
      rw [List.mapM_cons]
      change (step input).bind (fun result => (rest.mapM step).bind fun results =>
        .ok (result :: results)) = .error reason ↔ _
      rw [bind_eq_error_iff]
      constructor
      · rintro (failed | ⟨result, taken, failed⟩)
        · exact ⟨[], input, rest, [], rfl, .nil, failed⟩
        · rcases bind_eq_error_iff.mp failed with failed | ⟨_, _, never⟩
          · rcases induction.mp failed with ⟨before, other, after, results, split, earlier, fails⟩
            exact ⟨input :: before, other, after, result :: results, by rw [split]; rfl,
              .cons taken earlier, fails⟩
          · cases never
      · rintro ⟨before, other, after, results, split, earlier, fails⟩
        cases earlier with
        | nil =>
            cases split
            exact .inl fails
        | @cons _ result before results taken earlier =>
            cases split
            have failed := induction.mpr ⟨before, other, after, results, rfl, earlier, fails⟩
            exact .inr ⟨result, taken, bind_eq_error_iff.mpr (.inl failed)⟩

theorem mapM_eq_some_iff {step : α → Option β} {inputs : List α} {results : List β} :
    inputs.mapM step = some results ↔
      List.Forall₂ (fun input result => step input = some result) inputs results := by
  induction inputs generalizing results with
  | nil => simp [eq_comm]
  | cons input rest induction =>
      rw [List.mapM_cons, List.forall₂_cons_left_iff]
      simp only [Option.bind_eq_bind, Option.bind_eq_some_iff, induction, Option.pure_def,
        Option.some.injEq]
      constructor
      · rintro ⟨result, first, found, others, rfl⟩
        exact ⟨result, found, first, others, rfl⟩
      · rintro ⟨result, found, first, others, rfl⟩
        exact ⟨result, first, found, others, rfl⟩

theorem exists_of_mem_left {Related : α → β → Prop} {lefts : List α} {rights : List β}
    (related : List.Forall₂ Related lefts rights) {left : α} (member : left ∈ lefts) :
    ∃ right ∈ rights, Related left right := by
  induction related with
  | nil => cases member
  | @cons _ right _ _ head _ induction =>
      rcases List.mem_cons.mp member with rfl | member
      · exact ⟨right, by simp, head⟩
      · rcases induction member with ⟨right, inside, holds⟩
        exact ⟨right, by simp [inside], holds⟩

theorem exists_of_mem_right {Related : α → β → Prop} {lefts : List α} {rights : List β}
    (related : List.Forall₂ Related lefts rights) {right : β} (member : right ∈ rights) :
    ∃ left ∈ lefts, Related left right := by
  induction related with
  | nil => cases member
  | @cons left _ _ _ head _ induction =>
      rcases List.mem_cons.mp member with rfl | member
      · exact ⟨left, by simp, head⟩
      · rcases induction member with ⟨left, inside, holds⟩
        exact ⟨left, by simp [inside], holds⟩

theorem exists_mem_zip {lefts : List α} {rights : List β} (count : lefts.length = rights.length)
    {left : α} (member : left ∈ lefts) : ∃ right, (left, right) ∈ lefts.zip rights := by
  have beside : List.Forall₂ (fun left right => (left, right) ∈ lefts.zip rights) lefts rights :=
    List.forall₂_iff_zip.mpr ⟨count, fun paired => paired⟩
  rcases exists_of_mem_left beside member with ⟨right, _, paired⟩
  exact ⟨right, paired⟩

end ContractClient.Traversal
