import ContractClient.Proofs.Overloads

/-! Interfaces that change. A call that a name is resolved for, and that is encoded with as many
arguments as parameters, is never taken over by a function that is declared later: the name goes
on to mean what it meant, or it is refused as ambiguous. The order of declarations decides
nothing either; it is only seen in the lists of candidates. -/

namespace ContractClient

namespace Interface

variable {interface earlier later first second : Interface} {name : String} {positional : List Json}
  {keywords : List (String × Json)} {chosen added : FunctionEntry}

/-! ## A further declaration -/

/-- The later interface declares one more function under the name, at any place among those that
the earlier one declares under it. -/
def DeclaresAlso (earlier later : Interface) (name : String) (added : FunctionEntry) : Prop :=
  ∃ before after, earlier.functionsNamed name = before ++ after ∧
    later.functionsNamed name = before ++ added :: after

theorem declaresAlso_of_insert (added : FunctionEntry) {before after : List FunctionEntry}
    (split : interface.functions = before ++ after) :
    DeclaresAlso interface { interface with functions := before ++ added :: after } added.name
      added := by
  refine ⟨before.filter fun entry => entry.name == added.name,
    after.filter fun entry => entry.name == added.name, ?_, ?_⟩
  · rw [functionsNamed, split, List.filter_append]
  · simp [functionsNamed]

theorem two_le_length_of_declaresAlso (declares : DeclaresAlso earlier later name added)
    (declared : earlier.functionsNamed name ≠ []) : 2 ≤ (later.functionsNamed name).length := by
  rcases declares with ⟨before, after, former, latter⟩
  have some := List.length_pos_of_ne_nil declared
  rw [former, List.length_append] at some
  rw [latter, List.length_append, List.length_cons]
  omega

theorem perm_acceptable_of_declaresAlso (declares : DeclaresAlso earlier later name added) :
    (later.acceptable name positional keywords).Perm
      (if added.Acceptable positional keywords then
        added :: earlier.acceptable name positional keywords
      else earlier.acceptable name positional keywords) := by
  rcases declares with ⟨before, after, former, latter⟩
  rw [acceptable, acceptable, former, latter]
  apply (List.perm_middle.filter _).trans
  rw [List.filter_cons]
  by_cases accepted : added.Acceptable positional keywords
  · simp [accepted]
  · simp [accepted]

/-! ## What a call comes to mean -/

theorem resolveFunction_of_several (shared : 2 ≤ (interface.functionsNamed name).length)
    (several : 2 ≤ (interface.acceptable name positional keywords).length) :
    interface.resolveFunction (.plain name) positional keywords =
      .error (.ambiguousOverload name
        ((interface.acceptable name positional keywords).map FunctionEntry.signature)) := by
  rw [resolveFunction_of_shared shared]
  split
  · next one => simp [one] at several
  · next none => simp [none] at several
  · rfl

theorem acceptable_eq_of_resolveFunction
    (resolved : earlier.resolveFunction (.plain name) positional keywords = .ok chosen)
    (accepted : chosen.Acceptable positional keywords) :
    earlier.acceptable name positional keywords = [chosen] := by
  by_cases shared : 2 ≤ (earlier.functionsNamed name).length
  · rw [resolveFunction_of_shared shared] at resolved
    split at resolved
    · next only =>
        cases resolved
        exact only
    · cases resolved
    · cases resolved
  · rw [resolveFunction] at resolved
    rcases declared : earlier.functionsNamed name with _ | ⟨only, _ | ⟨other, rest⟩⟩
    · simp [declared] at resolved
    · simp only [declared, Except.ok.injEq] at resolved
      subst resolved
      simp [acceptable, declared, accepted]
    · simp [declared] at shared

/-- The result of resolving a name that meant `chosen` before `added` was declared under it. -/
structure Undiverted (name : String) (positional : List Json) (keywords : List (String × Json))
    (chosen added : FunctionEntry) (result : Except ContractError FunctionEntry) : Prop where
  settled : ¬added.Acceptable positional keywords ∧ result = .ok chosen ∨
    added.Acceptable positional keywords ∧
      ∃ candidates, candidates.Perm [chosen.signature, added.signature] ∧
        result = .error (.ambiguousOverload name candidates)
  kept : result ≠ .ok added
  found : ∀ kind text, result ≠ .error (.notFound kind text)
  matched : ∀ other given candidates, result ≠ .error (.noMatchingOverload other given candidates)

theorem undiverted_of_declaresAlso (declares : DeclaresAlso earlier later name added)
    (resolved : earlier.resolveFunction (.plain name) positional keywords = .ok chosen)
    (accepted : chosen.Acceptable positional keywords) :
    Undiverted name positional keywords chosen added
      (later.resolveFunction (.plain name) positional keywords) := by
  have only := acceptable_eq_of_resolveFunction resolved accepted
  have declared : earlier.functionsNamed name ≠ [] := by
    intro none
    simp [acceptable, none] at only
  have shared := two_le_length_of_declaresAlso declares declared
  have permuted : (later.acceptable name positional keywords).Perm
      (if added.Acceptable positional keywords then [added, chosen] else [chosen]) :=
    only ▸ perm_acceptable_of_declaresAlso declares
  by_cases rival : added.Acceptable positional keywords
  · rw [if_pos rival] at permuted
    have several : 2 ≤ (later.acceptable name positional keywords).length := by
      simp [permuted.length_eq]
    have outcome := resolveFunction_of_several shared several
    rw [outcome]
    refine ⟨.inr ⟨rival, _, ?_, rfl⟩, by simp, by simp, by simp⟩
    exact (permuted.map FunctionEntry.signature).trans (.swap _ _ [])
  · rw [if_neg rival, List.perm_singleton] at permuted
    have outcome : later.resolveFunction (.plain name) positional keywords = .ok chosen := by
      rw [resolveFunction_of_shared shared, permuted]
    rw [outcome]
    refine ⟨.inl ⟨rival, rfl⟩, ?_, by simp, by simp⟩
    intro same
    cases same
    exact rival accepted

/-! ## Declarations in another order -/

/-- Results of a resolution that differ at most in the order of the candidates that they list. -/
inductive ResolvedAlike : Except ContractError FunctionEntry →
    Except ContractError FunctionEntry → Prop
  | chosen {entry : FunctionEntry} : ResolvedAlike (.ok entry) (.ok entry)
  | unmatched {name : String} {given : Nat} {candidates others : List String}
      (reordered : candidates.Perm others) :
      ResolvedAlike (.error (.noMatchingOverload name given candidates))
        (.error (.noMatchingOverload name given others))
  | ambiguous {name : String} {candidates others : List String}
      (reordered : candidates.Perm others) :
      ResolvedAlike (.error (.ambiguousOverload name candidates))
        (.error (.ambiguousOverload name others))

theorem resolvedAlike_of_perm (shared : 2 ≤ (first.functionsNamed name).length)
    (reordered : (first.functionsNamed name).Perm (second.functionsNamed name)) :
    ResolvedAlike (first.resolveFunction (.plain name) positional keywords)
      (second.resolveFunction (.plain name) positional keywords) := by
  have alsoShared : 2 ≤ (second.functionsNamed name).length := reordered.length_eq ▸ shared
  have acceptables : (first.acceptable name positional keywords).Perm
      (second.acceptable name positional keywords) := reordered.filter _
  rcases found : first.acceptable name positional keywords with _ | ⟨only, _ | ⟨other, rest⟩⟩
  · rw [found, List.nil_perm] at acceptables
    rw [resolveFunction_of_shared shared, resolveFunction_of_shared alsoShared, found, acceptables]
    exact .unmatched (reordered.map FunctionEntry.signature)
  · rw [found, List.singleton_perm] at acceptables
    rw [resolveFunction_of_shared shared, resolveFunction_of_shared alsoShared, found,
      ← acceptables]
    exact .chosen
  · have several : 2 ≤ (first.acceptable name positional keywords).length := by
      simp [found]
    have alsoSeveral : 2 ≤ (second.acceptable name positional keywords).length :=
      acceptables.length_eq ▸ several
    rw [resolveFunction_of_several shared several, resolveFunction_of_several alsoShared alsoSeveral]
    exact .ambiguous (acceptables.map FunctionEntry.signature)

/-- Declaring a further function under a name never makes a call reach that function which was
encoded for another one before, with as many arguments as parameters; and declarations of a
shared name in another order mean the same function or are refused in the same way. -/
theorem overloads_undiverted (name : String) (positional : List Json)
    (keywords : List (String × Json)) :
    (∀ {earlier later : Interface} {chosen added : FunctionEntry},
      DeclaresAlso earlier later name added →
      earlier.resolveFunction (.plain name) positional keywords = .ok chosen →
      (∃ data, chosen.encodeCall positional keywords = .ok data) →
      chosen.inputs.length = positional.length + keywords.length →
        Undiverted name positional keywords chosen added
          (later.resolveFunction (.plain name) positional keywords)) ∧
    ∀ {first second : Interface}, 2 ≤ (first.functionsNamed name).length →
      (first.functionsNamed name).Perm (second.functionsNamed name) →
        ResolvedAlike (first.resolveFunction (.plain name) positional keywords)
          (second.resolveFunction (.plain name) positional keywords) := by
  constructor
  · intro earlier later chosen added declares resolved encoded count
    exact undiverted_of_declaresAlso declares resolved ⟨count, encoded⟩
  · intro first second shared reordered
    exact resolvedAlike_of_perm shared reordered

def setter (type : String) : FunctionEntry :=
  ⟨"set", [⟨"value", type, none, []⟩], [], .nonpayable⟩

def declaring (functions : List FunctionEntry) : Interface :=
  { empty with functions }

theorem overloads_undiverted_setters :
    (declaring [setter "uint8"]).resolveFunction (.plain "set") [.natural 5] [] =
      .ok (setter "uint8") ∧
    (∃ candidates, candidates.Perm ["set(uint8)", "set(uint16)"] ∧
      (declaring [setter "uint16", setter "uint8"]).resolveFunction (.plain "set")
        [.natural 5] [] = .error (.ambiguousOverload "set" candidates)) ∧
    ResolvedAlike
      ((declaring [setter "uint16", setter "uint8"]).resolveFunction (.plain "set")
        [.natural 5] [])
      ((declaring [setter "uint8", setter "uint16"]).resolveFunction (.plain "set")
        [.natural 5] []) := by
  have stable := overloads_undiverted "set" [.natural 5] []
  have front : (declaring [setter "uint8"]).functions = [] ++ [setter "uint8"] := rfl
  have declares : DeclaresAlso (declaring [setter "uint8"])
      (declaring [setter "uint16", setter "uint8"]) "set" (setter "uint16") :=
    declaresAlso_of_insert (setter "uint16") front
  have resolved : (declaring [setter "uint8"]).resolveFunction (.plain "set") [.natural 5] [] =
      .ok (setter "uint8") := rfl
  have accepted : (setter "uint8").Acceptable [.natural 5] [] := by decide
  have rival : (setter "uint16").Acceptable [.natural 5] [] := by decide
  have undiverted := stable.1 declares resolved accepted.2 accepted.1
  refine ⟨resolved, ?_, ?_⟩
  · rcases undiverted.settled with refused | ambiguous
    · exact absurd rival refused.1
    · exact ambiguous.2
  · apply stable.2
    · decide
    · exact .swap (setter "uint8") (setter "uint16") []

end Interface

end ContractClient
