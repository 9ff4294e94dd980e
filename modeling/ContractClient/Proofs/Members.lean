import ContractClient.Json.Basic
import Mathlib.Data.Char
import Mathlib.Data.List.Lex
import Mathlib.Data.List.Nodup
import Mathlib.Data.List.Perm.Subperm

/-! Values under names. In a list of members a name finds the first value that it stands
before. Where every name stands once, finding is membership, and members may be counted by
their names. -/

namespace ContractClient

theorem nodup_iff_length_eq {texts keys : List String} (distinct : keys.Nodup)
    (same : ∀ text, text ∈ texts ↔ text ∈ keys) : texts.Nodup ↔ texts.length = keys.length := by
  constructor
  · intro nodup
    exact ((List.perm_ext_iff_of_nodup nodup distinct).mpr same).length_eq
  · intro count
    have within : keys.Subperm texts :=
      List.subperm_of_subset distinct fun text member => (same text).mpr member
    have permuted : keys.Perm texts := within.perm_of_length_le (Nat.le_of_eq count)
    exact permuted.nodup_iff.mp distinct

namespace Json

variable {name : String} {value : α} {members : List (String × α)}

theorem lookup_map (name : String) (change : α → β) (members : List (String × α)) :
    lookup name (members.map fun member => (member.1, change member.2)) =
      (lookup name members).map change := by
  induction members with
  | nil => rfl
  | cons member rest induction =>
      rw [List.map_cons, lookup, lookup, induction]
      split <;> rfl

theorem lookup_eq_none_iff : lookup name members = none ↔ name ∉ members.map Prod.fst := by
  induction members with
  | nil => exact iff_of_true rfl List.not_mem_nil
  | cons member rest induction =>
      rw [lookup, List.map_cons, List.mem_cons, not_or]
      by_cases same : name = member.1
      · rw [if_pos same]
        exact iff_of_false (Option.some_ne_none member.2) fun absent => absent.1 same
      · rw [if_neg same, induction, and_iff_right same]

theorem mem_of_lookup (found : lookup name members = some value) : (name, value) ∈ members := by
  induction members with
  | nil => cases found
  | cons member rest induction =>
      rw [lookup] at found
      split at found
      · next same =>
          cases found
          exact same ▸ List.mem_cons_self
      · exact List.mem_cons_of_mem _ (induction found)

theorem lookup_eq_some_iff (distinct : (members.map Prod.fst).Nodup) :
    lookup name members = some value ↔ (name, value) ∈ members := by
  induction members with
  | nil => simp [lookup]
  | cons member rest induction =>
      rcases member with ⟨other, held⟩
      have parts := List.nodup_cons.mp distinct
      rw [lookup, List.mem_cons, Prod.mk.injEq]
      by_cases same : name = other
      · subst same
        have absent : (name, value) ∉ rest := fun member =>
          parts.1 (List.mem_map.mpr ⟨(name, value), member, rfl⟩)
        simp [absent, eq_comm]
      · simp [same, induction parts.2]

theorem lookup_swap {other held : String} {found : α} (different : other ≠ held) :
    lookup name ((held, found) :: (other, value) :: members) =
      lookup name ((other, value) :: (held, found) :: members) := by
  simp only [lookup]
  by_cases sought : name = held
  · have unequal : name ≠ other := fun same => different (same.symm.trans sought)
    rw [if_pos sought, if_neg unequal, if_pos sought]
  · rw [if_neg sought, if_neg sought]

theorem lookup_insertMember (name other : String) (value : α) (members : List (String × α)) :
    lookup name (insertMember other value members) =
      if name = other then some value else lookup name members := by
  induction members with
  | nil => rfl
  | cons member rest induction =>
      rcases member with ⟨held, found⟩
      rw [insertMember]
      by_cases same : other = held
      · subst same
        rw [if_pos rfl, lookup, lookup]
        by_cases sought : name = other <;> simp [sought]
      · rw [if_neg same]
        by_cases earlier : nameBefore other held = true
        · rw [if_pos earlier, lookup]
        · rw [if_neg earlier, lookup, induction]
          exact lookup_swap same

/-! ## Lists of pairs as members -/

theorem mem_zip_of_covered {names : List String} {values : List α}
    (distinct : (members.map Prod.fst).Nodup)
    (filed : List.Forall₂ (fun name value => (name, value) ∈ members) names values)
    (covered : ∀ member ∈ members, member.1 ∈ names) :
    ∀ member, member ∈ names.zip values ↔ member ∈ members := by
  have listed : (names.zip values).map Prod.fst = names :=
    List.map_fst_zip (Nat.le_of_eq filed.length_eq)
  intro member
  constructor
  · exact List.forall₂_zip filed
  · intro held
    have name := covered member held
    rw [← listed] at name
    rcases List.mem_map.mp name with ⟨pair, inside, same⟩
    have equal := List.inj_on_of_nodup_map distinct (List.forall₂_zip filed inside) held same
    exact equal ▸ inside

theorem perm_insertMember (absent : name ∉ members.map Prod.fst) :
    (insertMember name value members).Perm ((name, value) :: members) := by
  induction members with
  | nil => exact .refl _
  | cons member rest induction =>
      rcases member with ⟨other, held⟩
      rw [List.map_cons, List.mem_cons, not_or] at absent
      rw [insertMember, if_neg absent.1]
      split
      · exact .refl _
      · exact ((induction absent.2).cons _).trans (.swap _ _ _)

theorem perm_foldl_insertMember {pairs : List (String × α)} (members : List (String × α))
    (distinct : ((pairs ++ members).map Prod.fst).Nodup) :
    (pairs.foldl (fun members pair => insertMember pair.1 pair.2 members) members).Perm
      (pairs ++ members) := by
  induction pairs generalizing members with
  | nil => exact .refl _
  | cons pair rest induction =>
      rw [List.cons_append, List.map_cons, List.map_append, List.nodup_cons] at distinct
      have absent : pair.1 ∉ members.map Prod.fst := fun member =>
        distinct.1 (List.mem_append_right _ member)
      have inserted : (insertMember pair.1 pair.2 members).Perm (pair :: members) :=
        perm_insertMember absent
      have moved : (rest ++ insertMember pair.1 pair.2 members).Perm (pair :: rest ++ members) :=
        (inserted.append_left rest).trans List.perm_middle
      have still : ((rest ++ insertMember pair.1 pair.2 members).map Prod.fst).Nodup := by
        rw [(moved.map Prod.fst).nodup_iff, List.cons_append, List.map_cons, List.map_append,
          List.nodup_cons]
        exact distinct
      rw [List.foldl_cons]
      exact (induction _ still).trans moved

theorem perm_membersOf {pairs : List (String × α)} (distinct : (pairs.map Prod.fst).Nodup) :
    (membersOf pairs).Perm pairs := by
  have all := perm_foldl_insertMember [] (by rwa [List.append_nil])
  rwa [List.append_nil] at all

/-! ## The order of names

Filing pairs under their names leaves each name once, in the order of texts, so members that
stand in this order are their own members. -/

theorem comesBefore_iff (left right : List Char) :
    comesBefore left right = true ↔ left < right := by
  induction left generalizing right with
  | nil => cases right <;> simp [comesBefore]
  | cons first rest induction =>
      rcases right with _ | ⟨other, others⟩
      · simp [comesBefore]
      · have codes : first.toNat < other.toNat ↔ first < other := Iff.rfl
        simp [comesBefore, List.cons_lt_cons_iff, induction, codes]

section NameBefore

variable {left middle right : String}

theorem nameBefore_irrefl (name : String) : ¬ nameBefore name name = true := by
  rw [nameBefore, comesBefore_iff]
  exact lt_irrefl _

theorem nameBefore_trans (first : nameBefore left middle = true)
    (second : nameBefore middle right = true) : nameBefore left right = true := by
  rw [nameBefore, comesBefore_iff] at first second ⊢
  exact first.trans second

theorem nameBefore_of_not (different : left ≠ right) (later : ¬ nameBefore left right = true) :
    nameBefore right left = true := by
  rw [nameBefore, comesBefore_iff] at later ⊢
  exact lt_of_le_of_ne (not_lt.mp later) fun same => different (String.toList_inj.mp same.symm)

end NameBefore

def Ordered (members : List (String × α)) : Prop :=
  members.Pairwise fun member other => nameBefore member.1 other.1 = true

instance (members : List (String × α)) : Decidable (Ordered members) :=
  inferInstanceAs (Decidable (members.Pairwise _))

theorem mem_insertMember {member : String × α} (inside : member ∈ insertMember name value members) :
    member = (name, value) ∨ member ∈ members := by
  induction members with
  | nil => simpa [insertMember] using inside
  | cons first rest induction =>
      rcases first with ⟨other, held⟩
      rw [insertMember] at inside
      split at inside
      · rcases List.mem_cons.mp inside with same | behind
        · exact .inl same
        · exact .inr (List.mem_cons_of_mem _ behind)
      · split at inside
        · exact List.mem_cons.mp inside
        · rcases List.mem_cons.mp inside with same | behind
          · exact .inr (same ▸ List.mem_cons_self)
          · exact (induction behind).imp_right (List.mem_cons_of_mem _)

theorem ordered_insertMember (ordered : Ordered members) :
    Ordered (insertMember name value members) := by
  induction members with
  | nil => exact List.pairwise_singleton _ _
  | cons first rest induction =>
      rcases first with ⟨other, held⟩
      rcases List.pairwise_cons.mp ordered with ⟨least, others⟩
      rw [insertMember]
      split
      · next same => exact List.pairwise_cons.mpr ⟨same ▸ least, others⟩
      · next different =>
          split
          · next earlier =>
              refine List.pairwise_cons.mpr ⟨?_, ordered⟩
              intro member inside
              rcases List.mem_cons.mp inside with rfl | behind
              · exact earlier
              · exact nameBefore_trans earlier (least member behind)
          · next later =>
              refine List.pairwise_cons.mpr ⟨?_, induction others⟩
              intro member inside
              rcases mem_insertMember inside with rfl | held
              · exact nameBefore_of_not different later
              · exact least member held

theorem insertMember_of_last (last : ∀ member ∈ members, nameBefore member.1 name = true) :
    insertMember name value members = members ++ [(name, value)] := by
  induction members with
  | nil => rfl
  | cons first rest induction =>
      rcases first with ⟨other, held⟩
      have before : nameBefore other name = true := last (other, held) List.mem_cons_self
      have different : name ≠ other := fun same => nameBefore_irrefl name (same ▸ before)
      have later : ¬ nameBefore name other = true := fun earlier =>
        nameBefore_irrefl name (nameBefore_trans earlier before)
      rw [insertMember, if_neg different, if_neg later,
        induction fun member inside => last member (List.mem_cons_of_mem _ inside)]
      rfl

theorem foldl_insertMember_of_ordered {pairs : List (String × α)} (members : List (String × α))
    (ordered : Ordered (members ++ pairs)) :
    pairs.foldl (fun members pair => insertMember pair.1 pair.2 members) members =
      members ++ pairs := by
  induction pairs generalizing members with
  | nil => rw [List.foldl_nil, List.append_nil]
  | cons pair rest induction =>
      have last : ∀ member ∈ members, nameBefore member.1 pair.1 = true := fun member inside =>
        (List.pairwise_append.mp ordered).2.2 member inside pair List.mem_cons_self
      have moved : Ordered (members ++ [pair] ++ rest) := by
        rwa [List.append_assoc]
      rw [List.foldl_cons, insertMember_of_last last, induction _ moved, List.append_assoc]
      rfl

theorem membersOf_of_ordered (ordered : Ordered members) : membersOf members = members :=
  foldl_insertMember_of_ordered [] ordered

theorem ordered_membersOf (pairs : List (String × α)) : Ordered (membersOf pairs) :=
  List.foldlRecOn pairs _ List.Pairwise.nil fun _ ordered _ _ => ordered_insertMember ordered

theorem mem_of_mem_membersOf {pairs : List (String × α)} :
    ∀ member ∈ membersOf pairs, member ∈ pairs :=
  List.foldlRecOn (motive := fun members => ∀ member ∈ members, member ∈ pairs) pairs _
    (fun _ inside => absurd inside List.not_mem_nil)
    fun _ held _ listed member inside =>
      (mem_insertMember inside).elim (fun same => same ▸ listed) (held member)

end Json

end ContractClient
