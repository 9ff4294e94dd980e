import ContractClient.Path

/-! Paths of the files in a directory. A name without a slash stands for one file of the
directory, and different names stand for different files, wherever the directory is. -/

namespace ContractClient

namespace Text

variable {separator : Char}

theorem splitOn_of_not_mem {text : List Char} (absent : separator ∉ text) :
    splitOn separator text = [text] := by
  induction text with
  | nil => rfl
  | cons character rest induction =>
      rw [List.mem_cons, not_or] at absent
      rw [splitOn, if_neg (Ne.symm absent.1), induction absent.2]

theorem splitOn_ne_nil (text : List Char) : splitOn separator text ≠ [] := by
  cases text with
  | nil => exact List.cons_ne_nil _ _
  | cons character rest =>
      rw [splitOn]
      split
      · exact List.cons_ne_nil _ _
      · split <;> exact List.cons_ne_nil _ _

theorem splitOn_append (front back : List Char) :
    splitOn separator (front ++ separator :: back) =
      splitOn separator front ++ splitOn separator back := by
  induction front with
  | nil => exact if_pos rfl
  | cons character rest induction =>
      rw [List.cons_append, splitOn, splitOn, induction]
      split
      · rfl
      · cases pieces : splitOn separator rest with
        | nil => exact absurd pieces (splitOn_ne_nil rest)
        | cons piece others => rfl

end Text

namespace Path

variable {isDirectory : Place → Bool}

theorem follow_append (place : Place) (first second : List (List Char)) :
    follow isDirectory place (first ++ second) =
      (follow isDirectory place first).bind fun reached => follow isDirectory reached second := by
  induction first generalizing place with
  | nil => rfl
  | cons part rest induction =>
      rw [List.cons_append, follow, follow]
      split
      · rfl
      · split
        · exact induction place
        · split
          · exact induction place.dropLast
          · exact induction (place ++ [part])

/-- A name that may stand for a file of a directory. -/
structure IsName (name : String) : Prop where
  single : '/' ∉ name.toList
  proper : name.toList ≠ [] ∧ name.toList ≠ ['.'] ∧ name.toList ≠ ['.', '.']

theorem parts_join (directory : String) {name : String} (named : IsName name) :
    parts (join directory name) = parts directory ++ [name.toList] := by
  have relative : name.toList.head? ≠ some '/' := fun absolute =>
    named.single (List.mem_of_mem_head? absolute)
  rw [join, if_neg relative, parts, parts, ← Text.splitOn_of_not_mem named.single,
    ← Text.splitOn_append]
  simp

theorem follow_join {directory name : String} (named : IsName name) {place : Place}
    (reached : follow isDirectory [] (parts (join directory name)) = some place) :
    ∃ base, follow isDirectory [] (parts directory) = some base ∧ place = base ++ [name.toList] := by
  rw [parts_join directory named, follow_append] at reached
  rcases Option.bind_eq_some_iff.mp reached with ⟨base, found, last⟩
  refine ⟨base, found, ?_⟩
  rcases named.proper with ⟨nonempty, dot, dots⟩
  simp only [follow, nonempty, dot, dots, or_self, if_false] at last
  split at last
  · cases last
  · exact (Option.some.inj last).symm

/-- Two paths lead to different places, however the directories are laid out. -/
def Apart (first second : String) : Prop :=
  ∀ isDirectory place other, follow isDirectory [] (parts first) = some place →
    follow isDirectory [] (parts second) = some other → place ≠ other

theorem apart_join (directory : String) {first second : String} (named : IsName first)
    (alsoNamed : IsName second) (different : first ≠ second) :
    Apart (join directory first) (join directory second) := by
  intro isDirectory place other reached alsoReached same
  rcases follow_join named reached with ⟨base, found, rfl⟩
  rcases follow_join alsoNamed alsoReached with ⟨alike, alsoFound, rfl⟩
  cases found.symm.trans alsoFound
  have names := List.append_cancel_left same
  exact different (String.toList_injective (List.cons.inj names).1)

end Path

end ContractClient
