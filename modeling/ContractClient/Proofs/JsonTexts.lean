import ContractClient.Json.Reader
import ContractClient.Json.Writer
import ContractClient.Proofs.JsonNumbers
import ContractClient.Proofs.Members

/-! Texts of JSON values. A value is read back from the text that is written for it, as deep
as the reader goes, and so is every value that the reader made, as far as its numbers are. -/

namespace ContractClient.Json

open Number (Stops)

/-! ## Strings -/

section Strings

variable {character : Char} {text characters rest : List Char}

theorem readCharacters_shortEscape {letter : Char} (short : shortEscape? letter = some character)
    (behind : readCharacters text = some (characters, rest)) :
    readCharacters ('\\' :: letter :: text) = some (character :: characters, rest) := by
  have different : letter ≠ 'u' := by
    rintro rfl
    cases short
  simp [readCharacters, different, short, behind]

theorem hexValue?_hexDigit {value : Nat} (small : value < 16) :
    hexValue? (hexDigit value) = some value := by
  have every : ∀ value : Fin 16, hexValue? (hexDigit value.val) = some value.val := by decide
  exact every ⟨value, small⟩

theorem readCharacters_longEscape (control : character.toNat < 0x20)
    (behind : readCharacters text = some (characters, rest)) :
    readCharacters ('\\' :: 'u' :: '0' :: '0' :: hexDigit (character.toNat / 16) ::
      hexDigit (character.toNat % 16) :: text) = some (character :: characters, rest) := by
  have zero : hexValue? '0' = some 0 := by decide
  have high : hexValue? (hexDigit (character.toNat / 16)) = some (character.toNat / 16) :=
    hexValue?_hexDigit (by omega)
  have low : hexValue? (hexDigit (character.toNat % 16)) = some (character.toNat % 16) :=
    hexValue?_hexDigit (by omega)
  have code : hexFour? '0' '0' (hexDigit (character.toNat / 16))
      (hexDigit (character.toNat % 16)) = some character.toNat := by
    simp only [hexFour?, zero, high, low]
    congr 1
    omega
  have notLow : ¬ (0xDC00 ≤ character.toNat ∧ character.toNat ≤ 0xDFFF) := by omega
  have notHigh : ¬ (0xD800 ≤ character.toNat ∧ character.toNat ≤ 0xDBFF) := by omega
  simp only [readCharacters, code, if_neg notLow, if_neg notHigh, behind, Char.ofNat_toNat]

theorem readCharacters_plain (quote : character ≠ '"') (backslash : character ≠ '\\')
    (printed : ¬ character.toNat < 0x20)
    (behind : readCharacters text = some (characters, rest)) :
    readCharacters (character :: text) = some (character :: characters, rest) := by
  have kept : ¬ (character.toNat < 0x20 ∨ character = '\\') := by
    rintro (control | same)
    · exact printed control
    · exact backslash same
  rw [readCharacters]
  · simp only [if_neg kept, behind]
  · simp [quote]
  · simp [backslash]
  · simp [backslash]

theorem readCharacters_writeCharacter (behind : readCharacters text = some (characters, rest)) :
    readCharacters (writeCharacter character ++ text) = some (character :: characters, rest) := by
  unfold writeCharacter
  split
  · next same => exact readCharacters_shortEscape (by rw [same]; rfl) behind
  split
  · next same => exact readCharacters_shortEscape (by rw [same]; rfl) behind
  split
  · next same => exact readCharacters_shortEscape (by rw [same]; rfl) behind
  split
  · next same => exact readCharacters_shortEscape (by rw [same]; rfl) behind
  split
  · next same => exact readCharacters_shortEscape (by rw [same]; rfl) behind
  split
  · next code =>
    have same : Char.ofNat 8 = character := by rw [← code, Char.ofNat_toNat]
    exact readCharacters_shortEscape (congrArg some same) behind
  split
  · next code =>
    have same : Char.ofNat 12 = character := by rw [← code, Char.ofNat_toNat]
    exact readCharacters_shortEscape (congrArg some same) behind
  split
  · next control => exact readCharacters_longEscape control behind
  · next quote backslash _ _ _ _ _ printed =>
    exact readCharacters_plain quote backslash printed behind

theorem readCharacters_written (text rest : List Char) :
    readCharacters (text.flatMap writeCharacter ++ '"' :: rest) = some (text, rest) := by
  induction text with
  | nil => rfl
  | cons first others induction =>
      rw [List.flatMap_cons, List.append_assoc]
      exact readCharacters_writeCharacter induction

end Strings

/-! ## Values -/

/-- A value as a text spells it: nested no deeper than a bound, the members of its objects in
the order of their names, and its numbers of one kind. -/
inductive Within (kind : Number → Prop) : Nat → Json → Prop
  | null {depth : Nat} : Within kind depth .null
  | boolean {depth : Nat} (flag : Bool) : Within kind depth (.boolean flag)
  | number {depth : Nat} {value : Number} (own : kind value) : Within kind depth (.number value)
  | string {depth : Nat} (text : String) : Within kind depth (.string text)
  | array {depth : Nat} {items : List Json} (each : ∀ item ∈ items, Within kind depth item) :
      Within kind (depth + 1) (.array items)
  | object {depth : Nat} {members : List (String × Json)} (ordered : Ordered members)
      (each : ∀ member ∈ members, Within kind depth member.2) :
      Within kind (depth + 1) (.object members)

section Values

variable {kind : Number → Prop} {depth : Nat} {value : Json}

theorem Within.and {other : Number → Prop} {further : Nat} (within : value.Within kind depth)
    (also : value.Within other further) :
    value.Within (fun number => kind number ∧ other number) depth := by
  induction within generalizing further with
  | null => exact .null
  | boolean flag => exact .boolean flag
  | number own =>
      cases also with
      | number too => exact .number ⟨own, too⟩
  | string text => exact .string text
  | array each induction =>
      cases also with
      | array too => exact .array fun item inside => induction item inside (too item inside)
  | object ordered each induction =>
      cases also with
      | object _ too =>
          exact .object ordered fun member inside => induction member inside (too member inside)

theorem Within.imp {other : Number → Prop} {further : Nat} (within : value.Within kind depth)
    (bound : depth ≤ further) (implies : ∀ number, kind number → other number) :
    value.Within other further := by
  induction within generalizing further with
  | null => exact .null
  | boolean flag => exact .boolean flag
  | number own => exact .number (implies _ own)
  | string text => exact .string text
  | array each induction =>
      rcases further with _ | further
      · cases bound
      · exact .array fun item inside => induction item inside (Nat.le_of_succ_le_succ bound)
  | object ordered each induction =>
      rcases further with _ | further
      · cases bound
      · exact .object ordered fun member inside =>
          induction member inside (Nat.le_of_succ_le_succ bound)

end Values

/-! ## Reading what was written -/

theorem skipBlanks_cons {first : Char} (printed : isBlank first = false) (rest : List Char) :
    skipBlanks (first :: rest) = first :: rest := by
  rw [skipBlanks, List.dropWhile_cons_of_neg (by simp [printed])]

section Reading

variable {item : Take Json}

theorem readItems_writeItems {items : List Json} (bound : Nat)
    (reads : ∀ value ∈ items, ∀ rest, Stops rest → item (write value ++ rest) = some (value, rest))
    (nonempty : items ≠ []) (room : items.length ≤ bound) (rest : List Char) :
    readItems item bound (writeItems items ++ ']' :: rest) = some (items, rest) := by
  induction items generalizing bound with
  | nil => exact absurd rfl nonempty
  | cons first others induction =>
      rcases bound with _ | bound
      · cases room
      have read := reads first List.mem_cons_self
      rcases others with _ | ⟨second, others⟩
      · have last := read (']' :: rest) (Number.stops_cons (by decide))
        simp [readItems, writeItems, last, skipBlanks, isBlank]
      · have next := read (',' :: (writeItems (second :: others) ++ ']' :: rest))
          (Number.stops_cons (by decide))
        have behind := induction bound
          (fun value inside => reads value (List.mem_cons_of_mem _ inside)) (by simp)
          (by simpa using room)
        simp [readItems, writeItems, next, behind, skipBlanks, isBlank]

theorem readMember_written (name : String) {value : Json} {rest : List Char}
    (read : item (write value ++ rest) = some (value, rest)) :
    readMember item (writeString name ++ ':' :: (write value ++ rest)) =
      some ((name, value), rest) := by
  have characters := readCharacters_written name.toList (':' :: (write value ++ rest))
  simp [readMember, writeString, skipBlanks, isBlank, characters, read, String.ofList_toList]

theorem readMembers_writeMembers {members : List (String × Json)} (bound : Nat)
    (reads : ∀ member ∈ members, ∀ rest, Stops rest →
      item (write member.2 ++ rest) = some (member.2, rest))
    (nonempty : members ≠ []) (room : members.length ≤ bound) (rest : List Char) :
    readMembers item bound (writeMembers members ++ '}' :: rest) = some (members, rest) := by
  induction members generalizing bound with
  | nil => exact absurd rfl nonempty
  | cons first others induction =>
      rcases first with ⟨name, value⟩
      rcases bound with _ | bound
      · cases room
      have read := reads (name, value) List.mem_cons_self
      rcases others with _ | ⟨second, others⟩
      · have last := readMember_written name
          (read ('}' :: rest) (Number.stops_cons (by decide)))
        simp [readMembers, writeMembers, last, skipBlanks, isBlank]
      · have next := readMember_written name
          (read (',' :: (writeMembers (second :: others) ++ '}' :: rest))
            (Number.stops_cons (by decide)))
        have behind := induction bound
          (fun member inside => reads member (List.mem_cons_of_mem _ inside)) (by simp)
          (by simpa using room)
        simp [readMembers, writeMembers, next, behind, skipBlanks, isBlank]

theorem length_le_writeItems (items : List Json) :
    items.length ≤ (writeItems items).length + 1 := by
  induction items with
  | nil => simp
  | cons first others induction =>
      rcases others with _ | ⟨second, others⟩
      · simp
      · simp only [writeItems, List.length_append, List.length_cons] at induction ⊢
        omega

theorem length_le_writeMembers (members : List (String × Json)) :
    members.length ≤ (writeMembers members).length + 1 := by
  induction members with
  | nil => simp
  | cons first others induction =>
      rcases others with _ | ⟨second, others⟩
      · simp
      · simp only [writeMembers, List.length_append, List.length_cons] at induction ⊢
        omega

end Reading

theorem readValue_other {first : Char} (depth : Nat) (rest : List Char)
    (printed : isBlank first = false) (other : first ∉ ['n', 't', 'f', '"', '[', '{']) :
    readValue depth (first :: rest) =
      (Number.read (first :: rest)).map fun found => (.number found.1, found.2) := by
  simp only [List.mem_cons, not_or] at other
  rcases other with ⟨null, true, false, quote, bracket, brace, _⟩
  unfold readValue
  rw [skipBlanks_cons printed]
  split
  · next same => exact absurd (List.cons.inj same).1 null
  · next same => exact absurd (List.cons.inj same).1 true
  · next same => exact absurd (List.cons.inj same).1 false
  · next same => exact absurd (List.cons.inj same).1 quote
  · next same => exact absurd (List.cons.inj same).1 bracket
  · next same => exact absurd (List.cons.inj same).1 brace
  · rfl

theorem readValue_number {text rest : List Char} {number : Number} (depth : Nat)
    (taken : Number.read text = some (number, rest)) :
    readValue depth text = some (.number number, rest) := by
  rcases Number.read_begins taken with ⟨first, others, rfl, differs⟩
  rw [readValue_other depth others (by simp [isBlank, differs]) (by simp [differs]), taken]
  rfl

theorem readValue_foreign {first : Char} (depth : Nat) (rest : List Char)
    (printed : isBlank first = false) (digit : first.isDigit = false)
    (foreign : first ∉ ['n', 't', 'f', '"', '[', '{', '-']) :
    readValue depth (first :: rest) = none := by
  have other : first ∉ ['n', 't', 'f', '"', '[', '{'] := fun inside =>
    foreign (List.mem_append_left ['-'] inside)
  have unsigned : first ≠ '-' := fun minus => foreign (by simp [minus])
  rw [readValue_other depth rest printed other, Option.map_eq_none_iff]
  cases read : Number.read (first :: rest) with
  | none => rfl
  | some found =>
      rcases Number.read_begins read with ⟨_, _, same, differs⟩
      cases same
      exact absurd rfl (differs first unsigned digit)

theorem write_begins {depth : Nat} {value : Json} (within : value.Within Number.ReadsBack depth) :
    ∃ first rest, write value = first :: rest ∧ isBlank first = false ∧ first ≠ ']' := by
  cases within with
  | null => exact ⟨_, _, rfl, by decide⟩
  | boolean flag => cases flag <;> exact ⟨_, _, rfl, by decide⟩
  | string text => exact ⟨_, _, rfl, by decide⟩
  | array each => exact ⟨_, _, rfl, by decide⟩
  | object ordered each => exact ⟨_, _, rfl, by decide⟩
  | number own =>
      rcases Number.read_begins (own [] Number.stops_nil) with ⟨first, rest, same, differs⟩
      rw [List.append_nil] at same
      exact ⟨first, rest, same, by simp [isBlank, differs], differs ']' (by decide) rfl⟩

theorem writeItems_begins {depth : Nat} {first : Json} (others : List Json)
    (within : first.Within Number.ReadsBack depth) :
    ∃ begin text, writeItems (first :: others) = begin :: text ∧ isBlank begin = false ∧
      begin ≠ ']' := by
  rcases write_begins within with ⟨begin, text, same, printed, opened⟩
  rcases others with _ | ⟨second, others⟩
  · exact ⟨begin, text, same, printed, opened⟩
  · rw [writeItems, same]
    · exact ⟨begin, _, rfl, printed, opened⟩
    · simp

theorem writeMembers_begins (first : String × Json) (others : List (String × Json)) :
    ∃ text, writeMembers (first :: others) = '"' :: text := by
  rcases first with ⟨name, value⟩
  rcases others with _ | ⟨second, others⟩
  · exact ⟨_, rfl⟩
  · rw [writeMembers]
    · exact ⟨_, rfl⟩
    · simp

theorem readValue_items {depth : Nat} {first : Char} {text rest : List Char} {items : List Json}
    (printed : isBlank first = false) (opened : first ≠ ']')
    (read : readItems (readValue depth) ((first :: text).length + 1) (first :: text) =
      some (items, rest)) :
    readValue (depth + 1) ('[' :: first :: text) = some (.array items, rest) := by
  unfold readValue
  rw [skipBlanks_cons (by decide)]
  simp only [skipBlanks_cons printed]
  split
  · next same => exact absurd (List.cons.inj same).1 opened
  · rw [read]
    rfl

theorem readValue_members {depth : Nat} {first : Char} {text rest : List Char}
    {members : List (String × Json)} (printed : isBlank first = false) (opened : first ≠ '}')
    (read : readMembers (readValue depth) ((first :: text).length + 1) (first :: text) =
      some (members, rest)) :
    readValue (depth + 1) ('{' :: first :: text) = some (ofPairs members, rest) := by
  unfold readValue
  rw [skipBlanks_cons (by decide)]
  simp only [skipBlanks_cons printed]
  split
  · next same => exact absurd (List.cons.inj same).1 opened
  · rw [read]
    rfl

theorem readValue_write {depth : Nat} {value : Json} (within : value.Within Number.ReadsBack depth)
    (rest : List Char) (stops : Stops rest) :
    readValue depth (write value ++ rest) = some (value, rest) := by
  induction within generalizing rest with
  | null => simp [readValue, write, skipBlanks, isBlank]
  | boolean flag => cases flag <;> simp [readValue, write, skipBlanks, isBlank]
  | number own => exact readValue_number _ (own rest stops)
  | string text =>
      have characters := readCharacters_written text.toList rest
      simp [readValue, write, writeString, skipBlanks, isBlank, characters, String.ofList_toList]
  | @array depth items each induction =>
      rcases items with _ | ⟨first, others⟩
      · simp [readValue, write, writeItems, skipBlanks, isBlank]
      · rcases writeItems_begins others (each first List.mem_cons_self) with
          ⟨begin, text, same, printed, opened⟩
        have room := length_le_writeItems (first :: others)
        have read := readItems_writeItems (writeItems (first :: others) ++ ']' :: rest).length.succ
          induction (by simp) (by simp only [List.length_append]; omega) rest
        rw [same, List.cons_append] at read
        rw [write, same, List.append_assoc, List.append_assoc]
        exact readValue_items printed opened read
  | @object depth members ordered each induction =>
      rcases members with _ | ⟨first, others⟩
      · simp [readValue, write, writeMembers, skipBlanks, isBlank]
      · rcases writeMembers_begins first others with ⟨text, same⟩
        have room := length_le_writeMembers (first :: others)
        have read := readMembers_writeMembers
          (writeMembers (first :: others) ++ '}' :: rest).length.succ
          induction (by simp) (by simp only [List.length_append]; omega) rest
        rw [same, List.cons_append] at read
        rw [write, same, List.append_assoc, List.append_assoc]
        have whole := readValue_members (by decide) (by decide) read
        rwa [ofPairs, membersOf_of_ordered ordered] at whole

/-- A value as a text spells it is read back from its text. -/
theorem parse?_toText {value : Json} (within : value.Within Number.ReadsBack maxDepth) :
    parse? value.toText = some value := by
  have read := readValue_write within [] Number.stops_nil
  rw [List.append_nil] at read
  rw [parse?, toText, String.toList_ofList, read]
  rfl

/-! ## Values that the reader makes -/

section Made

variable {item : Take Json} {text rest : List Char}

theorem mem_of_readItems {bound : Nat} {items : List Json}
    (read : readItems item bound text = some (items, rest)) :
    ∀ value ∈ items, ∃ start left, item start = some (value, left) := by
  induction bound generalizing text items rest with
  | zero => cases read
  | succ bound induction =>
      simp only [readItems] at read
      split at read
      · cases read
      · next first behind taken =>
          split at read
          · split at read
            · cases read
            · next others left further =>
                cases read
                intro value inside
                rcases List.mem_cons.mp inside with rfl | later
                · exact ⟨text, behind, taken⟩
                · exact induction further value later
          · cases read
            intro value inside
            rw [List.mem_singleton] at inside
            exact ⟨text, behind, inside ▸ taken⟩
          · cases read

theorem exists_of_readMember {member : String × Json}
    (read : readMember item text = some (member, rest)) :
    ∃ start left, item start = some (member.2, left) := by
  simp only [readMember] at read
  split at read
  · split at read
    · cases read
    · split at read
      · next behind _ =>
          split at read
          · cases read
          · next value left taken =>
              cases read
              exact ⟨behind, _, taken⟩
      · cases read
  · cases read

theorem mem_of_readMembers {bound : Nat} {members : List (String × Json)}
    (read : readMembers item bound text = some (members, rest)) :
    ∀ member ∈ members, ∃ start left, item start = some (member.2, left) := by
  induction bound generalizing text members rest with
  | zero => cases read
  | succ bound induction =>
      simp only [readMembers] at read
      split at read
      · cases read
      · next first behind taken =>
          split at read
          · split at read
            · cases read
            · next others left further =>
                cases read
                intro member inside
                rcases List.mem_cons.mp inside with rfl | later
                · exact exists_of_readMember taken
                · exact induction further member later
          · cases read
            intro member inside
            rw [List.mem_singleton] at inside
            exact inside ▸ exists_of_readMember taken
          · cases read

theorem within_of_readValue {depth : Nat} {value : Json}
    (read : readValue depth text = some (value, rest)) : value.Within Number.Readable depth := by
  -- The depth is looked at only where an array or an object opens, so one unfolding serves all.
  induction depth using Nat.strongRecOn generalizing text value rest with
  | ind depth shallower =>
      unfold readValue at read
      split at read
      · cases read
        exact .null
      · cases read
        exact .boolean true
      · cases read
        exact .boolean false
      · rcases Option.map_eq_some_iff.mp read with ⟨found, _, same⟩
        cases same
        exact .string _
      · rcases depth with _ | depth
        · cases read
        · simp only at read
          split at read
          · cases read
            exact .array fun item inside => absurd inside List.not_mem_nil
          · rcases Option.map_eq_some_iff.mp read with ⟨found, taken, same⟩
            cases same
            refine .array fun item inside => ?_
            rcases mem_of_readItems taken item inside with ⟨start, left, one⟩
            exact shallower depth (Nat.lt_succ_self depth) one
      · rcases depth with _ | depth
        · cases read
        · simp only at read
          split at read
          · cases read
            exact .object List.Pairwise.nil fun member inside => absurd inside List.not_mem_nil
          · rcases Option.map_eq_some_iff.mp read with ⟨found, taken, same⟩
            cases same
            refine .object (ordered_membersOf found.1) fun member inside => ?_
            rcases mem_of_readMembers taken member (mem_of_mem_membersOf member inside) with
              ⟨start, left, one⟩
            exact shallower depth (Nat.lt_succ_self depth) one
      · rcases Option.map_eq_some_iff.mp read with ⟨found, taken, same⟩
        cases same
        exact .number (Number.read_readable taken)

end Made

theorem within_of_parse? {text : String} {value : Json} (read : parse? text = some value) :
    value.Within Number.Readable maxDepth := by
  unfold parse? at read
  split at read
  · next taken =>
      split at read
      · cases read
        exact within_of_readValue taken
      · cases read
  · cases read

end ContractClient.Json
